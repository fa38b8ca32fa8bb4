import MessageMarkup.Proofs.Acceptance
import MessageMarkup.Report

/-!
# Which token is to blame

A message that cannot be read has a first token that cannot, or else a tag that nothing closes. The
failure names the one or the other, and points to the token if that is a close tag.

## Main definitions

- `Token.extent` — how many characters tokens take up
- `Token.Leaves` — the tags that are open after tokens that can be read
- `Token.Offends` — why a token cannot be read where some tags are open
- `Token.Blames` — why a message cannot be read

## Main statements

- `Parser.State.offends_of_read`, `Parser.State.exists_read_of_offends` — the parser fails at just the
  tokens that offend
- `Parser.State.exists_foldlM_read` — the parser can read the tokens in front of them
- `parse_eq_error_iff` — which failure a message gives rise to, and where it points
-/

namespace MessageMarkup

open Outcome

namespace Token

def extent (ts : List Token) : Nat :=
  (ts.flatMap source).length

/-- No tag among the tokens is opened beyond the limit or closed in vain, and these labels are open
    after them, innermost first. -/
def Leaves (limit : Int) (ts : List Token) (labels : List (List Char)) : Prop :=
  ts.foldlM openAfter [] = some labels ∧ (mostOpen 0 ts : Int) ≤ max 0 limit

/-- Why the token at a position of a message cannot be read where tags of some labels are open,
    innermost first. -/
inductive Offends (limit : Int) (source : String) (position : Nat) :
    List (List Char) → Token → Failure → Prop
  | tooDeep {labels : List (List Char)} {label : List Char} : limit ≤ labels.length →
      Offends limit source position labels (opening label) (.nestingTooDeep limit)
  | unopened {label : List Char} :
      Offends limit source position [] (closing label) (.unbalancedTags source (some position))
  | attributes {innermost label : List Char} {outer : List (List Char)} :
      innermost ≠ label → ' ' ∈ innermost →
      Offends limit source position (innermost :: outer) (closing label)
        (.tagHasAttributes source (String.ofList innermost) position)
  | mismatch {innermost label : List Char} {outer : List (List Char)} :
      innermost ≠ label → ' ' ∉ innermost →
      Offends limit source position (innermost :: outer) (closing label)
        (.unbalancedTags source (some position))

/-- Why a message cannot be read: for its first token that offends, or for a tag left open. -/
inductive Blames (limit : Int) (source : String) : Failure → Prop
  | token {front back : List Token} {t : Token} {labels : List (List Char)} {failure : Failure} :
      lex source.toList = front ++ t :: back → Leaves limit front labels →
      Offends limit source (extent front) labels t failure → Blames limit source failure
  | leftOpen {labels : List (List Char)} :
      Leaves limit (lex source.toList) labels → labels ≠ [] →
      Blames limit source (.unbalancedTags source none)

theorem extent_cons (t : Token) (ts : List Token) : extent (t :: ts) = t.source.length + extent ts := by
  simp [extent]

/-- A token stands in the message where those in front of it end. -/
theorem source_of_lex {cs : List Char} {front back : List Token} {t : Token}
    (h : lex cs = front ++ t :: back) : ∃ rest, cs.drop (extent front) = t.source ++ rest := by
  refine ⟨back.flatMap source, ?_⟩
  have hcs := flatMap_source_lex cs
  rw [h, List.flatMap_append, List.flatMap_cons] at hcs
  rw [← hcs, extent, List.drop_left]

/-- A close tag begins with the two characters that mark it. -/
theorem getElem?_of_lex_closing {cs : List Char} {front back : List Token} {label : List Char}
    (h : lex cs = front ++ closing label :: back) :
    cs[extent front]? = some '<' ∧ cs[extent front + 1]? = some '/' := by
  obtain ⟨rest, hdrop⟩ := source_of_lex h
  have hget (i : Nat) : cs[extent front + i]? = ((closing label).source ++ rest)[i]? := by
    rw [← hdrop, List.getElem?_drop]
  exact ⟨hget 0, hget 1⟩

/-- The tags that are open after a token count among those that ever are. -/
theorem mostOpen_le_of_openAfter {labels labels' : List (List Char)} {t : Token}
    (h : openAfter labels t = some labels') (ts : List Token) :
    mostOpen labels'.length ts ≤ mostOpen labels.length (t :: ts) := by
  cases t with
  | literal _ | percent | placeholder _ | void _ =>
    cases h
    exact le_rfl
  | opening label =>
    cases h
    exact le_max_right _ _
  | closing label =>
    cases labels with
    | nil => cases h
    | cons innermost outer =>
      rw [openAfter, Option.ite_none_right_eq_some] at h
      obtain ⟨_, h⟩ := h
      cases h
      exact le_max_right _ _

/-- A token that opens or closes a tag within the limit does not offend. -/
theorem not_offends_of_openAfter {limit : Int} {source : String} {position : Nat}
    {labels labels' : List (List Char)} {t : Token} {ts : List Token} {failure : Failure}
    (h : openAfter labels t = some labels')
    (hmost : (mostOpen labels.length (t :: ts) : Int) ≤ max 0 limit) :
    ¬ Offends limit source position labels t failure := by
  intro hoffends
  cases hoffends with
  | tooDeep hfull =>
    have := le_mostOpen (labels.length + 1) ts
    simp only [mostOpen] at hmost
    omega
  | unopened => cases h
  | attributes hne _ | mismatch hne _ => simp [openAfter, hne] at h

end Token

namespace Parser.State

open Token

theorem labels_eq_nil {s : State} : s.labels = [] ↔ s.openTags = [] := by
  simp [labels]

theorem length_labels (s : State) : s.labels.length = s.openTags.length := by
  simp [labels]

theorem offset_of_read {s s' : State} {t : Token} (h : s.read t = .ok s') :
    s'.offset = s.offset + t.source.length := by
  cases t with
  | literal _ | percent | placeholder _ | void _ =>
    cases h
    rfl
  | opening label =>
    simp only [read, openTag] at h
    split at h
    · cases h
    · cases h
      rfl
  | closing label =>
    simp only [read, closeTag] at h
    split at h
    · cases h
    · split at h
      · cases h
        rfl
      · split at h <;> cases h

/-- What a run over tokens keeps: the limit, the count of open tags, and the offset as that of the
    next character. -/
theorem foldlM_read_invariant {ts : List Token} {s s' : State} (h : ts.foldlM read s = .ok s')
    (hs : s.Counted) :
    s'.guard.limit = s.guard.limit ∧ s'.offset = s.offset + extent ts ∧ s'.Counted := by
  induction ts generalizing s with
  | nil =>
    cases h
    exact ⟨rfl, rfl, hs⟩
  | cons t ts ih =>
    rw [List.foldlM_cons, bind_eq_ok] at h
    obtain ⟨s₁, hread, h⟩ := h
    obtain ⟨_, hlimit, hcounted, _⟩ := read_eq_ok hread
    obtain ⟨hlimit', hoffset', hs'⟩ := ih h (hcounted hs)
    refine ⟨hlimit'.trans hlimit, ?_, hs'⟩
    rw [hoffset', offset_of_read hread, extent_cons]
    omega

theorem exists_openTag_of_labels {s : State} {innermost : List Char} {outer : List (List Char)}
    (h : s.labels = innermost :: outer) :
    ∃ tag rest, s.openTags = tag :: rest ∧ tag.label = String.ofList innermost := by
  rw [labels, List.map_eq_cons_iff] at h
  obtain ⟨tag, rest, htags, hlabel, _⟩ := h
  refine ⟨tag, rest, htags, ?_⟩
  rw [← hlabel, String.ofList_toList]

/-- A token at which the parser fails offends against the tags that are open. -/
theorem offends_of_read {s : State} {t : Token} {fault : Fault} (h : s.read t = .error fault)
    (hs : s.Counted) (source : String) :
    Offends s.guard.limit source s.offset s.labels t (fault.toFailure source) := by
  cases t with
  | literal _ | percent | placeholder _ | void _ => cases h
  | opening label =>
    simp only [read, openTag] at h
    split at h
    · next hexceeded =>
      cases h
      have hlevel : s.guard.limit ≤ s.guard.level := DepthGuard.exceeded_iff.1 hexceeded
      rw [hs.1, ← length_labels] at hlevel
      exact .tooDeep hlevel
    · cases h
  | closing label =>
    cases hlabels : s.labels with
    | nil =>
      have htags : s.openTags = [] := labels_eq_nil.1 hlabels
      simp only [read, closeTag, skip, htags] at h
      cases h
      exact .unopened
    | cons innermost outer =>
      obtain ⟨tag, rest, htags, hlabel⟩ := exists_openTag_of_labels hlabels
      simp only [read, closeTag, skip, htags, hlabel, String.ofList_inj] at h
      split at h
      · cases h
      · next hne =>
        split at h
        · next hattributes =>
          cases h
          refine .attributes hne ?_
          simpa [OpenTag.hasAttributes, hlabel] using hattributes
        · next hattributes =>
          cases h
          refine .mismatch hne ?_
          simpa [OpenTag.hasAttributes, hlabel] using hattributes

/-- The parser fails at a token that offends, and for that reason. -/
theorem exists_read_of_offends {s : State} {t : Token} {source : String} {failure : Failure}
    (h : Offends s.guard.limit source s.offset s.labels t failure) (hs : s.Counted) :
    ∃ fault, s.read t = .error fault ∧ fault.toFailure source = failure := by
  generalize hlabels : s.labels = labels at h
  cases h with
  | tooDeep hfull =>
    have hexceeded : s.guard.exceeded = true := by
      rw [DepthGuard.exceeded_iff, hs.1, ← length_labels, hlabels]
      exact hfull
    exact ⟨.nestingTooDeep s.guard.limit, by simp [read, openTag, skip, hexceeded], rfl⟩
  | unopened =>
    have htags : s.openTags = [] := labels_eq_nil.1 hlabels
    exact ⟨.unbalancedTags (some s.offset), by simp [read, closeTag, skip, htags], rfl⟩
  | @attributes innermost _ _ hne hspace =>
    obtain ⟨tag, rest, htags, hlabel⟩ := exists_openTag_of_labels hlabels
    have hattributes : tag.hasAttributes = true := by simpa [OpenTag.hasAttributes, hlabel] using hspace
    refine ⟨.tagHasAttributes (String.ofList innermost) s.offset, ?_, rfl⟩
    simp [read, closeTag, skip, htags, hlabel, String.ofList_inj, hne, hattributes]
  | mismatch hne hspace =>
    obtain ⟨tag, rest, htags, hlabel⟩ := exists_openTag_of_labels hlabels
    have hattributes : tag.hasAttributes = false := by simpa [OpenTag.hasAttributes, hlabel] using hspace
    refine ⟨.unbalancedTags (some s.offset), ?_, rfl⟩
    simp [read, closeTag, skip, htags, hlabel, String.ofList_inj, hne, hattributes]

/-- The parser can read what can be opened and closed within the limit. -/
theorem exists_foldlM_read {ts : List Token} {s : State} {labels : List (List Char)}
    (h : ts.foldlM openAfter s.labels = some labels)
    (hmost : (mostOpen s.labels.length ts : Int) ≤ max 0 s.guard.limit) (hs : s.Counted) :
    ∃ s', ts.foldlM read s = .ok s' ∧ s'.labels = labels := by
  induction ts generalizing s with
  | nil => exact ⟨s, rfl, by simpa using h⟩
  | cons t ts ih =>
    rw [List.foldlM_cons] at h
    obtain ⟨labels₁, hafter, h⟩ := Option.bind_eq_some_iff.1 h
    cases hread : s.read t with
    | error fault =>
      exact absurd (offends_of_read hread hs "") (not_offends_of_openAfter hafter hmost)
    | ok s₁ =>
      obtain ⟨hafter₁, hlimit, hcounted, _⟩ := read_eq_ok hread
      obtain rfl : labels₁ = s₁.labels := by simpa [hafter] using hafter₁
      have hmost₁ := mostOpen_le_of_openAfter hafter ts
      obtain ⟨s', hrun, hlabels⟩ := ih h (by rw [hlimit]; omega) (hcounted hs)
      refine ⟨s', ?_, hlabels⟩
      rw [List.foldlM_cons, hread, ok_bind, hrun]

theorem leaves_of_run {limit : Int} {ts : List Token} {s : State}
    (h : ts.foldlM read (start limit) = .ok s) :
    Leaves (Nesting.clamp limit) ts s.labels ∧ s.guard.limit = Nesting.clamp limit ∧
      s.offset = extent ts ∧ s.Counted := by
  obtain ⟨hlimit, hoffset, hs⟩ := foldlM_read_invariant h (counted_start limit)
  refine ⟨foldlM_read_eq_ok h (counted_start limit), hlimit, ?_, hs⟩
  rw [hoffset]
  exact Nat.zero_add _

theorem exists_run_of_leaves {limit : Int} {ts : List Token} {labels : List (List Char)}
    (h : Leaves (Nesting.clamp limit) ts labels) :
    ∃ s, ts.foldlM read (start limit) = .ok s ∧ s.labels = labels :=
  exists_foldlM_read (s := start limit) h.1 h.2 (counted_start limit)

theorem finish_eq_error {s : State} {fault : Fault} :
    s.finish = .error fault ↔ s.openTags ≠ [] ∧ fault = .unbalancedTags none := by
  by_cases htags : s.openTags = []
  · simp [finish, htags]
  · simp [finish, htags, eq_comm]

end Parser.State

open MessageMarkup.Parser MessageMarkup.Parser.State

/-- The parser fails at the first token that offends, or else at the end for a tag left open. -/
theorem blames_iff {limit : Int} {source : String} {failure : Failure} :
    Token.Blames (Nesting.clamp limit) source failure ↔ parse limit source = .error failure := by
  rw [parse_eq_error_iff_run]
  simp only [run_eq, bind_eq_error, foldlM_eq_error, finish_eq_error]
  constructor
  · rintro (⟨hlex, hleaves, hoffends⟩ | ⟨hleaves, hopen⟩)
    · obtain ⟨s, hrun, rfl⟩ := exists_run_of_leaves hleaves
      obtain ⟨_, hlimit, hoffset, hs⟩ := leaves_of_run hrun
      rw [← hlimit, ← hoffset] at hoffends
      obtain ⟨fault, hread, hfailure⟩ := exists_read_of_offends hoffends hs
      exact ⟨fault, .inl ⟨_, _, _, s, hlex, hrun, hread⟩, hfailure⟩
    · obtain ⟨s, hrun, rfl⟩ := exists_run_of_leaves hleaves
      exact ⟨_, .inr ⟨s, hrun, mt labels_eq_nil.2 hopen, rfl⟩, rfl⟩
  · rintro ⟨fault, ⟨front, t, back, s, hlex, hrun, hread⟩ | ⟨s, hrun, hopen, rfl⟩, rfl⟩
    · obtain ⟨hleaves, hlimit, hoffset, hs⟩ := leaves_of_run hrun
      have hoffends := offends_of_read hread hs source
      rw [hlimit, hoffset] at hoffends
      exact .token hlex hleaves hoffends
    · exact .leftOpen (leaves_of_run hrun).1 (mt labels_eq_nil.1 hopen)

/-- A message cannot be read just if some token is to blame, or a tag that is left open, and then for
    that reason. The diagnostic points to a close tag that is to blame, and to nothing if a tag is left
    open. Every failure of markup carries the message. -/
theorem parse_eq_error_iff (limit : Int) (source : String) :
    (∀ failure, parse limit source = .error failure ↔
        Token.Blames (min limit 475) source failure) ∧
      (∀ front label back labels failure,
        Token.lex source.toList = front ++ .closing label :: back →
        Token.Offends (min limit 475) source (Token.extent front) labels (.closing label) failure →
          failure.diagnostic.span = some (.point (Token.extent front)) ∧
            source.toList[Token.extent front]? = some '<' ∧
            source.toList[Token.extent front + 1]? = some '/') ∧
      (Failure.unbalancedTags source none).diagnostic.span = none ∧
      ∀ failure, parse limit source = .error failure →
        .markup ∈ failure.report.category.lineage →
          failure.diagnostic.source = some source ∧ failure.report.facts = [("source", .text source)] := by
  refine ⟨fun failure => blames_iff.symm, ?_, rfl, ?_⟩
  · intro front label back labels failure hlex hoffends
    refine ⟨?_, Token.getElem?_of_lex_closing hlex⟩
    cases hoffends <;> rfl
  · intro failure hfails hmarkup
    rw [parse_eq_error_iff_run] at hfails
    obtain ⟨fault, _, rfl⟩ := hfails
    cases fault with
    | unbalancedTags _ | tagHasAttributes _ _ => exact ⟨rfl, rfl⟩
    | nestingTooDeep _ => simp [Fault.toFailure, Failure.report, Failure.category,
        Failure.Category.lineage] at hmarkup

example : parse 5 "x<b c></b>" = .error (.tagHasAttributes "x<b c></b>" "b c" 6) := by
  decide +kernel

end MessageMarkup
