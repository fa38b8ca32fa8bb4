import MessageMarkup.Proofs.Blame

/-!
# Messages one after the other

A message that does not end within markup can be followed by any other, and each is then read as it
is alone. Inside a tag it is read as well as outside.

## Main definitions

- `Parser.EndsInText` — a message does not end within markup
- `Failure.behind` — a failure of a message as one of a longer message that ends with it

## Main statements

- `Token.Lexes.append_of_run` — what follows a message that ends in text is cut on its own
- `Token.Blames.behind` — what is to blame in a message is to blame behind another one
- `parse_append` — how a message is read that another one follows, or that a tag encloses
-/

namespace MessageMarkup

open Node Outcome MessageMarkup.Parser MessageMarkup.Parser.State

/-- The message can be read up to its end, and ends within no tag and no placeholder. -/
def Parser.EndsInText (limit : Int) (source : String) : Prop :=
  ∃ s, source.toList.foldlM next (start limit) = .ok s ∧ s.mode = .text

namespace Token

/-- What follows characters at whose end the parser stands in text is cut into tokens on its own. -/
theorem Lexes.append_of_run {cs : List Char} {ts : List Token} (h : Lexes cs ts) {s s' : State}
    (hs : s.mode = .text) (hrun : cs.foldlM next s = .ok s') (hs' : s'.mode = .text)
    {rest : List Char} {us : List Token} (hrest : Lexes rest us) : Lexes (cs ++ rest) (ts ++ us) := by
  -- The parser is in text again behind each token. Markup without an end is what it never leaves.
  induction h generalizing s with
  | nil => exact hrest
  | named hname _ ih =>
    rw [foldlM_next_named hname hs, bind_eq_ok] at hrun
    obtain ⟨s₁, hread, hrun⟩ := hrun
    have := Lexes.named hname (ih (mode_of_read hs hread) hrun)
    simpa using this
  | unended hunended =>
    rw [foldlM_next_unended hunended hs] at hrun
    cases hrun
    cases hs'
  | tag hopen hclose _ ih =>
    rw [foldlM_next_tag hopen hclose hs, bind_eq_ok] at hrun
    obtain ⟨s₁, hread, hrun⟩ := hrun
    have := Lexes.tag hopen hclose (ih (mode_of_read hs hread) hrun)
    simpa using this
  | @stray label next _ hopen hclose hnext _ ih =>
    cases next with
    | nil =>
      rw [List.append_nil, foldlM_next_unendedLabel hopen hclose hs] at hrun
      cases hrun
      cases hs'
    | cons c next =>
      obtain rfl : c = '<' := hnext c rfl
      rw [foldlM_next_stray hopen hclose hs] at hrun
      have hbehind := ih (s := (s.skip _).addText _) hs hrun
      have := Lexes.stray hopen hclose (by simp) hbehind
      simpa using this
  | plain hpercent hopen _ ih =>
    rw [List.foldlM_cons, next_plain hs hpercent hopen, bind_eq_ok] at hrun
    obtain ⟨s₁, hread, hrun⟩ := hrun
    exact .plain hpercent hopen (ih (mode_of_read hs hread) hrun)

theorem lex_append {limit : Int} {source : String} (h : EndsInText limit source)
    (rest : List Char) : lex (source.toList ++ rest) = lex source.toList ++ lex rest := by
  obtain ⟨s, hrun, hs⟩ := h
  exact lex_eq_of_lexes ((lexes_lex _).append_of_run rfl hrun hs (lexes_lex rest))

end Token

/-- A failure of a message as one of a longer message, in which `front` stands before it. -/
def Failure.behind (front : String) : Failure → Failure
  | .unbalancedTags source position =>
    .unbalancedTags (front ++ source) (position.map (front.length + ·))
  | .tagHasAttributes source label position =>
    .tagHasAttributes (front ++ source) label (front.length + position)
  | failure => failure

/-- The span some characters further. -/
def Span.shift (count : Nat) (s : Span) : Span :=
  ⟨count + s.start, count + s.stop, Nat.add_le_add_left s.start_le_stop count⟩

theorem Failure.category_behind (front : String) (failure : Failure) :
    (failure.behind front).category = failure.category := by
  cases failure <;> rfl

theorem Failure.span_behind (front : String) (failure : Failure) :
    (failure.behind front).diagnostic.span =
      failure.diagnostic.span.map (Span.shift front.length) := by
  cases failure with
  | unbalancedTags source position => cases position <;> rfl
  | tagHasAttributes _ _ _ | nestingTooDeep _ | valueNotProvided _ | valueNotText _ _
  | invalidPluralForms _ _ _ _ | pluralFormNotFound _ _ _ _ | messageNotFound _ => rfl

namespace Token

theorem extent_append (ts us : List Token) : extent (ts ++ us) = extent ts + extent us := by
  simp [extent]

theorem extent_lex (source : String) : extent (lex source.toList) = source.length := by
  rw [extent, flatMap_source_lex, String.length_toList]

theorem Offends.behind {limit : Int} {source : String} {position : Nat} {labels : List (List Char)}
    {t : Token} {failure : Failure} (h : Offends limit source position labels t failure)
    (front : String) :
    Offends limit (front ++ source) (front.length + position) labels t (failure.behind front) := by
  cases h with
  | tooDeep hfull => exact .tooDeep hfull
  | unopened => exact .unopened
  | attributes hne hspace => exact .attributes hne hspace
  | mismatch hne hspace => exact .mismatch hne hspace

/-- Tokens that spell nodes change nothing about the tags that are open behind them. -/
theorem Leaves.of_spells_append {limit : Int} {ts us : List Token} {nodes : List Node}
    {labels : List (List Char)} (h : Spells ts nodes)
    (hdepth : (depthOf nodes : Int) ≤ max 0 limit) (hleaves : Leaves limit us labels) :
    Leaves limit (ts ++ us) labels := by
  obtain ⟨hlabels, hmost⟩ := hleaves
  constructor
  · rw [List.foldlM_append, openAfter_of_spells h []]
    exact hlabels
  · rw [mostOpen_append_of_spells h]
    omega

/-- What is to blame in a message is to blame behind another one that can be read and ends in
    text. -/
theorem Blames.behind {limit : Int} {source other : String} {nodes : List Node} {failure : Failure}
    (hspells : Spells (lex source.toList) nodes) (hdepth : (depthOf nodes : Int) ≤ max 0 limit)
    (hlex : lex (source ++ other).toList = lex source.toList ++ lex other.toList)
    (h : Blames limit other failure) : Blames limit (source ++ other) (failure.behind source) := by
  cases h with
  | @token front back t labels failure hother hleaves hoffends =>
    have hsplit : lex (source ++ other).toList = (lex source.toList ++ front) ++ t :: back := by
      rw [hlex, hother, List.append_assoc]
    have hoffends := hoffends.behind source
    rw [← extent_lex source, ← extent_append] at hoffends
    exact .token hsplit (hleaves.of_spells_append hspells hdepth) hoffends
  | leftOpen hleaves hopen =>
    refine .leftOpen ?_ hopen
    rw [hlex]
    exact hleaves.of_spells_append hspells hdepth

/-- A label that makes an open tag makes a close tag behind a slash. -/
theorem lex_enclosed {label : List Char} (hopen : '<' ∉ label) (hclose : '>' ∉ label)
    (hhead : label.head? ≠ some '/') (hlast : label.getLast? ≠ some '/') {cs : List Char}
    (hcs : ∀ rest, lex (cs ++ rest) = lex cs ++ lex rest) :
    lex ('<' :: (label ++ '>' :: (cs ++ '<' :: '/' :: (label ++ ['>'])))) =
      opening label :: (lex cs ++ [closing label]) := by
  have hclosing : lex ('<' :: ('/' :: label ++ '>' :: [])) = [closing label] := by
    rw [lex_tag (by simp [hopen]) (by simp [hclose]), ofLabel_slash_cons, lex_nil]
  rw [lex_tag hopen hclose, ofLabel_opening hhead hlast, hcs, ← hclosing]
  rfl

end Token

/-- A message that can be read and ends in text can be followed by another one. Their nodes then
    follow each other, and a failure of the second is one of the whole, at the same place of it.
    A tag around the message encloses its nodes, if the limit allows one more level. -/
theorem parse_append {limit : Int} {source : String} {nodes : List Node}
    (hparse : parse limit source = .ok nodes) (hends : EndsInText limit source) :
    (∀ other others, parse limit other = .ok others →
        parse limit (source ++ other) = .ok (fuse nodes others)) ∧
      (∀ other failure, parse limit other = .error failure →
        parse limit (source ++ other) = .error (failure.behind source) ∧
          (failure.behind source).category = failure.category ∧
          (failure.behind source).diagnostic.span =
            failure.diagnostic.span.map (Span.shift source.length)) ∧
      ∀ label : String, '<' ∉ label.toList → '>' ∉ label.toList →
        label.toList.head? ≠ some '/' → label.toList.getLast? ≠ some '/' →
        (depthOf nodes : Int) < min limit 475 →
          parse limit (Mark.tag label ++ source ++ Mark.closingTag label) =
            .ok [.tag (Text.trim label) nodes] := by
  obtain ⟨hspells, hdepth⟩ := parse_eq_ok_iff.1 hparse
  have hlex (other : String) :
      Token.lex (source ++ other).toList = Token.lex source.toList ++ Token.lex other.toList := by
    rw [String.toList_append, Token.lex_append hends]
  refine ⟨fun other others hother => ?_, fun other failure hother => ?_, ?_⟩
  · obtain ⟨hspells', hdepth'⟩ := parse_eq_ok_iff.1 hother
    rw [parse_eq_ok_iff, hlex, depthOf_fuse]
    exact ⟨hspells.append hspells', by omega⟩
  · have hblames := (blames_iff.2 hother).behind hspells hdepth (hlex other)
    exact ⟨blames_iff.1 hblames, failure.category_behind source, failure.span_behind source⟩
  · intro label hopen hclose hhead hlast hroom
    have henclosed := Token.lex_enclosed hopen hclose hhead hlast (Token.lex_append hends)
    have hspells' := @Token.Spells.tag label.toList _ _ _ _ hspells .nil
    rw [parse_eq_ok_iff, Nesting.clamp_eq_min, Nesting.largestLimit]
    constructor
    · simpa [henclosed] using hspells'
    · simp only [depthOf, depth]
      omega

/-- A message that ends with a doubled percent sign, with text behind it, with a close tag behind it
    that closes nothing, and within a tag. -/
theorem parse_append_percent :
    let source := "<b>%n%</b> 5%%"
    let nodes := [Node.tag "b" [.placeholder "n"], .text " 5%"]
    (parse 2 source = .ok nodes ∧ EndsInText 2 source) ∧
      (parse 2 " of <i/>" = .ok [.text " of ", .voidTag "i"] ∧
        parse 2 (source ++ " of <i/>") =
          .ok [.tag "b" [.placeholder "n"], .text " 5% of ", .voidTag "i"]) ∧
      (parse 2 "x</b>" = .error (.unbalancedTags "x</b>" (some 1)) ∧
        parse 2 (source ++ "x</b>") =
          .error (.unbalancedTags (source ++ "x</b>") (some (source.length + 1)))) ∧
      parse 2 (Mark.tag " p " ++ source ++ Mark.closingTag " p ") = .ok [.tag "p" nodes] := by
  intro source nodes
  have hparse : parse 2 source = .ok nodes := by decide +kernel
  have hends : EndsInText 2 source :=
    ⟨⟨⟨2, 0⟩, 14, .text, " 5%", [.tag "b" [.placeholder "n"]], []⟩, by decide +kernel, rfl⟩
  have hother : parse 2 " of <i/>" = .ok [.text " of ", .voidTag "i"] := by decide +kernel
  have hfails : parse 2 "x</b>" = .error (.unbalancedTags "x</b>" (some 1)) := by decide +kernel
  obtain ⟨hbehind, hfailsBehind, hinside⟩ := parse_append hparse hends
  exact ⟨⟨hparse, hends⟩, ⟨hother, hbehind _ _ hother⟩, ⟨hfails, (hfailsBehind _ _ hfails).1⟩,
    hinside " p " (by decide) (by decide) (by decide) (by decide) (by decide)⟩

end MessageMarkup
