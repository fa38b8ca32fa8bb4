import Mathlib.Data.List.TakeWhile
import MessageMarkup.Proofs.Acceptance
import MessageMarkup.Proofs.Shape

/-!
# The shape of what is parsed

The tokens of a message stand in an order: behind a `<` that is text comes no `>` and no percent
sign with a meaning before the next tag, unless markup was begun that the message does not end. So
what is parsed has the shape that it must have to be written again, but for the last text.

## Main definitions

- `Token.Orderly` — the order of tokens

## Main statements

- `Token.orderly_of_lexes` — the tokens of a message stand in order
- `spaced_of_parse` — the shape of parsed nodes
-/

namespace MessageMarkup

open Node

namespace Token

/-- Tokens as a message gives them. The flag says whether the text in front of them holds a `<`. -/
def Orderly (afterOpen : Bool) : List Token → Prop
  | [] => True
  | literal c :: ts =>
    if c = '%' ∧ afterOpen = false then ∀ t ∈ ts, t.isText = true
    else if c = '>' then afterOpen = false ∧ Orderly false ts
    else Orderly (afterOpen || c = '<') ts
  | percent :: ts => afterOpen = false ∧ Orderly false ts
  | placeholder name :: ts => afterOpen = false ∧ name ≠ [] ∧ '%' ∉ name ∧ Orderly false ts
  | opening label :: ts | closing label :: ts | void label :: ts =>
    '<' ∉ label ∧ '>' ∉ label ∧ Orderly false ts

theorem orderly_ofName {name : List Char} {ts : List Token} (hname : '%' ∉ name)
    (hts : Orderly false ts) : Orderly false (ofName name :: ts) := by
  by_cases hne : name = []
  · simp [ofName, hne, Orderly, hts]
  · simp [ofName, hne, Orderly, hts, hname]

theorem orderly_ofLabel {label : List Char} {ts : List Token} (hopen : '<' ∉ label)
    (hclose : '>' ∉ label) (hts : Orderly false ts) (afterOpen : Bool) :
    Orderly afterOpen (ofLabel label :: ts) := by
  by_cases hhead : label.head? = some '/'
  · obtain ⟨tail, rfl⟩ := List.head?_eq_some_iff.1 hhead
    rw [List.mem_cons, not_or] at hopen hclose
    exact ⟨hopen.2, hclose.2, hts⟩
  by_cases hlast : label.getLast? = some '/'
  · obtain ⟨init, rfl⟩ := List.getLast?_eq_some_iff.1 hlast
    rw [List.mem_append, not_or] at hopen hclose
    rw [ofLabel_append_slash hhead]
    exact ⟨hopen.1, hclose.1, hts⟩
  · rw [ofLabel_opening hhead hlast]
    exact ⟨hopen, hclose, hts⟩

theorem orderly_literals {label : List Char} {ts : List Token} (hclose : '>' ∉ label)
    (hts : Orderly true ts) : Orderly true (label.map literal ++ ts) := by
  induction label with
  | nil => exact hts
  | cons c label ih =>
    rw [List.mem_cons, not_or] at hclose
    simpa [Orderly, Ne.symm hclose.1] using ih hclose.2

/-- The tokens of a message stand in order, also behind a `<` if they begin with one. -/
theorem orderly_of_lexes {cs : List Char} {ts : List Token} (h : Lexes cs ts) :
    Orderly false ts ∧ ((∀ c ∈ cs.head?, c = '<') → Orderly true ts) := by
  induction h with
  | nil => exact ⟨trivial, fun _ => trivial⟩
  | named hname _ ih => exact ⟨orderly_ofName hname ih.1, by simp⟩
  | @unended rest _ => exact ⟨by simp [Orderly, isText], by simp⟩
  | tag hopen hclose _ ih =>
    exact ⟨orderly_ofLabel hopen hclose ih.1 false, fun _ => orderly_ofLabel hopen hclose ih.1 true⟩
  | stray _ hclose hrest _ ih =>
    have := orderly_literals hclose (ih.2 hrest)
    exact ⟨by simpa [Orderly] using this, fun _ => by simpa [Orderly] using this⟩
  | plain hpercent hopen _ ih =>
    refine ⟨by simpa [Orderly, hpercent, hopen] using ih.1, fun hhead => ?_⟩
    exact absurd (hhead _ rfl) hopen

/-- A run of text in tokens that stand in order holds no tag, and no placeholder follows a `<` in
    it, unless the message ends with it. -/
theorem Orderly.of_run {run rest : List Token} (hrun : ∀ t ∈ run, t.isText = true)
    (hrest : ∀ t ∈ rest.head?, t.isText = false) {afterOpen : Bool}
    (h : Orderly afterOpen (run ++ rest)) :
    rest = [] ∨ ((afterOpen = true → '>' ∉ run.flatMap text) ∧ ¬ HoldsTag (run.flatMap text) ∧
      Orderly (afterOpen || '<' ∈ run.flatMap text) rest) := by
  -- The flag is that of the text in front of what is left of the run.
  induction run generalizing afterOpen with
  | nil => exact .inr ⟨by simp, by simp [HoldsTag], by simpa using h⟩
  | cons t run ih =>
    rw [List.forall_mem_cons] at hrun
    obtain ⟨ht, hrun⟩ := hrun
    cases t with
    | placeholder _ | opening _ | closing _ | void _ => simp [isText] at ht
    | percent =>
      obtain ⟨rfl, h⟩ := h
      obtain hnil | ⟨_, hflat, hrest'⟩ := ih hrun h
      · exact .inl hnil
      · exact .inr ⟨by simp, by simpa [HoldsTag, text] using hflat, by simpa [text] using hrest'⟩
    | literal c =>
      rw [List.cons_append, Orderly] at h
      by_cases hunended : c = '%' ∧ afterOpen = false
      · -- Such a percent sign has no partner, so there is nothing but text behind it.
        rw [if_pos hunended] at h
        left
        by_contra hne
        obtain ⟨t, rest', rfl⟩ := List.exists_cons_of_ne_nil hne
        simp [h t (by simp)] at hrest
      rw [if_neg hunended] at h
      by_cases hclose : c = '>'
      · rw [if_pos hclose] at h
        obtain ⟨rfl, h⟩ := h
        obtain hnil | ⟨_, hflat, hrest'⟩ := ih hrun h
        · exact .inl hnil
        · exact .inr ⟨by simp, by simpa [HoldsTag, text, hclose] using hflat,
            by simpa [text, hclose] using hrest'⟩
      rw [if_neg hclose] at h
      by_cases hopen : c = '<'
      · subst hopen
        obtain hnil | ⟨hnot, _, hrest'⟩ := ih hrun h
        · exact .inl hnil
        · have hnot : '>' ∉ run.flatMap text := hnot (by simp)
          exact .inr ⟨fun _ => by simpa [text] using hnot, by simpa [HoldsTag, text] using hnot,
            by simpa [text] using hrest'⟩
      · obtain hnil | ⟨hnot, hflat, hrest'⟩ := ih hrun h
        · exact .inl hnil
        · refine .inr ⟨fun hafter => ?_, by simpa [HoldsTag, text, hopen] using hflat, ?_⟩
          · rw [Bool.or_eq_true] at hnot
            have hnot : '>' ∉ run.flatMap text := hnot (.inl hafter)
            simpa [text, Ne.symm hclose] using hnot
          · simpa [text, hopen, Ne.symm hopen] using hrest'

/-- Before a tag it does not matter what the text in front of it holds. -/
theorem Orderly.of_markup {ts : List Token} (hts : ∀ t ∈ ts.head?, t.isText = false)
    {afterOpen : Bool} (h : Orderly afterOpen ts) : Orderly false ts := by
  cases ts with
  | nil => trivial
  | cons t ts =>
    cases t with
    | literal _ | percent => simp [isText] at hts
    | placeholder name => exact ⟨rfl, h.2⟩
    | opening _ | closing _ | void _ => exact h

/-- Where nodes begin with a placeholder, so do the tokens that spell them. -/
theorem Spells.head?_placeholder {ts : List Token} {nodes : List Node} (h : Spells ts nodes)
    {name : String} (hname : nodes.head? = some (.placeholder name)) :
    ∃ name' rest, ts = Token.placeholder name' :: rest := by
  cases h with
  | placeholder _ => exact ⟨_, _, rfl⟩
  | nil | text _ _ _ _ | void _ | tag _ _ => simp at hname

/-- A text that is spelled may stand in front of the nodes that are spelled after it. -/
theorem mayPrecede_of_spells {rest : List Token} {nodes : List Node} (h : Spells rest nodes)
    (hrest : ∀ t ∈ rest.head?, t.isText = false) {text : List Char} {ts : List Token}
    (horderly : Orderly (false || '<' ∈ text) (rest ++ ts)) :
    ∀ m ∈ nodes.head?, (Node.text (String.ofList text)).MayPrecede m := by
  intro m hm
  cases m with
  | text value => exact absurd (h.isMarkup_head? hrest _ hm) (by simp [isMarkup, signature?])
  | placeholder name =>
    obtain ⟨name', rest', rfl⟩ := h.head?_placeholder hm
    have : '<' ∉ text := by simpa using horderly.1
    simpa [MayPrecede] using this
  | tag _ _ | voidTag _ => trivial

theorem mem_of_mem_trim {label : List Char} {c : Char}
    (h : c ∈ (Text.trim (String.ofList label)).toList) : c ∈ label := by
  rw [Text.toList_trim, String.toList_ofList] at h
  exact Text.trimBlanks_subset label h

/-- The name of a label has the form that it should have. -/
theorem isLabelName_trim {label : List Char} (hopen : '<' ∉ label) (hclose : '>' ∉ label) :
    IsLabelName (Text.trim (String.ofList label)) :=
  ⟨Text.trim_trim _, fun hmem => hopen (mem_of_mem_trim hmem),
    fun hmem => hclose (mem_of_mem_trim hmem)⟩

/-- Tokens in order spell nodes of the shape that a message gives. The tokens behind them, if any,
    begin with a close tag. -/
theorem Spells.shape {ts : List Token} {nodes : List Node} (h : Spells ts nodes) {unended : Bool}
    {rest : List Token}
    (hrest : rest = [] ∧ unended = true ∨ ∃ label rest', rest = closing label :: rest')
    (horderly : Orderly false (ts ++ rest)) :
    Spaced unended nodes ∧ (∀ s ∈ signatures nodes, IsName s.1 s.2) ∧ Orderly false rest := by
  have hrestHead : ∀ t ∈ rest.head?, t.isText = false := by
    obtain ⟨rfl, _⟩ | ⟨label, rest', rfl⟩ := hrest
    · simp
    · simp [isText]
  -- Inside a tag the tokens end with its close tag, which no text runs into.
  induction h generalizing unended rest with
  | nil => exact ⟨trivial, by simp [signatures], horderly⟩
  | @text run ts nodes hne hrun hts hspells ih =>
    have hhead : ∀ t ∈ (ts ++ rest).head?, t.isText = false := by
      cases ts with
      | nil => exact hrestHead
      | cons t ts => exact hts
    rw [List.append_assoc] at horderly
    have hne' : String.ofList (run.flatMap Token.text) ≠ "" := by
      intro h
      exact flatMap_text_ne_nil hne hrun (by simpa using congrArg String.toList h)
    obtain hnil | ⟨_, hflat, horderly⟩ := horderly.of_run hrun hhead
    · -- The message ends with the run, which may then stand for markup that is never ended.
      obtain ⟨rfl, rfl⟩ := List.append_eq_nil_iff.1 hnil
      obtain ⟨_, rfl⟩ : [] = ([] : List Token) ∧ unended = true := by simpa using hrest
      obtain rfl := hspells.eq_nil
      exact ⟨spaced_cons.2 ⟨hne', .inr ⟨rfl, rfl⟩, by simp, trivial⟩,
        by simp [signatures, signaturesIn], trivial⟩
    · obtain ⟨hspaced, hnames, hrest'⟩ := ih hrest (horderly.of_markup hhead) hrestHead
      have hnext := mayPrecede_of_spells hspells hts horderly
      have hflat' : Flat (.text (String.ofList (run.flatMap Token.text))) := by
        simpa [Flat] using hflat
      exact ⟨spaced_cons.2 ⟨hne', .inl hflat', hnext, hspaced⟩, hnames, hrest'⟩
  | @placeholder name ts nodes _ ih =>
    obtain ⟨_, hne, hname, horderly⟩ := horderly
    obtain ⟨hspaced, hnames, hrest'⟩ := ih hrest horderly hrestHead
    refine ⟨spaced_cons.2 ⟨trivial, .inl trivial, fun _ _ => trivial, hspaced⟩, ?_, hrest'⟩
    rw [signatures_placeholder, List.forall_mem_cons]
    exact ⟨⟨by simpa using hne, by simpa using hname⟩, hnames⟩
  | @void label ts nodes _ ih =>
    obtain ⟨hopen, hclose, horderly⟩ := horderly
    obtain ⟨hspaced, hnames, hrest'⟩ := ih hrest horderly hrestHead
    refine ⟨spaced_cons.2 ⟨trivial, .inl trivial, fun _ _ => trivial, hspaced⟩, ?_, hrest'⟩
    rw [signatures_voidTag, List.forall_mem_cons]
    exact ⟨isLabelName_trim hopen hclose, hnames⟩
  | @tag label inner children ts nodes _ _ ihInner ihRest =>
    rw [List.cons_append, List.append_assoc] at horderly
    obtain ⟨hopen, hclose, horderly⟩ := horderly
    obtain ⟨hspacedChildren, hnamesChildren, _, _, horderly⟩ :=
      @ihInner false _ (.inr ⟨label, ts ++ rest, rfl⟩) horderly (by simp [isText])
    obtain ⟨hspaced, hnames, hrest'⟩ := ihRest hrest horderly hrestHead
    refine ⟨spaced_cons.2 ⟨hspacedChildren, .inl trivial, fun _ _ => trivial, hspaced⟩, ?_, hrest'⟩
    rw [signatures_tag, List.forall_mem_cons, List.forall_mem_append]
    exact ⟨isLabelName_trim hopen hclose, hnamesChildren, hnames⟩

end Token

/-- Parsed nodes are spaced as a message gives them, and their names have the form that it gives
    them. Only the last text of the message may hold a tag. -/
theorem spaced_of_parse {limit : Int} {source : String} {nodes : List Node}
    (h : parse limit source = .ok nodes) :
    Spaced true nodes ∧ ∀ s ∈ signatures nodes, IsName s.1 s.2 := by
  obtain ⟨hspells, _⟩ := parse_eq_ok_iff.1 h
  have horderly := (Token.orderly_of_lexes (Token.lexes_lex source.toList)).1
  obtain ⟨hspaced, hnames, _⟩ := hspells.shape (.inl ⟨rfl, rfl⟩) (by simpa using horderly)
  exact ⟨hspaced, hnames⟩

end MessageMarkup
