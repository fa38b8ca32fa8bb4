import Mathlib.Data.List.DropRight
import MessageMarkup.Plural.Forms
import MessageMarkup.Proofs.Acceptance
import MessageMarkup.Proofs.Forest

/-!
# Escaped pipes and the grammar

Neither character of an escaped pipe is a mark of the language. So it does not matter whether a
message is freed of escapes before it is read, or its texts and names are afterwards.

## Main definitions

- `Token.unescape`, `Token.unescapeAll` — tokens freed of escaped pipes

## Main statements

- `Token.lex_unescapeChars` — the tokens of a message freed of escapes
- `parse_unescape` — the nodes of a message freed of escapes
-/

namespace MessageMarkup

open Node

/-- Trimming from the left and then from the right. -/
theorem Text.trimBlanks_eq (cs : List Char) :
    trimBlanks cs = (dropBlanks cs).rdropWhile isBlank := rfl

namespace Plural

theorem unescapeChars_pair (cs : List Char) :
    unescapeChars ('\\' :: '|' :: cs) = '|' :: unescapeChars cs := by
  simp [unescapeChars, Mark.escape, Mark.delimiter]

/-- A character that begins no escaped pipe stays. -/
theorem unescapeChars_cons {c : Char} {cs : List Char} (h : c ≠ '\\' ∨ cs.head? ≠ some '|') :
    unescapeChars (c :: cs) = c :: unescapeChars cs := by
  cases cs with
  | nil => rfl
  | cons d cs =>
    rw [unescapeChars, if_neg]
    rintro ⟨rfl, rfl⟩
    exact h.elim (· rfl) (· rfl)

/-- Where the second text does not begin with a pipe, two texts are freed of escapes one by one. -/
theorem unescapeChars_append {cs rest : List Char} (hrest : rest.head? ≠ some '|') :
    unescapeChars (cs ++ rest) = unescapeChars cs ++ unescapeChars rest := by
  fun_induction unescapeChars cs with
  | case1 => rfl
  | case2 c => exact unescapeChars_cons (.inr hrest)
  | case3 c d cs h ih =>
    obtain ⟨rfl, rfl⟩ := h
    rw [List.cons_append, List.cons_append, unescapeChars_pair, ih]
    rfl
  | case4 c d cs h ih =>
    rw [List.cons_append, unescapeChars_cons, ih]
    · rfl
    · rw [not_and_or] at h
      simpa using h

theorem mem_of_mem_unescapeChars {c : Char} {cs : List Char} (h : c ∈ unescapeChars cs) :
    c ∈ cs := by
  fun_induction unescapeChars cs with
  | case1 => exact h
  | case2 => exact h
  | case3 d e cs _ ih =>
    obtain rfl | h := List.mem_cons.1 h
    · simp
    · simp [ih h]
  | case4 d e cs _ ih =>
    obtain rfl | h := List.mem_cons.1 h
    · simp
    · exact List.mem_cons_of_mem _ (ih h)

theorem unescapeChars_eq_nil {cs : List Char} : unescapeChars cs = [] ↔ cs = [] := by
  fun_cases unescapeChars cs <;> simp

/-- The last character stays. -/
theorem getLast?_unescapeChars (cs : List Char) : (unescapeChars cs).getLast? = cs.getLast? := by
  fun_induction unescapeChars cs with
  | case1 => rfl
  | case2 => rfl
  | case3 c d cs h ih => simp [List.getLast?_cons, ih]
  | case4 c d cs h ih => simp [List.getLast?_cons, ih]

/-- A text freed of escapes begins as before, unless with a pipe. -/
theorem head?_unescapeChars {c : Char} {cs : List Char} (hc : c ≠ '|')
    (h : (unescapeChars cs).head? = some c) : cs.head? = some c := by
  cases cs with
  | nil => exact h
  | cons d cs =>
    by_cases hpair : d = '\\' ∧ cs.head? = some '|'
    · obtain ⟨rfl, hhead⟩ := hpair
      obtain ⟨tail, rfl⟩ := List.head?_eq_some_iff.1 hhead
      rw [unescapeChars_pair] at h
      exact absurd (by simpa using h) hc.symm
    · rw [unescapeChars_cons (by rwa [not_and_or] at hpair)] at h
      exact h

/-- Leading blanks are dropped before or after. -/
theorem dropBlanks_unescapeChars (cs : List Char) :
    Text.dropBlanks (unescapeChars cs) = unescapeChars (Text.dropBlanks cs) := by
  induction cs with
  | nil => rfl
  | cons c cs ih =>
    by_cases hblank : Text.isBlank c = true
    · have hc : c ≠ '\\' := by
        rintro rfl
        exact absurd hblank (by decide)
      rw [unescapeChars_cons (.inl hc), Text.dropBlanks, List.dropWhile_cons_of_pos hblank,
        Text.dropBlanks, List.dropWhile_cons_of_pos hblank]
      exact ih
    · have hself : Text.dropBlanks (c :: cs) = c :: cs :=
        Text.dropBlanks_eq_self (by simpa using hblank)
      rw [hself, Text.dropBlanks_eq_self]
      intro d hd
      by_cases hpipe : d = '|'
      · rw [hpipe]
        decide
      · have := head?_unescapeChars hpipe hd
        simp_all

/-- Trailing blanks are dropped before or after. -/
theorem rdropWhile_unescapeChars (cs : List Char) :
    (unescapeChars cs).rdropWhile Text.isBlank = unescapeChars (cs.rdropWhile Text.isBlank) := by
  induction cs using List.reverseRecOn with
  | nil => rfl
  | append_singleton cs c ih =>
    by_cases hblank : Text.isBlank c = true
    · have hc : [c].head? ≠ some '|' := by
        intro h
        obtain rfl : c = '|' := by simpa using h
        exact absurd hblank (by decide)
      have hlast : unescapeChars [c] = [c] := rfl
      rw [unescapeChars_append hc, hlast, List.rdropWhile_concat_pos _ _ _ hblank, ih,
        List.rdropWhile_concat_pos _ _ _ hblank]
    · rw [List.rdropWhile_concat_neg _ _ _ hblank, List.rdropWhile_eq_self_iff]
      intro hne
      have hlast := getLast?_unescapeChars (cs ++ [c])
      rw [List.getLast?_eq_some_getLast hne, List.getLast?_append] at hlast
      obtain hlast : (unescapeChars (cs ++ [c])).getLast hne = c := by simpa using hlast
      rwa [hlast]

/-- A text is freed of escapes before or after it is trimmed. -/
theorem trimBlanks_unescapeChars (cs : List Char) :
    Text.trimBlanks (unescapeChars cs) = unescapeChars (Text.trimBlanks cs) := by
  rw [Text.trimBlanks_eq, Text.trimBlanks_eq, dropBlanks_unescapeChars, rdropWhile_unescapeChars]

end Plural

namespace Token

open Plural

/-- A token with the escaped pipes in its name or label made plain ones. -/
def unescape : Token → Token
  | literal c => literal c
  | percent => percent
  | placeholder name => placeholder (unescapeChars name)
  | opening label => opening (unescapeChars label)
  | closing label => closing (unescapeChars label)
  | void label => void (unescapeChars label)

/-- Tokens with every escaped pipe in them made a plain one. -/
def unescapeAll : List Token → List Token
  | [] => []
  | [t] => [t.unescape]
  | t :: u :: ts =>
    if t = literal '\\' ∧ u = literal '|' then u :: unescapeAll ts
    else t.unescape :: unescapeAll (u :: ts)

@[simp]
theorem isText_unescape (t : Token) : t.unescape.isText = t.isText := by
  cases t <;> rfl

theorem unescapeAll_pair (ts : List Token) :
    unescapeAll (literal '\\' :: literal '|' :: ts) = literal '|' :: unescapeAll ts := by
  simp [unescapeAll]

theorem unescapeAll_cons {t : Token} {ts : List Token}
    (h : t ≠ literal '\\' ∨ ts.head? ≠ some (literal '|')) :
    unescapeAll (t :: ts) = t.unescape :: unescapeAll ts := by
  cases ts with
  | nil => rfl
  | cons u ts =>
    rw [unescapeAll, if_neg]
    rintro ⟨rfl, rfl⟩
    exact h.elim (· rfl) (· rfl)

theorem unescapeAll_cons_of_isText {t : Token} (ht : t.isText = false) (ts : List Token) :
    unescapeAll (t :: ts) = t.unescape :: unescapeAll ts := by
  refine unescapeAll_cons (.inl ?_)
  rintro rfl
  cases ht

theorem unescapeAll_append {ts rest : List Token} (hrest : rest.head? ≠ some (literal '|')) :
    unescapeAll (ts ++ rest) = unescapeAll ts ++ unescapeAll rest := by
  fun_induction unescapeAll ts with
  | case1 => rfl
  | case2 t => exact unescapeAll_cons (.inr hrest)
  | case3 t u ts h ih =>
    obtain ⟨rfl, rfl⟩ := h
    rw [List.cons_append, List.cons_append, unescapeAll_pair, ih]
    rfl
  | case4 t u ts h ih =>
    rw [List.cons_append, unescapeAll_cons, ih]
    · rfl
    · rw [not_and_or] at h
      simpa using h

theorem unescapeAll_literal (cs : List Char) :
    unescapeAll (cs.map literal) = (unescapeChars cs).map literal := by
  fun_induction unescapeChars cs with
  | case1 => rfl
  | case2 => rfl
  | case3 c d cs h ih =>
    obtain ⟨rfl, rfl⟩ := h
    simpa [unescapeAll_pair] using ih
  | case4 c d cs h ih =>
    rw [List.map_cons, unescapeAll_cons, ih]
    · rfl
    · rw [not_and_or] at h
      simpa using h

theorem unescape_ofName (name : List Char) :
    (ofName name).unescape = ofName (unescapeChars name) := by
  by_cases hname : name = []
  · simp [hname, ofName, unescape, unescapeChars]
  · simp [ofName, unescape, hname, unescapeChars_eq_nil]

/-- The slashes of a label stay where they are. -/
theorem unescape_ofLabel (label : List Char) :
    (ofLabel label).unescape = ofLabel (unescapeChars label) := by
  by_cases hhead : label.head? = some '/'
  · obtain ⟨tail, rfl⟩ := List.head?_eq_some_iff.1 hhead
    rw [unescapeChars_cons (.inl (by decide)), ofLabel_slash_cons, ofLabel_slash_cons, unescape]
  have hhead' : (unescapeChars label).head? ≠ some '/' := fun h =>
    hhead (head?_unescapeChars (by decide) h)
  by_cases hlast : label.getLast? = some '/'
  · obtain ⟨init, rfl⟩ := List.getLast?_eq_some_iff.1 hlast
    rw [unescapeChars_append (by decide)] at hhead' ⊢
    rw [ofLabel_append_slash hhead, unescape]
    exact (ofLabel_append_slash hhead').symm
  · rw [ofLabel_opening hhead hlast, unescape,
      ofLabel_opening hhead' (by rwa [getLast?_unescapeChars])]

/-- Where the tokens of a message begin with a character, so does the message. -/
theorem head?_of_lexes {cs : List Char} {ts : List Token} (h : Lexes cs ts) {c : Char}
    (hts : ts.head? = some (literal c)) : cs.head? = some c := by
  obtain ⟨rest, rfl⟩ := List.head?_eq_some_iff.1 hts
  have := flatMap_source_lex cs
  rw [lex_eq_of_lexes h] at this
  rw [← this]
  rfl

/-- The tokens of a message freed of escapes are its tokens freed of them. -/
theorem lex_unescapeChars (cs : List Char) : lex (unescapeChars cs) = unescapeAll (lex cs) := by
  have h := lexes_lex cs
  generalize lex cs = ts at h
  -- Only `plain` can meet an escaped pipe: the other rules end a token with a mark, and what they
  -- take up before it is freed of escapes on its own.
  induction h with
  | nil => exact lex_nil
  | @named name rest ts hname _ ih =>
    have hname' : '%' ∉ unescapeChars name := fun h => hname (mem_of_mem_unescapeChars h)
    have hne : ofName name ≠ literal '\\' := by
      unfold ofName
      split <;> simp
    rw [unescapeChars_cons (.inl (by decide)), unescapeChars_append (by simp),
      unescapeChars_cons (.inl (by decide)), lex_named hname', ih, unescapeAll_cons (.inl hne),
      unescape_ofName]
  | @unended rest hrest =>
    have hrest' : '%' ∉ unescapeChars rest := fun h => hrest (mem_of_mem_unescapeChars h)
    rw [unescapeAll_literal, unescapeChars_cons (.inl (by decide)), lex_unended hrest']
  | @tag label rest ts hopen hclose _ ih =>
    have hopen' : '<' ∉ unescapeChars label := fun h => hopen (mem_of_mem_unescapeChars h)
    have hclose' : '>' ∉ unescapeChars label := fun h => hclose (mem_of_mem_unescapeChars h)
    rw [unescapeChars_cons (.inl (by decide)), unescapeChars_append (by simp),
      unescapeChars_cons (.inl (by decide)), lex_tag hopen' hclose', ih,
      unescapeAll_cons_of_isText (isText_ofLabel label), unescape_ofLabel]
  | @stray label rest ts hopen hclose hhead h ih =>
    have hopen' : '<' ∉ unescapeChars label := fun h => hopen (mem_of_mem_unescapeChars h)
    have hclose' : '>' ∉ unescapeChars label := fun h => hclose (mem_of_mem_unescapeChars h)
    have hpipe : rest.head? ≠ some '|' := fun h => absurd (hhead _ h) (by decide)
    have hpipe' : ts.head? ≠ some (literal '|') := fun hts => hpipe (head?_of_lexes h hts)
    have hhead' : ∀ c ∈ (unescapeChars rest).head?, c = '<' := by
      cases rest with
      | nil => simp [unescapeChars]
      | cons c rest =>
        obtain rfl : c = '<' := hhead c rfl
        simp [unescapeChars_cons (c := '<') (.inl (by decide))]
    rw [unescapeAll_append hpipe', unescapeAll_literal, ← List.cons_append,
      unescapeChars_append hpipe, unescapeChars_cons (.inl (by decide)), List.cons_append,
      lex_stray hopen' hclose' hhead', ih]
  | @plain c rest ts hpercent hopen h ih =>
    by_cases hpair : c = '\\' ∧ rest.head? = some '|'
    · -- The pipe is a token of its own, and stands for both characters.
      obtain ⟨rfl, hhead⟩ := hpair
      obtain ⟨tail, rfl⟩ := List.head?_eq_some_iff.1 hhead
      obtain rfl : literal '|' :: lex tail = ts := by
        rw [← lex_eq_of_lexes h, lex_plain (by decide) (by decide)]
      rw [unescapeChars_cons (.inl (by decide)), unescapeAll_cons (.inl (by simp))] at ih
      rw [unescapeChars_pair, unescapeAll_pair]
      exact ih
    · rw [not_and_or] at hpair
      have hpair' : literal c ≠ literal '\\' ∨ ts.head? ≠ some (literal '|') :=
        hpair.imp (by simp) fun hpipe hts => hpipe (head?_of_lexes h hts)
      rw [unescapeChars_cons hpair, lex_plain hpercent hopen, ih, unescapeAll_cons hpair']
      rfl

theorem unescapeAll_eq_nil {ts : List Token} : unescapeAll ts = [] ↔ ts = [] := by
  fun_cases unescapeAll ts <;> simp

theorem forall_isText_unescapeAll {ts : List Token} :
    (∀ t ∈ unescapeAll ts, t.isText = true) ↔ ∀ t ∈ ts, t.isText = true := by
  fun_induction unescapeAll ts with
  | case1 => rfl
  | case2 t => simp
  | case3 t u ts hpair ih =>
    obtain ⟨rfl, rfl⟩ := hpair
    rw [List.forall_mem_cons, List.forall_mem_cons, List.forall_mem_cons, ih]
    exact ⟨fun h => ⟨rfl, h⟩, And.right⟩
  | case4 t u ts _ ih =>
    rw [List.forall_mem_cons, List.forall_mem_cons, isText_unescape, ih]

theorem head?_of_flatMap_text {run : List Token} (h : ∀ t ∈ run, t.isText = true)
    (hhead : (run.flatMap text).head? = some '|') : run.head? = some (literal '|') := by
  cases run with
  | nil => simp at hhead
  | cons t run =>
    cases t with
    | literal c => simpa [text] using hhead
    | percent => simp [text] at hhead
    | placeholder _ | opening _ | closing _ | void _ => simp [isText] at h

/-- The text of a run is freed of escapes with its tokens. -/
theorem flatMap_text_unescapeAll {run : List Token} (h : ∀ t ∈ run, t.isText = true) :
    (unescapeAll run).flatMap text = unescapeChars (run.flatMap text) := by
  induction run using unescapeAll.induct with
  | case1 => rfl
  | case2 t =>
    cases t with
    | literal _ | percent => rfl
    | placeholder _ | opening _ | closing _ | void _ => simp [isText] at h
  | case3 t u ts hpair ih =>
    obtain ⟨rfl, rfl⟩ := hpair
    rw [List.forall_mem_cons, List.forall_mem_cons] at h
    simp [unescapeAll_pair, text, unescapeChars_pair, ih h.2.2]
  | case4 t u ts hpair ih =>
    rw [not_and_or] at hpair
    obtain ⟨ht, hts⟩ := List.forall_mem_cons.1 h
    rw [unescapeAll_cons (by simpa using hpair), List.flatMap_cons, List.flatMap_cons, ih hts]
    cases t with
    | literal c =>
      have hpair' : c ≠ '\\' ∨ ((u :: ts).flatMap text).head? ≠ some '|' :=
        hpair.imp (by simp) fun hu hhead => hu (by simpa using head?_of_flatMap_text hts hhead)
      exact (unescapeChars_cons hpair').symm
    | percent => exact (unescapeChars_cons (.inl (by decide))).symm
    | placeholder _ | opening _ | closing _ | void _ => simp [isText] at ht

theorem isText_head?_unescapeAll {ts : List Token} :
    (∀ t ∈ (unescapeAll ts).head?, t.isText = false) ↔ ∀ t ∈ ts.head?, t.isText = false := by
  fun_cases unescapeAll ts with
  | case1 => rfl
  | case2 t => simp
  | case3 t u ts hpair =>
    obtain ⟨rfl, rfl⟩ := hpair
    simp [isText]
  | case4 t u ts _ => simp

theorem head?_ne_literal {ts : List Token} (h : ∀ t ∈ ts.head?, t.isText = false) (c : Char) :
    ts.head? ≠ some (literal c) := by
  intro hts
  cases h _ hts

theorem trim_unescape (label : List Char) :
    Text.trim (String.ofList (unescapeChars label)) =
      Plural.unescape (Text.trim (String.ofList label)) := by
  apply String.toList_inj.1
  simp [Plural.unescape, trimBlanks_unescapeChars]

/-- What tokens spell is freed of escapes with them. -/
theorem Spells.unescapeAll {ts : List Token} {nodes : List Node} (h : Spells ts nodes) :
    Spells (Token.unescapeAll ts) (rewordAll Plural.unescape nodes) := by
  induction h with
  | nil => exact .nil
  | @text run rest nodes hne hrun hrest _ ih =>
    have htext : Plural.unescape (String.ofList (run.flatMap Token.text)) =
        String.ofList ((Token.unescapeAll run).flatMap Token.text) := by
      rw [flatMap_text_unescapeAll hrun, Plural.unescape, String.toList_ofList]
    rw [unescapeAll_append (head?_ne_literal hrest _), rewordAll, reword, htext]
    exact .text (by rwa [ne_eq, unescapeAll_eq_nil]) (forall_isText_unescapeAll.2 hrun)
      (isText_head?_unescapeAll.2 hrest) ih
  | @placeholder name rest nodes _ ih =>
    rw [unescapeAll_cons_of_isText rfl, rewordAll, reword, Plural.unescape, String.toList_ofList]
    exact .placeholder ih
  | @void label rest nodes _ ih =>
    rw [unescapeAll_cons_of_isText rfl, rewordAll, reword, ← trim_unescape]
    exact .void ih
  | @tag label inner children rest nodes _ _ ihInner ihRest =>
    rw [unescapeAll_cons_of_isText rfl, unescapeAll_append (by simp),
      unescapeAll_cons_of_isText rfl, rewordAll, reword, ← trim_unescape]
    exact .tag ihInner ihRest

end Token

/-- A message that can be read can also be read freed of escapes, and then its texts and names are
    freed of them. -/
theorem parse_unescape {limit : Int} {source : String} {nodes : List Node}
    (h : parse limit source = .ok nodes) :
    parse limit (Plural.unescape source) = .ok (rewordAll Plural.unescape nodes) := by
  rw [parse_eq_ok_iff] at h ⊢
  obtain ⟨hspells, hdepth⟩ := h
  rw [Plural.unescape, String.toList_ofList, Token.lex_unescapeChars, depthOf_rewordAll]
  exact ⟨hspells.unescapeAll, hdepth⟩

end MessageMarkup
