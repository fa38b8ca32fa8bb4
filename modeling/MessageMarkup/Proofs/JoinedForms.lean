import MessageMarkup.Proofs.PluralForms
import MessageMarkup.Proofs.Unescape

/-!
# Writing forms and splitting them

Forms are written as one message by escaping the pipes in them and putting a pipe between one and
the next. Splitting gives the forms back, whatever they hold, as long as they have no outer blanks;
and of no message it gives anything else than such forms.

## Main definitions

- `Plural.escape` — a text with every pipe escaped
- `Plural.joinForms` — the message that some forms are written as
- `Plural.barePipes` — how many pipes of a message are not escaped

## Main statements

- `Plural.unescapeChars_escapeChars` — escaping is undone by freeing of escapes
- `Plural.length_splitForms` — a message is cut at just the pipes that are not escaped
- `Plural.forms_inverse` — splitting undoes joining, and what any message is split into
-/

namespace MessageMarkup.Plural

/-- Characters with every pipe escaped. -/
def escapeChars (cs : List Char) : List Char :=
  cs.flatMap fun c => if c = Mark.delimiter then [Mark.escape, Mark.delimiter] else [c]

/-- A text with every pipe escaped. -/
def escape (s : String) : String :=
  String.ofList (escapeChars s.toList)

/-- The message that forms are written as: with their pipes escaped, and with a pipe between spaces
    between one form and the next. -/
def joinForms (fs : List String) : String :=
  " | ".intercalate (fs.map escape)

/-- How many characters are a pipe without a backslash immediately in front of it. Each character is
    looked at together with the one before it, the first of them with `before`. -/
def barePipesAfter (before : Option Char) (cs : List Char) : Nat :=
  ((before :: cs.map some).zip cs).countP fun p => p.2 = '|' ∧ p.1 ≠ some '\\'

/-- How many pipes of a message have no backslash immediately in front of them. -/
def barePipes (message : String) : Nat :=
  barePipesAfter none message.toList

theorem escapeChars_pipe (cs : List Char) : escapeChars ('|' :: cs) = '\\' :: '|' :: escapeChars cs := by
  simp [escapeChars]

theorem escapeChars_cons {c : Char} (h : c ≠ '|') (cs : List Char) :
    escapeChars (c :: cs) = c :: escapeChars cs := by
  simp [escapeChars, h]

/-- A text with every pipe escaped does not begin with a pipe. -/
theorem head?_escapeChars (cs : List Char) : (escapeChars cs).head? ≠ some '|' := by
  cases cs with
  | nil => simp [escapeChars]
  | cons c cs =>
    by_cases hc : c = '|'
    · simp [hc, escapeChars_pipe]
    · simp [hc, escapeChars_cons]

/-- Escaping is undone by freeing of escapes. -/
theorem unescapeChars_escapeChars (cs : List Char) : unescapeChars (escapeChars cs) = cs := by
  induction cs with
  | nil => rfl
  | cons c cs ih =>
    by_cases hc : c = '|'
    · rw [hc, escapeChars_pipe, unescapeChars_pair, ih]
    · rw [escapeChars_cons hc, unescapeChars_cons (.inr (head?_escapeChars cs)), ih]

/-- No pipe counts in a text with every pipe escaped. -/
theorem hasPipe_escapeChars (afterBackslash : Bool) (cs : List Char) :
    hasPipe afterBackslash (escapeChars cs) = false := by
  induction cs generalizing afterBackslash with
  | nil => rfl
  | cons c cs ih =>
    by_cases hc : c = '|'
    · simp [hc, escapeChars_pipe, hasPipe, ih, Mark.escape, Mark.delimiter]
    · simp [hc, escapeChars_cons, hasPipe, ih]

/-- A message is cut at a pipe behind a space, if at none before. -/
theorem splitForms_append_pipe {afterBackslash : Bool} {cs : List Char}
    (h : hasPipe afterBackslash cs = false) (rest : List Char) :
    splitForms afterBackslash (cs ++ ' ' :: '|' :: rest) =
      (cs ++ [' ']) :: splitForms false rest := by
  induction cs generalizing afterBackslash with
  | nil => simp [splitForms, Mark.escape, Mark.delimiter]
  | cons c cs ih =>
    rw [hasPipe, Bool.or_eq_false_iff] at h
    have hpipe : ¬ (c = Mark.delimiter ∧ afterBackslash = false) := by simpa using h.1
    rw [List.cons_append, splitForms_cons hpipe, ih h.2]
    rfl

/-- A space in front of a message is no part of its first form. -/
theorem forms_space_append (message : String) : forms (" " ++ message) = forms message := by
  have hspace : splitForms false (" " ++ message).toList =
      (splitForms false message.toList).modifyHead (' ' :: ·) := by
    rw [String.toList_append]
    exact splitForms_cons (by decide)
  rw [forms, hspace, forms]
  cases splitForms false message.toList with
  | nil => rfl
  | cons form forms =>
    rw [List.modifyHead_cons, List.map_cons, List.map_cons, Text.trimBlanks_cons (by decide)]

/-- To trim an escaped form and free it of escapes gives the form back. -/
theorem unescapeChars_trimBlanks_escapeChars {f : String} (h : Text.trim f = f) :
    unescapeChars (Text.trimBlanks (escapeChars f.toList)) = f.toList := by
  rw [← trimBlanks_unescapeChars, unescapeChars_escapeChars, ← Text.toList_trim, h]

theorem forms_escape {f : String} (h : Text.trim f = f) : forms (escape f) = [f] := by
  have hsplit : splitForms false (escape f).toList = [escapeChars f.toList] := by
    rw [escape, String.toList_ofList]
    exact splitForms_of_hasPipe_eq_false (hasPipe_escapeChars false _)
  rw [forms, hsplit, List.map_singleton, unescapeChars_trimBlanks_escapeChars h,
    String.ofList_toList]

theorem forms_escape_append {f : String} (h : Text.trim f = f) (message : String) :
    forms (escape f ++ " | " ++ message) = f :: forms message := by
  have hsplit : splitForms false (escape f ++ " | " ++ message).toList =
      (escapeChars f.toList ++ [' ']) :: splitForms false (" " ++ message).toList := by
    simpa [escape] using splitForms_append_pipe (hasPipe_escapeChars false _) (' ' :: message.toList)
  rw [← forms_space_append message, forms, hsplit, List.map_cons,
    Text.trimBlanks_append_singleton (by decide), unescapeChars_trimBlanks_escapeChars h,
    String.ofList_toList, forms]

/-- Forms that are written as one message are the forms of this message. -/
theorem forms_joinForms {fs : List String} (hne : fs ≠ []) (htrim : ∀ f ∈ fs, Text.trim f = f) :
    forms (joinForms fs) = fs := by
  induction fs with
  | nil => exact absurd rfl hne
  | cons f fs ih =>
    obtain ⟨hf, hfs⟩ := List.forall_mem_cons.1 htrim
    cases fs with
    | nil => simpa [joinForms] using forms_escape hf
    | cons g gs =>
      have hjoin : joinForms (f :: g :: gs) = escape f ++ " | " ++ joinForms (g :: gs) := by
        simp [joinForms, String.intercalate_cons_cons]
      rw [hjoin, forms_escape_append hf, ih (by simp) hfs]

/-- Forms have no outer blanks: to free a text of escapes brings none to its ends. -/
theorem trim_of_mem_forms {message f : String} (h : f ∈ forms message) : Text.trim f = f := by
  obtain ⟨form, _, rfl⟩ := List.mem_map.1 h
  rw [Text.trim_eq_self_iff, Text.Trimmed, String.toList_ofList, ← trimBlanks_unescapeChars]
  exact Text.trimBlanks_trimmed _

/-- A message is cut at just the pipes that are not escaped. -/
theorem length_splitForms (before : Option Char) (cs : List Char) :
    (splitForms (before = some '\\') cs).length = barePipesAfter before cs + 1 := by
  induction cs generalizing before with
  | nil => rfl
  | cons c cs ih =>
    have hcount : barePipesAfter before (c :: cs) =
        barePipesAfter (some c) cs + if c = '|' ∧ before ≠ some '\\' then 1 else 0 := by
      simp [barePipesAfter, List.countP_cons]
    have hbehind : (splitForms (c = '\\') cs).length = barePipesAfter (some c) cs + 1 := by
      simpa using ih (some c)
    by_cases hpipe : c = '|' ∧ before ≠ some '\\'
    · obtain ⟨rfl, hbefore⟩ := hpipe
      rw [hcount, if_pos ⟨rfl, hbefore⟩, splitForms, if_pos ⟨rfl, decide_eq_false hbefore⟩,
        List.length_cons]
      exact congrArg (· + 1) hbehind
    · rw [hcount, if_neg hpipe, splitForms_cons (by simpa using hpipe), List.length_modifyHead]
      exact hbehind

/-- Forms without outer blanks that are written as one message are the forms of this message,
    whatever pipes and backslashes they hold. Every message has forms, none of them with outer
    blanks, one more than it has pipes that are not escaped; so a plural message is one with two forms
    or more. -/
theorem forms_inverse :
    (∀ fs : List String, fs ≠ [] → (∀ f ∈ fs, Text.trim f = f) → forms (joinForms fs) = fs) ∧
      ∀ message, forms message ≠ [] ∧ (∀ f ∈ forms message, Text.trim f = f) ∧
        (forms message).length = barePipes message + 1 ∧
        (isPlural message = true ↔ 2 ≤ (forms message).length) := by
  refine ⟨fun fs hne htrim => forms_joinForms hne htrim, fun message => ?_⟩
  refine ⟨forms_ne_nil message, fun f => trim_of_mem_forms, ?_, isPlural_iff⟩
  rw [forms, List.length_map]
  exact length_splitForms none message.toList

/-- A form that ends with a backslash, one with a pipe, one with both, and an empty one. -/
theorem forms_inverse_backslashes :
    let fs := ["a\\", "b|c", "\\|", ""]
    (∀ f ∈ fs, Text.trim f = f) ∧ joinForms fs = "a\\ | b\\|c | \\\\| | " ∧
      forms (joinForms fs) = fs := by
  intro fs
  have htrim : ∀ f ∈ fs, Text.trim f = f := by decide +kernel
  exact ⟨htrim, by decide +kernel, forms_inverse.1 fs (List.cons_ne_nil _ _) htrim⟩

end MessageMarkup.Plural
