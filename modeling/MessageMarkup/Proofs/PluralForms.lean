import Mathlib.Data.List.Basic
import MessageMarkup.Plural.Selection

/-!
# Which forms there are

A plural message has two forms or more, and any other message one. A message with as many forms as
its locale requires has one for every number.

## Main statements

- `Plural.isPlural_iff` — a message is plural if it has two forms or more
- `Plural.exists_two_forms`, `Plural.forms_of_isPlural_eq_false` — the forms of a plural message,
  and of another one
- `Plural.exists_form` — a translation with the forms that its locale requires has one for every
  number
-/

namespace MessageMarkup

namespace Plural

/-- Characters are cut in two or more just where they hold a pipe that no backslash precedes. -/
theorem one_lt_length_splitForms_iff {afterBackslash : Bool} {cs : List Char} :
    1 < (splitForms afterBackslash cs).length ↔ hasPipe afterBackslash cs = true := by
  induction cs generalizing afterBackslash with
  | nil => simp [splitForms, hasPipe]
  | cons c cs ih =>
    by_cases hpipe : c = Mark.delimiter ∧ afterBackslash = false
    · obtain ⟨rfl, rfl⟩ := hpipe
      have := List.length_pos_iff.2 (splitForms_ne_nil false cs)
      simp [splitForms, hasPipe, this]
    · -- The character joins the first form of the rest, and there are no more forms than before.
      rw [splitForms_cons hpipe, List.length_modifyHead, ih, hasPipe, Bool.or_eq_true]
      constructor
      · exact .inr
      · rintro (h | h)
        · exact absurd (by simpa using h) hpipe
        · exact h

/-- A message is plural if it has two forms or more. -/
theorem isPlural_iff {message : String} : isPlural message = true ↔ 1 < (forms message).length := by
  rw [isPlural, ← one_lt_length_splitForms_iff, forms, List.length_map]

/-- A plural message has a second form, which is that of a quantity other than zero. -/
theorem exists_two_forms {message : String} (h : isPlural message = true) :
    ∃ zero one more, forms message = zero :: one :: more := by
  have hlength := isPlural_iff.1 h
  match hforms : forms message with
  | [] | [_] => simp [hforms] at hlength
  | zero :: one :: more => exact ⟨zero, one, more, rfl⟩

/-- Characters without a pipe that counts are not cut. -/
theorem splitForms_of_hasPipe_eq_false {afterBackslash : Bool} {cs : List Char}
    (h : hasPipe afterBackslash cs = false) : splitForms afterBackslash cs = [cs] := by
  induction cs generalizing afterBackslash with
  | nil => rfl
  | cons c cs ih =>
    rw [hasPipe, Bool.or_eq_false_iff] at h
    have hpipe : ¬ (c = Mark.delimiter ∧ afterBackslash = false) := by
      rintro ⟨rfl, rfl⟩
      simp at h
    rw [splitForms, if_neg hpipe, ih h.2]

/-- The only form of a message that is not plural. -/
theorem forms_of_isPlural_eq_false {message : String} (h : isPlural message = false) :
    forms message = [unescape (Text.trim message)] := by
  rw [forms, splitForms_of_hasPipe_eq_false h]
  simp [unescape]

/-- Every locale has a category, and so a second form. -/
theorem one_lt_expectedFormCount (locale : String) (data : LocaleData) :
    1 < expectedFormCount locale data := by
  have := Rule.select_resolve_lt data locale 0
  exact Nat.lt_add_of_pos_left (Nat.zero_lt_of_lt this)

/-- The place of the form for a number other than zero is among those for categories. -/
theorem formIndex_of_ne_zero {number : Int} (h : number ≠ 0) (locale : String)
    (data : LocaleData) :
    ∃ category, formIndex number locale data = category + 1 ∧
      category + 1 < expectedFormCount locale data := by
  have hselect := Rule.select_resolve_lt data locale
  have hindex := Rule.formIndex_eq hselect number
  rw [if_neg h] at hindex
  exact ⟨_, hindex, hindex ▸ Rule.formIndex_lt hselect number⟩

/-- A message with as many forms as its locale requires has one for every number: the first for
    zero, and another one for any other number. -/
theorem exists_form {message locale : String} {data : LocaleData}
    (h : (forms message).length = expectedFormCount locale data) (number : Int) (key : String) :
    ∃ form zero rest, forms message = zero :: rest ∧
      Plural.form message number locale key data = .ok form ∧
      (number = 0 ∧ form = zero ∨ number ≠ 0 ∧ form ∈ rest) := by
  obtain ⟨zero, rest, hforms⟩ := List.exists_cons_of_ne_nil (forms_ne_nil message)
  by_cases hnumber : number = 0
  · subst hnumber
    refine ⟨zero, zero, rest, hforms, ?_, .inl ⟨rfl, rfl⟩⟩
    exact Rule.form_eq_ok.2 (by simp [Rule.formIndex, hforms])
  · obtain ⟨category, hindex, hlt⟩ := formIndex_of_ne_zero hnumber locale data
    rw [← h, hforms, List.length_cons, Nat.add_lt_add_iff_right] at hlt
    refine ⟨rest[category], zero, rest, hforms, ?_, .inr ⟨hnumber, List.getElem_mem hlt⟩⟩
    rw [formIndex] at hindex
    exact Rule.form_eq_ok.2 (by simp [hindex, hforms, hlt])

end Plural

end MessageMarkup
