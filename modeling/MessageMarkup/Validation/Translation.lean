import MessageMarkup.Diagnostic.Catalog
import MessageMarkup.Parser
import MessageMarkup.Plural.Selection
import MessageMarkup.Validation.Structure

/-!
# Validating translations

A translation is valid if it keeps the structure of its base message. A plural translation must
have the forms its locale requires, by locale data; its first form is held against the first base
form, and every other one against the second.

## Main definitions

- `Translation.isFormValid` — whether one form keeps the structure of a base form
- `Translation.areFormsValid` — whether several forms keep the structure of one base form
- `Translation.isValid` — whether a translation is valid, or why that cannot be said
- `Translation.problems` — what is wrong with a translation, as diagnostics
-/

namespace MessageMarkup.Translation

open Plural (LocaleData)

/-- The limit that structures are compared under: that of the parser, or the default for zero. -/
def comparisonLimit (limit : Int) : Int :=
  if limit = 0 then Nesting.defaultLimit else limit

/-- Whether a form keeps the structure of a base form. The base form is read first. -/
def isFormValid (limit : Int) (base translated : String) : Except Failure Bool := do
  let baseNodes ← parse limit base
  let translatedNodes ← parse limit translated
  Structure.same (.ofLimit (comparisonLimit limit)) baseNodes translatedNodes

/-- Whether each of several forms keeps the structure of one base form. The first that does not
    ends the comparison. -/
def areFormsValid (limit : Int) (base : String) : List String → Except Failure Bool
  | [] => .ok true
  | form :: forms => do
    if ← isFormValid limit base form then areFormsValid limit base forms else return false

/-- Whether the forms of a plural translation keep the structure of the base forms. -/
def arePluralFormsValid (limit : Int) (base translated : List String) : Except Failure Bool :=
  match base, translated with
  | baseZero :: baseRest, zero :: rest => do
    if ← isFormValid limit baseZero zero then areFormsValid limit (baseRest.headD "") rest
    else return false
  | _, _ => .ok true

/-- Whether a translation is valid, or why that cannot be said. The number of forms is checked
    before any of them is read. -/
def isValid (limit : Int) (base translated locale : String)
    (data : LocaleData := Plural.Standard.data) : Except Failure Bool :=
  if Plural.isPlural base then
    let forms := Plural.forms translated
    let expected := Plural.expectedFormCount locale data
    if forms.length ≠ expected then
      .error (.invalidPluralForms translated locale expected forms.length)
    else arePluralFormsValid limit (Plural.forms base) forms
  else isFormValid limit base translated

section

variable {limit : Int} {base translated locale : String} {data : LocaleData}

/-- A message that is not plural is held against its translation as a whole. -/
theorem isValid_of_not_plural (hplural : Plural.isPlural base = false) :
    isValid limit base translated locale data = isFormValid limit base translated := by
  rw [isValid, if_neg (by simp [hplural])]

/-- The forms of a plural translation are not read if there are more or fewer than its locale
    requires. -/
theorem isValid_of_length_ne (hplural : Plural.isPlural base = true)
    (hcount : (Plural.forms translated).length ≠ Plural.expectedFormCount locale data) :
    isValid limit base translated locale data = .error (.invalidPluralForms translated locale
      (Plural.expectedFormCount locale data) (Plural.forms translated).length) := by
  rw [isValid, if_pos hplural]
  exact if_pos hcount

/-- A plural translation with as many forms as its locale requires is held against the first two
    forms of its base message. -/
theorem isValid_of_forms {zero one first : String} {more rest : List String}
    (hplural : Plural.isPlural base = true)
    (hcount : (Plural.forms translated).length = Plural.expectedFormCount locale data)
    (hbase : Plural.forms base = zero :: one :: more)
    (hforms : Plural.forms translated = first :: rest) :
    isValid limit base translated locale data =
      (do if ← isFormValid limit zero first then areFormsValid limit one rest else return false) := by
  rw [isValid, if_pos hplural]
  simp only [hcount, ne_eq, not_true_eq_false, if_false]
  rw [hbase, hforms, arePluralFormsValid]
  rfl

end

/-- What is wrong with a translation: nothing, or one problem. -/
def problems (base translated locale : String) (data : LocaleData := Plural.Standard.data) :
    List Diagnostic :=
  match isValid Nesting.defaultLimit base translated locale data with
  | .ok true => []
  | .ok false => [.structureMismatch base translated]
  | .error failure => [failure.diagnostic]

end MessageMarkup.Translation
