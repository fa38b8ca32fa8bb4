import MessageMarkup.Failure
import MessageMarkup.Plural.Forms
import MessageMarkup.Plural.Rule
import MessageMarkup.Quantity

/-!
# Choosing a plural form

The first form of a plural message is for zero; the others are for the categories of the locale,
in their order.

## Main definitions

- `Plural.Rule.formIndex` — the place, under a rule, of the form for a number
- `Plural.Rule.form` — the form, under a rule, for a number
- `Plural.Rule.hasExpectedForms` — whether a message has as many forms as a rule requires
- `Plural.expectedFormCount`, `Plural.formIndex`, `Plural.form`, `Plural.hasExpectedForms` — the
  same under the rule that locale data gives a locale

## Main statements

- `Plural.Rule.formIndex_eq` — the place is that of the category, and never cut short
- `Plural.Rule.form_eq_ok`, `Plural.Rule.form_eq_error` — when there is a form, and when not

## Design notes

Locale data is a parameter of everything that depends on a locale, up to translators and validation.
A program that leaves it out gets the standard rules; no general statement does.
-/

namespace MessageMarkup.Plural

namespace Rule

def hasExpectedForms (r : Rule) (message : String) : Bool :=
  (forms message).length = r.formCount

/-- The place, under a given rule, of the form for a number: the first for zero, and else that of
    the category of its absolute value, but never beyond the last. -/
def formIndex (r : Rule) (number : Int) : Nat :=
  if number = 0 then 0 else min (1 + r.select number.natAbs) (r.formCount - 1)

/-- Where the category is one of the rule, the place of a form is never cut short. -/
theorem formIndex_eq {r : Rule} (h : ∀ n, r.select n < r.categories) (number : Int) :
    r.formIndex number = if number = 0 then 0 else r.select number.natAbs + 1 := by
  have hlt := h number.natAbs
  rw [formIndex, formCount]
  split <;> omega

theorem formIndex_lt {r : Rule} (h : ∀ n, r.select n < r.categories) (number : Int) :
    r.formIndex number < r.formCount := by
  have hlt := h number.natAbs
  rw [formIndex_eq h, formCount]
  split <;> omega

/-- The form of a message, under a given rule, for a number. The locale and the key only serve to
    report its absence. -/
def form (r : Rule) (message : String) (number : Int) (locale key : String) :
    Except Failure String :=
  let index := r.formIndex number
  match (forms message)[index]? with
  | some text => .ok text
  | none => .error (.pluralFormNotFound key index (forms message).length locale)

/-- There is a form if one stands at the place for the number. -/
theorem form_eq_ok {r : Rule} {message locale key text : String} {number : Int} :
    r.form message number locale key = .ok text ↔
      (forms message)[r.formIndex number]? = some text := by
  simp only [form]
  split <;> simp [*]

/-- There is no form if the place for the number is beyond the last one. -/
theorem form_eq_error {r : Rule} {message locale key : String} {number : Int} {failure : Failure} :
    r.form message number locale key = .error failure ↔
      (forms message).length ≤ r.formIndex number ∧
        failure = .pluralFormNotFound key (r.formIndex number) (forms message).length locale := by
  simp only [form]
  split
  · next text h =>
    have := (List.getElem?_eq_some_iff.1 h).1
    simp only [reduceCtorEq, false_iff, not_and]
    omega
  · next h =>
    simp [List.getElem?_eq_none_iff.1 h, eq_comm]

end Rule

/-- How many forms a plural message of a locale must have. -/
def expectedFormCount (locale : String) (data : LocaleData := Standard.data) : Nat :=
  (Rule.resolve data locale).formCount

def hasExpectedForms (message locale : String) (data : LocaleData := Standard.data) : Bool :=
  (Rule.resolve data locale).hasExpectedForms message

def formIndex (number : Int) (locale : String) (data : LocaleData := Standard.data) : Nat :=
  (Rule.resolve data locale).formIndex number

/-- The form of a message for a number. The key only serves to report its absence. -/
def form (message : String) (number : Int) (locale key : String)
    (data : LocaleData := Standard.data) : Except Failure String :=
  (Rule.resolve data locale).form message number locale key

end MessageMarkup.Plural
