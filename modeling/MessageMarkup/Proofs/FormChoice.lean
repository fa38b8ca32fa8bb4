import Mathlib.Order.Nat
import MessageMarkup.Plural.Selection
import MessageMarkup.Report

/-!
# Which form a number chooses

Whatever locale data knows, a number chooses one of the forms that its locale requires. For the
built-in families the last of these forms is chosen, too, so that a message with fewer forms does
not have one for every number.

## Main statements

- `Plural.formIndex_addresses_form` — the place of the form for a number, and its bounds
- `Plural.form_total_iff` — when a message has a form for every number, and what happens where it
  has none
-/

namespace MessageMarkup.Plural

namespace Rule

/-- Under a rule that does not come from locale data a hundred chooses the last form. -/
theorem formIndex_hundred {data : LocaleData} {locale : String}
    (h : (resolve data locale).source ≠ .standard) :
    (resolve data locale).formIndex 100 + 1 = (resolve data locale).formCount := by
  obtain ⟨f, source, hf⟩ := resolve_of_source_ne h
  have hindex : (ofFamily f source).formIndex 100 = f.select 100 + 1 := formIndex_eq f.select_lt 100
  rw [hf, hindex, f.select_hundred]
  rfl

/-- With as many forms as a rule requires, or more, a message has a form for every number. -/
theorem exists_form_of_le {r : Rule} (hselect : ∀ n, r.select n < r.categories) {message : String}
    (h : r.formCount ≤ (forms message).length) (number : Int) (locale key : String) :
    ∃ text, r.form message number locale key = .ok text := by
  have hlt := (formIndex_lt hselect number).trans_le h
  exact ⟨_, form_eq_ok.2 (List.getElem?_eq_getElem hlt)⟩

end Rule

open Rule (resolve)

/-- Every quantity falls into one of the categories of a locale, so the place of a form is that of
    the category and never cut short. It is one of the places that the locale requires, the first
    of them just for zero, and the sign of a number does not matter. The place is that of
    `Plural.formIndex`, and it is below `Plural.expectedFormCount`. -/
theorem formIndex_addresses_form (data : LocaleData) (locale : String) (number : Int) :
    let rule := resolve data locale
    (∀ n, rule.select n < rule.categories) ∧
      rule.formIndex number = (if number = 0 then 0 else rule.select number.natAbs + 1) ∧
      rule.formIndex number < rule.formCount ∧
      (rule.formIndex number = 0 ↔ number = 0) ∧
      rule.formIndex (-number) = rule.formIndex number := by
  intro rule
  have hselect : ∀ n, rule.select n < rule.categories := Rule.select_resolve_lt data locale
  have hindex := Rule.formIndex_eq hselect number
  refine ⟨hselect, hindex, Rule.formIndex_lt hselect number, ?_, ?_⟩
  · rw [hindex]
    split <;> simp [*]
  · simp only [Rule.formIndex, Int.neg_eq_zero, Int.natAbs_neg]

/-- The Breton rule comes from locale data, which has a category for whole millions. -/
theorem formIndex_addresses_form_breton :
    (Rule.forLocale "br").source = .standard ∧ formIndex 1000000 "br" Standard.data = 4 ∧
      formIndex (-1000000) "br" Standard.data = 4 ∧ 4 < expectedFormCount "br" Standard.data := by
  obtain ⟨_, hindex, hlt, _, hneg⟩ := formIndex_addresses_form Standard.data "br" 1000000
  have hmany : (resolve Standard.data "br").select (1000000 : Int).natAbs = 3 := by decide +kernel
  rw [if_neg (by decide), hmany] at hindex
  exact ⟨by decide +kernel, hindex, hneg.trans hindex, hindex.symm.trans_lt hlt⟩

/-- Under a rule that does not come from locale data a message has a form for every number just if
    it has as many forms as the locale requires, or more. Where it has none, the failure tells the
    key and the place that the form should have; where it has one, that is the form at this place. -/
theorem form_total_iff (data : LocaleData) (locale : String)
    (h : (resolve data locale).source ≠ .standard) (message key : String) :
    let rule := resolve data locale
    ((∀ number, ∃ text, rule.form message number locale key = .ok text) ↔
        rule.formCount ≤ (forms message).length) ∧
      (∀ number failure, rule.form message number locale key = .error failure →
        (forms message).length ≤ rule.formIndex number ∧
          failure = .pluralFormNotFound key (rule.formIndex number) (forms message).length locale ∧
          failure.report.category = .formResolution ∧
          failure.report.facts = [("key", .text key), ("index", .number (rule.formIndex number))]) ∧
      (∀ number text, rule.form message number locale key = .ok text →
        (forms message)[rule.formIndex number]? = some text) ∧
      (rule.hasExpectedForms message = true →
        ∀ number, ∃ text, rule.form message number locale key = .ok text) := by
  intro rule
  have hselect : ∀ n, rule.select n < rule.categories := Rule.select_resolve_lt data locale
  refine ⟨⟨fun hall => ?_, fun hle number => Rule.exists_form_of_le hselect hle number locale key⟩,
    fun number failure hfails => ?_, fun number text => Rule.form_eq_ok.1, fun hcount number => ?_⟩
  · -- A hundred needs the last form that the locale requires.
    obtain ⟨text, hform⟩ := hall 100
    obtain ⟨hlt, _⟩ := List.getElem?_eq_some_iff.1 (Rule.form_eq_ok.1 hform)
    have hlast : rule.formIndex 100 + 1 = rule.formCount := Rule.formIndex_hundred h
    exact hlast ▸ hlt
  · obtain ⟨hle, rfl⟩ := Rule.form_eq_error.1 hfails
    exact ⟨hle, rfl, rfl, rfl⟩
  · have hlength : (forms message).length = rule.formCount := of_decide_eq_true hcount
    exact Rule.exists_form_of_le hselect hlength.ge number locale key

/-- Arabic requires seven forms. A message with six has none for a hundred, and the failure says
    that the seventh is missing. -/
theorem form_total_iff_arabic :
    let message := "0 | 1 | 2 | 3 \\| 10 | 11 | "
    (Rule.forLocale "ar-EG").source ≠ .standard ∧
      (¬ ∀ number, ∃ text, form message number "ar-EG" "k" Standard.data = .ok text) ∧
      ∃ failure, form message 100 "ar-EG" "k" Standard.data = .error failure ∧
        failure.report.facts = [("key", .text "k"), ("index", .number 6)] := by
  intro message
  have hsource : (Rule.forLocale "ar-EG").source ≠ .standard := by decide +kernel
  obtain ⟨htotal, herror, _⟩ := form_total_iff Standard.data "ar-EG" hsource message "k"
  have hfew : ¬ expectedFormCount "ar-EG" Standard.data ≤ (forms message).length := by decide +kernel
  have hindex : (resolve Standard.data "ar-EG").formIndex 100 = 6 := by decide +kernel
  have hfails : form message 100 "ar-EG" "k" Standard.data =
      .error (.pluralFormNotFound "k" 6 6 "ar-EG") := by
    decide +kernel
  obtain ⟨_, _, _, hfacts⟩ := herror 100 _ hfails
  rw [hindex] at hfacts
  exact ⟨hsource, mt htotal.1 hfew, _, hfails, hfacts⟩

end MessageMarkup.Plural
