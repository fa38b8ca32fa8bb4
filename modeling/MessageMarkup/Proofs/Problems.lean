import MessageMarkup.Proofs.Verdict
import MessageMarkup.Report

/-!
# The problems of a translation

The problems of a translation tell in one list what validation finds, or why it fails. Two things
could keep them from that: a form that is looked up by its place and is not there, and a failure
without a diagnostic. Validation is stated here once more with both of them in sight. Neither
happens, so what is found is the list of problems.

## Main definitions

- `Translation.Interruption` — what could keep validation from an answer
- `Translation.check` — validation with forms looked up by their place
- `Translation.findProblems` — the problems of a translation, unless something interrupts

## Main statements

- `Translation.check_eq` — a form is always there where it is looked up
- `Translation.code_of_isValid_eq_error` — the codes of what validation fails for
- `Translation.problems_agree` — the problems of a translation are what validation says of it
-/

namespace MessageMarkup.Translation

open Outcome
open Plural (LocaleData)

/-- What could keep validation from an answer. -/
inductive Interruption where
  | failure (failure : Failure)
  /-- A form is looked up at a place that is not among the `count` places. -/
  | formMissing (index count : Nat)

/-- The form at a place, counted from zero. -/
def formAt (forms : List String) (index : Nat) : Except Interruption String :=
  match forms[index]? with
  | some form => .ok form
  | none => .error (.formMissing index forms.length)

def checkForm (limit : Int) (base translated : String) : Except Interruption Bool :=
  (isFormValid limit base translated).mapError .failure

/-- Whether each of several forms keeps the structure of the second base form, which is looked up
    for each of them. -/
def checkForms (limit : Int) (baseForms : List String) : List String → Except Interruption Bool
  | [] => .ok true
  | form :: forms => do
    let one ← formAt baseForms 1
    if ← checkForm limit one form then checkForms limit baseForms forms else return false

/-- Whether a translation is valid, with the first two base forms and the first form of the
    translation looked up by their places. -/
def check (limit : Int) (base translated locale : String) (data : LocaleData) :
    Except Interruption Bool :=
  if Plural.isPlural base then
    let forms := Plural.forms translated
    let expected := Plural.expectedFormCount locale data
    if forms.length ≠ expected then
      .error (.failure (.invalidPluralForms translated locale expected forms.length))
    else do
      let zero ← formAt (Plural.forms base) 0
      let first ← formAt forms 0
      if ← checkForm limit zero first then checkForms limit (Plural.forms base) (forms.drop 1)
      else return false
  else checkForm limit base translated

/-- What is wrong with a translation. A failure is a problem if it has a diagnostic, and is passed
    on if it has none. -/
def findProblems (base translated locale : String) (data : LocaleData) :
    Except Interruption (List Diagnostic) :=
  match check Nesting.defaultLimit base translated locale data with
  | .ok true => .ok []
  | .ok false => .ok [.structureMismatch base translated]
  | .error (.failure failure) =>
    match failure.report.diagnostic? with
    | some diagnostic => .ok [diagnostic]
    | none => .error (.failure failure)
  | .error interruption => .error interruption

theorem checkForms_eq {limit : Int} {zero one : String} {more : List String} (forms : List String) :
    checkForms limit (zero :: one :: more) forms =
      (areFormsValid limit one forms).mapError .failure := by
  induction forms with
  | nil => rfl
  | cons form forms ih =>
    have hone : formAt (zero :: one :: more) 1 = .ok one := rfl
    rw [checkForms, hone, ok_bind, checkForm, ih, mapError_and, areFormsValid]

/-- A form is always there where it is looked up. -/
theorem check_eq (limit : Int) (base translated locale : String) (data : LocaleData) :
    check limit base translated locale data =
      (isValid limit base translated locale data).mapError .failure := by
  cases hplural : Plural.isPlural base with
  | false =>
    rw [check, isValid_of_not_plural hplural, hplural]
    rfl
  | true =>
    by_cases hcount : (Plural.forms translated).length = Plural.expectedFormCount locale data
    · obtain ⟨zero, one, more, hbase⟩ := Plural.exists_two_forms hplural
      obtain ⟨first, rest, hforms⟩ := List.exists_cons_of_ne_nil (Plural.forms_ne_nil translated)
      have hcheck : check limit base translated locale data = (do
          if ← checkForm limit zero first then checkForms limit (zero :: one :: more) rest
          else return false) := by
        rw [check, if_pos hplural]
        simp only [hcount, ne_eq, not_true_eq_false, if_false]
        rw [hbase, hforms]
        rfl
      rw [hcheck, isValid_of_forms hplural hcount hbase hforms, ← mapError_and, checkForms_eq,
        checkForm]
    · rw [isValid_of_length_ne hplural hcount]
      simp [check, hplural, hcount, Except.mapError]

/-- Pairs come to a failure only if one of their forms cannot be read. -/
theorem Verdict.exists_parse_eq_error {limit : Int} {pairs : List (String × String)}
    {failure : Failure} (h : Verdict limit pairs (.error failure)) :
    ∃ pair ∈ pairs, ∃ form ∈ [pair.1, pair.2], parse limit form = .error failure := by
  cases h with
  | @refused _ _ pair _ hsplit _ hrefuses =>
    refine ⟨pair, by simp [hsplit], ?_⟩
    cases hrefuses with
    | base hbase => exact ⟨_, by simp, hbase⟩
    | translated _ htranslated => exact ⟨_, by simp, htranslated⟩

/-- Validation fails for a form that cannot be read, or for the number of forms. -/
theorem exists_parse_of_isValid_eq_error {limit : Int} {base translated locale : String}
    {data : LocaleData} {failure : Failure}
    (h : isValid limit base translated locale data = .error failure) :
    (∃ form ∈ base :: translated :: (Plural.forms base ++ Plural.forms translated),
        parse limit form = .error failure) ∨
      failure = .invalidPluralForms translated locale (Plural.expectedFormCount locale data)
        (Plural.forms translated).length := by
  by_cases hcount : Plural.isPlural base = true →
      (Plural.forms translated).length = Plural.expectedFormCount locale data
  · have hverdict : Verdict limit (pairs base translated)
        (isValid limit base translated locale data) :=
      verdict_isValid hcount
    rw [h] at hverdict
    obtain ⟨pair, hpair, form, hform, hfails⟩ := hverdict.exists_parse_eq_error
    obtain ⟨hbase, htranslated⟩ := forms_of_mem_pairs hpair
    refine .inl ⟨form, ?_, hfails⟩
    obtain rfl | rfl := List.mem_pair.1 hform
    · obtain hbase | hbase := List.mem_cons.1 hbase <;> simp [hbase]
    · obtain htranslated | htranslated := List.mem_cons.1 htranslated <;> simp [htranslated]
  · obtain ⟨hplural, hcount⟩ := Classical.not_imp.1 hcount
    rw [isValid_of_length_ne hplural hcount] at h
    exact .inr (Except.error.inj h).symm

/-- The codes of the failures that validation can come to. -/
def failureCodes : List Diagnostic.Code :=
  [.unbalancedTags, .tagHasAttributes, .nestingTooDeep, .invalidPluralForms]

theorem code_of_parse_eq_error {limit : Int} {source : String} {failure : Failure}
    (h : parse limit source = .error failure) : failure.diagnostic.code ∈ failureCodes := by
  obtain ⟨fault, _, rfl⟩ := parse_eq_error_iff_run.1 h
  cases fault with
  | unbalancedTags position =>
    show .unbalancedTags ∈ failureCodes
    decide
  | tagHasAttributes label position =>
    show .tagHasAttributes ∈ failureCodes
    decide
  | nestingTooDeep limit =>
    show .nestingTooDeep ∈ failureCodes
    decide

theorem code_of_isValid_eq_error {limit : Int} {base translated locale : String}
    {data : LocaleData} {failure : Failure}
    (h : isValid limit base translated locale data = .error failure) :
    failure.diagnostic.code ∈ failureCodes := by
  obtain ⟨form, _, hparse⟩ | rfl := exists_parse_of_isValid_eq_error h
  · exact code_of_parse_eq_error hparse
  · show .invalidPluralForms ∈ failureCodes
    decide

/-- Whatever locale data knows, nothing keeps the problems of a translation from being found. There
    is at most one, and none just if the translation is valid. If it is not, the problem is that its
    structure differs; and if validation fails, the problem is the diagnostic of that failure. -/
theorem problems_agree (base translated locale : String) (data : LocaleData) :
    findProblems base translated locale data = .ok (problems base translated locale data) ∧
      (problems base translated locale data).length ≤ 1 ∧
      (problems base translated locale data = [] ↔
        isValid Nesting.defaultLimit base translated locale data = .ok true) ∧
      (isValid Nesting.defaultLimit base translated locale data = .ok false →
        ∃ problem, problems base translated locale data = [problem] ∧
          problem.code = .structureMismatch ∧ problem.source = some translated) ∧
      ∀ failure, isValid Nesting.defaultLimit base translated locale data = .error failure →
        failure.report.diagnostic? = some failure.diagnostic ∧
          problems base translated locale data = [failure.diagnostic] ∧
          failure.diagnostic.code ∈ failureCodes := by
  have hcodes := @code_of_isValid_eq_error Nesting.defaultLimit base translated locale data
  rw [findProblems, check_eq, problems]
  cases hvalid : isValid Nesting.defaultLimit base translated locale data with
  | ok valid =>
    cases valid with
    | true => simp [Except.mapError]
    | false => simp [Except.mapError, Diagnostic.structureMismatch, Diagnostic.ofMessage]
  | error failure =>
    -- The report of a failure always has its diagnostic, so it is never passed on.
    refine ⟨rfl, le_rfl, by simp, by simp, ?_⟩
    rintro _ ⟨⟩
    exact ⟨rfl, rfl, hcodes hvalid⟩

/-- A translation whose last form lacks a placeholder, and one that lacks a form. -/
theorem problems_agree_plural :
    isValid Nesting.defaultLimit "0|%n%" "0|%n%|n" "en" Plural.Standard.data = .ok false ∧
      (∃ problem, problems "0|%n%" "0|%n%|n" "en" Plural.Standard.data = [problem] ∧
        problem.code = .structureMismatch ∧ problem.source = some "0|%n%|n") ∧
      isValid Nesting.defaultLimit "0|%n%" "0|%n%" "en" Plural.Standard.data =
        .error (.invalidPluralForms "0|%n%" "en" 3 2) ∧
      problems "0|%n%" "0|%n%" "en" Plural.Standard.data =
        [(Failure.invalidPluralForms "0|%n%" "en" 3 2).diagnostic] := by
  have hfalse : isValid Nesting.defaultLimit "0|%n%" "0|%n%|n" "en" Plural.Standard.data =
      .ok false := by
    decide +kernel
  have hfails : isValid Nesting.defaultLimit "0|%n%" "0|%n%" "en" Plural.Standard.data =
      .error (.invalidPluralForms "0|%n%" "en" 3 2) := by
    decide +kernel
  obtain ⟨_, _, _, hdiffers, _⟩ := problems_agree "0|%n%" "0|%n%|n" "en" Plural.Standard.data
  obtain ⟨_, _, _, _, hreported⟩ := problems_agree "0|%n%" "0|%n%" "en" Plural.Standard.data
  exact ⟨hfalse, hdiffers hfalse, hfails, (hreported _ hfails).2.1⟩

end MessageMarkup.Translation
