import MessageMarkup.Proofs.Acceptance
import MessageMarkup.Proofs.Likeness
import MessageMarkup.Proofs.PluralForms
import MessageMarkup.Validation.Translation

/-!
# The verdict on a translation

Validation holds pairs of forms against each other, one after the other, and ends with the first
pair that does not match. Nothing but reading a form and counting the forms can fail.

## Main definitions

- `Translation.Matches` — both forms of a pair can be read, and are alike
- `Translation.Refuses` — what a pair that does not match comes to
- `Translation.Verdict` — what several pairs come to, of which the first that does not match decides
- `Translation.pairs` — the pairs that are held against each other

## Main statements

- `Translation.admits_of_parse` — whatever can be read under a limit can be compared under it
- `Translation.verdict_isValid` — the pairs decide where there is the right number of forms
- `Translation.isValid_verdict` — the verdict on a translation
-/

namespace MessageMarkup.Translation

open Outcome
open Plural (LocaleData)

/-- Both forms of a pair can be read, and have the same structure. -/
def Matches (limit : Int) (pair : String × String) : Prop :=
  ∃ base target, parse limit pair.1 = .ok base ∧ parse limit pair.2 = .ok target ∧
    Structure.Alike base target

/-- What a pair that does not match comes to. That its first form cannot be read counts before all
    else. -/
inductive Refuses (limit : Int) : String × String → Except Failure Bool → Prop
  | base {base translated : String} {failure : Failure} :
      parse limit base = .error failure → Refuses limit (base, translated) (.error failure)
  | translated {base translated : String} {nodes : List Node} {failure : Failure} :
      parse limit base = .ok nodes → parse limit translated = .error failure →
      Refuses limit (base, translated) (.error failure)
  | structure {base translated : String} {nodes others : List Node} :
      parse limit base = .ok nodes → parse limit translated = .ok others →
      ¬ Structure.Alike nodes others → Refuses limit (base, translated) (.ok false)

/-- What several pairs come to. -/
inductive Verdict (limit : Int) (pairs : List (String × String)) : Except Failure Bool → Prop
  | valid : (∀ pair ∈ pairs, Matches limit pair) → Verdict limit pairs (.ok true)
  /-- The first pair that does not match decides. -/
  | refused {front back : List (String × String)} {pair : String × String}
      {outcome : Except Failure Bool} :
      pairs = front ++ pair :: back → (∀ earlier ∈ front, Matches limit earlier) →
      Refuses limit pair outcome → Verdict limit pairs outcome

/-- The guard of the comparison admits whatever can be read. It is another one than that of the
    parser only for the limit zero, under which no tag can be read. -/
theorem admits_of_parse {limit : Int} {source : String} {nodes : List Node}
    (h : parse limit source = .ok nodes) :
    (DepthGuard.ofLimit (comparisonLimit limit)).Admits nodes := by
  rw [DepthGuard.admits_ofLimit, Nesting.clamp_eq_min, comparisonLimit]
  have hdepth := (parse_eq_ok_iff.1 h).2
  rw [Nesting.clamp_eq_min] at hdepth
  split
  · omega
  · exact hdepth

/-- One pair of forms matches, or else comes to what its first flaw does. -/
theorem isFormValid_cases (limit : Int) (base translated : String) :
    Matches limit (base, translated) ∧ isFormValid limit base translated = .ok true ∨
      Refuses limit (base, translated) (isFormValid limit base translated) := by
  cases hbase : parse limit base with
  | error failure =>
    right
    rw [isFormValid, hbase]
    exact .base hbase
  | ok nodes =>
    cases htranslated : parse limit translated with
    | error failure =>
      right
      rw [isFormValid, hbase, htranslated]
      exact .translated hbase htranslated
    | ok others =>
      have hform : isFormValid limit base translated =
          Structure.same (.ofLimit (comparisonLimit limit)) nodes others := by
        rw [isFormValid, hbase, htranslated]
        rfl
      obtain ⟨agree, hsame, halike⟩ := Structure.same_answers (admits_of_parse hbase) others
      rw [hform, hsame]
      cases agree with
      | true => exact .inl ⟨⟨nodes, others, hbase, htranslated, halike.1 rfl⟩, rfl⟩
      | false =>
        refine .inr (.structure hbase htranslated fun h => ?_)
        exact absurd (halike.2 h) (by decide)

theorem verdict_single (limit : Int) (base translated : String) :
    Verdict limit [(base, translated)] (isFormValid limit base translated) := by
  obtain ⟨hmatches, hvalid⟩ | hrefuses := isFormValid_cases limit base translated
  · rw [hvalid]
    exact .valid (by simpa using hmatches)
  · exact .refused (List.nil_append _).symm (by simp) hrefuses

/-- A pair comes before others: if it matches, these decide. -/
theorem Verdict.cons {limit : Int} {base translated : String} {pairs : List (String × String)}
    {outcome : Except Failure Bool} (h : Verdict limit pairs outcome) :
    Verdict limit ((base, translated) :: pairs)
      (do if ← isFormValid limit base translated then outcome else return false) := by
  obtain ⟨hmatches, hvalid⟩ | hrefuses := isFormValid_cases limit base translated
  · rw [hvalid]
    cases h with
    | valid hall => exact .valid (List.forall_mem_cons.2 ⟨hmatches, hall⟩)
    | @refused front back pair _ hsplit hfront hrefuses =>
      have hsplit' : (base, translated) :: pairs = ((base, translated) :: front) ++ pair :: back := by
        rw [hsplit]
        rfl
      exact .refused hsplit' (List.forall_mem_cons.2 ⟨hmatches, hfront⟩) hrefuses
  · have hsame : (do if ← isFormValid limit base translated then outcome else return false) =
        isFormValid limit base translated := by
      revert hrefuses
      cases isFormValid limit base translated with
      | error failure => exact fun _ => rfl
      | ok valid =>
        intro hrefuses
        cases hrefuses
        rfl
    rw [hsame]
    exact .refused (List.nil_append _).symm (by simp) hrefuses

/-- The verdict on several forms of one base form is that on the pairs that they make with it. -/
theorem verdict_areFormsValid (limit : Int) (base : String) (forms : List String) :
    Verdict limit (forms.map (Prod.mk base)) (areFormsValid limit base forms) := by
  induction forms with
  | nil => exact .valid (by simp)
  | cons form forms ih => exact ih.cons

/-- The pairs that a translation and its base message make: the first forms, and the second base form
    with each further form of the translation. Messages that are not plural make one pair. -/
def pairs (base translated : String) : List (String × String) :=
  if Plural.isPlural base then
    match Plural.forms base, Plural.forms translated with
    | zero :: one :: _, first :: rest => (zero, first) :: rest.map (Prod.mk one)
    | _, _ => []
  else [(base, translated)]

section

variable {limit : Int} {base translated locale : String} {data : LocaleData}

theorem pairs_of_not_plural (hplural : Plural.isPlural base = false) :
    pairs base translated = [(base, translated)] := by
  rw [pairs, if_neg (by simp [hplural])]

theorem pairs_of_forms {zero one first : String} {more rest : List String}
    (hplural : Plural.isPlural base = true) (hbase : Plural.forms base = zero :: one :: more)
    (hforms : Plural.forms translated = first :: rest) :
    pairs base translated = (zero, first) :: rest.map (Prod.mk one) := by
  rw [pairs, if_pos hplural, hbase, hforms]

/-- The pairs hold nothing but the two messages and their forms. -/
theorem forms_of_mem_pairs {pair : String × String} (h : pair ∈ pairs base translated) :
    pair.1 ∈ base :: Plural.forms base ∧ pair.2 ∈ translated :: Plural.forms translated := by
  cases hplural : Plural.isPlural base with
  | false =>
    rw [pairs_of_not_plural hplural, List.mem_singleton] at h
    simp [h]
  | true =>
    obtain ⟨zero, one, more, hbase⟩ := Plural.exists_two_forms hplural
    obtain ⟨first, rest, hforms⟩ := List.exists_cons_of_ne_nil (Plural.forms_ne_nil translated)
    rw [pairs_of_forms hplural hbase hforms] at h
    rw [hbase, hforms]
    obtain rfl | h := List.mem_cons.1 h
    · simp
    · obtain ⟨other, hother, rfl⟩ := List.mem_map.1 h
      simp [hother]

/-- With the right number of forms the pairs decide the answer. -/
theorem verdict_isValid (hcount : Plural.isPlural base = true →
      (Plural.forms translated).length = Plural.expectedFormCount locale data) :
    Verdict limit (pairs base translated) (isValid limit base translated locale data) := by
  cases hplural : Plural.isPlural base with
  | false =>
    rw [isValid_of_not_plural hplural, pairs_of_not_plural hplural]
    exact verdict_single limit base translated
  | true =>
    obtain ⟨zero, one, more, hbase⟩ := Plural.exists_two_forms hplural
    obtain ⟨first, rest, hforms⟩ := List.exists_cons_of_ne_nil (Plural.forms_ne_nil translated)
    rw [isValid_of_forms hplural (hcount hplural) hbase hforms, pairs_of_forms hplural hbase hforms]
    exact (verdict_areFormsValid limit one rest).cons

end

/-- A message that is not plural makes one pair with its translation. A plural one makes none if the
    translation has not the number of forms that its locale requires; that alone is then reported.
    Otherwise the first forms make a pair, and the second base form makes one with every further form
    of the translation. Of these pairs the first that does not match decides. No comparison fails. -/
theorem isValid_verdict (limit : Int) (base translated locale : String) (data : LocaleData) :
    (Plural.isPlural base = false ∧
        Verdict limit [(base, translated)] (isValid limit base translated locale data) ∨
      Plural.isPlural base = true ∧
        (Plural.forms translated).length ≠ Plural.expectedFormCount locale data ∧
        isValid limit base translated locale data = .error (.invalidPluralForms translated locale
          (Plural.expectedFormCount locale data) (Plural.forms translated).length) ∨
      Plural.isPlural base = true ∧
        (Plural.forms translated).length = Plural.expectedFormCount locale data ∧
        ∃ zero one more first rest, Plural.forms base = zero :: one :: more ∧
          Plural.forms translated = first :: rest ∧
          Verdict limit ((zero, first) :: rest.map (Prod.mk one))
            (isValid limit base translated locale data)) ∧
    ∀ form other nodes others, parse limit form = .ok nodes → parse limit other = .ok others →
      ∃ agree, Structure.same (.ofLimit (comparisonLimit limit)) nodes others = .ok agree := by
  constructor
  · cases hplural : Plural.isPlural base with
    | false =>
      refine .inl ⟨rfl, ?_⟩
      rw [isValid_of_not_plural hplural]
      exact verdict_single limit base translated
    | true =>
      right
      by_cases hcount : (Plural.forms translated).length = Plural.expectedFormCount locale data
      · obtain ⟨zero, one, more, hbase⟩ := Plural.exists_two_forms hplural
        obtain ⟨first, rest, hforms⟩ :=
          List.exists_cons_of_ne_nil (Plural.forms_ne_nil translated)
        refine .inr ⟨rfl, hcount, zero, one, more, first, rest, hbase, hforms, ?_⟩
        rw [← pairs_of_forms hplural hbase hforms]
        exact verdict_isValid fun _ => hcount
      · exact .inl ⟨rfl, hcount, isValid_of_length_ne hplural hcount⟩
  · intro form other nodes others hform _
    obtain ⟨agree, hsame, _⟩ := Structure.same_answers (admits_of_parse hform) others
    exact ⟨agree, hsame⟩

-- The third pair does not match, so that the last form is never read.
example : isValid 5 "0|%n%" "0|%n%|n|<b>" "ru" Plural.Standard.data = .ok false := by decide +kernel

end MessageMarkup.Translation
