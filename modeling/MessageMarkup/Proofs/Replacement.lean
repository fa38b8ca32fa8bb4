import MessageMarkup.Proofs.Comparison
import MessageMarkup.Proofs.Formatting
import MessageMarkup.Proofs.PluralForms
import MessageMarkup.Proofs.Unescape
import MessageMarkup.Validation.Translation

/-!
# Valid translations at run time

A valid translation can be shown wherever its base message can. It has a form for every number, and
each of its forms has the markup of the base form it was held against.

## Main statements

- `Translation.replaces_of_isValid` — a valid translation replaces its base message
-/

namespace MessageMarkup

open Node Outcome

namespace Translation

open Plural (LocaleData)

/-- A form that is valid has the markup of its base form, and both can be read. -/
theorem exists_of_isFormValid {limit : Int} {base translated : String}
    (h : isFormValid limit base translated = .ok true) :
    ∃ baseNodes nodes, parse limit base = .ok baseNodes ∧ parse limit translated = .ok nodes ∧
      ∀ s, s ∈ signatures nodes ↔ s ∈ signatures baseNodes := by
  simp only [isFormValid, bind_eq_ok] at h
  obtain ⟨baseNodes, hbase, nodes, htranslated, hsame⟩ := h
  refine ⟨baseNodes, nodes, hbase, htranslated, fun s => ?_⟩
  exact (Structure.signatures_perm_of_same hsame).mem_iff.symm

theorem isFormValid_of_areFormsValid {limit : Int} {base : String} {forms : List String}
    (h : areFormsValid limit base forms = .ok true) :
    ∀ form ∈ forms, isFormValid limit base form = .ok true := by
  induction forms with
  | nil => simp
  | cons form forms ih =>
    rw [areFormsValid, bind_eq_ok] at h
    obtain ⟨valid, hvalid, h⟩ := h
    cases valid with
    | false => cases h
    | true => exact List.forall_mem_cons.2 ⟨hvalid, ih h⟩

/-- A valid plural translation has as many forms as its locale requires, the first of which is
    valid for the first base form and the others for the second. -/
theorem forms_of_isValid {limit : Int} {base translated locale : String} {data : LocaleData}
    (hplural : Plural.isPlural base = true)
    (h : isValid limit base translated locale data = .ok true) :
    (Plural.forms translated).length = Plural.expectedFormCount locale data ∧
      ∃ baseZero baseOne more zero rest, Plural.forms base = baseZero :: baseOne :: more ∧
        Plural.forms translated = zero :: rest ∧ isFormValid limit baseZero zero = .ok true ∧
        ∀ form ∈ rest, isFormValid limit baseOne form = .ok true := by
  obtain ⟨baseZero, baseOne, more, hbase⟩ := Plural.exists_two_forms hplural
  obtain ⟨zero, rest, hforms⟩ := List.exists_cons_of_ne_nil (Plural.forms_ne_nil translated)
  by_cases hcount : (Plural.forms translated).length = Plural.expectedFormCount locale data
  · rw [isValid_of_forms hplural hcount hbase hforms, bind_eq_ok] at h
    obtain ⟨valid, hvalid, h⟩ := h
    cases valid with
    | false => cases h
    | true =>
      exact ⟨hcount, baseZero, baseOne, more, zero, rest, hbase, hforms, hvalid,
        isFormValid_of_areFormsValid h⟩
  · rw [isValid_of_length_ne hplural hcount] at h
    cases h

theorem replaces_of_isFormValid {base translated : String}
    (h : isFormValid Nesting.defaultLimit base translated = .ok true) :
    Formatter.standard.Replaces translated base := by
  obtain ⟨baseNodes, nodes, hbase, htranslated, hsame⟩ := exists_of_isFormValid h
  exact Formatter.replaces_of_signatures htranslated hbase hsame

/-- A form that is valid as it is written also replaces its base form when both are freed of
    escapes. -/
theorem replaces_unescape_of_isFormValid {base translated : String}
    (h : isFormValid Nesting.defaultLimit base translated = .ok true) :
    Formatter.standard.Replaces (Plural.unescape translated) (Plural.unescape base) := by
  obtain ⟨baseNodes, nodes, hbase, htranslated, hsame⟩ := exists_of_isFormValid h
  refine Formatter.replaces_of_signatures (parse_unescape htranslated) (parse_unescape hbase) ?_
  intro s
  simp only [signatures_rewordAll, List.mem_map, hsame]

/-- Whatever locale data knows, a valid translation can be formatted with just the values that its
    base message can. If the base message is plural, there is a form of the translation for every
    number, and that goes for this form and the first base form, or the second for a number other than
    zero. -/
theorem replaces_of_isValid {base translated locale : String} {data : LocaleData}
    (h : isValid Nesting.defaultLimit base translated locale data = .ok true) :
    (Plural.isPlural base = false →
      Formatter.standard.Replaces (Plural.unescape translated) (Plural.unescape base)) ∧
    (Plural.isPlural base = true → ∃ zero one more, Plural.forms base = zero :: one :: more ∧
      ∀ number key, ∃ form, Plural.form translated number locale key data = .ok form ∧
        Formatter.standard.Replaces form (if number = 0 then zero else one)) := by
  constructor
  · intro hplural
    rw [isValid_of_not_plural hplural] at h
    exact replaces_unescape_of_isFormValid h
  · intro hplural
    obtain ⟨hcount, baseZero, baseOne, more, zero, rest, hbase, hforms, hzero, hrest⟩ :=
      forms_of_isValid hplural h
    refine ⟨baseZero, baseOne, more, hbase, fun number key => ?_⟩
    obtain ⟨form, zero', rest', hforms', hform, hcase⟩ := Plural.exists_form hcount number key
    obtain ⟨rfl, rfl⟩ : zero = zero' ∧ rest = rest' := by simpa [hforms] using hforms'
    refine ⟨form, hform, ?_⟩
    obtain ⟨hnumber, rfl⟩ | ⟨hnumber, hmem⟩ := hcase
    · rw [if_pos hnumber]
      exact replaces_of_isFormValid hzero
    · rw [if_neg hnumber]
      exact replaces_of_isFormValid (hrest form hmem)

/-- A base message of three forms and its Russian translation of four. -/
theorem replaces_of_isValid_russian :
    let base := "None|<b>%n%</b>|%n% all"
    let translated := "0|<b>%n%</b> a|b <b>%n%</b>|<b>c %n%</b>"
    isValid Nesting.defaultLimit base translated "ru" Plural.Standard.data = .ok true ∧
      ∀ number key, ∃ form,
        Plural.form translated number "ru" key Plural.Standard.data = .ok form ∧
        Formatter.standard.Replaces form (if number = 0 then "None" else "<b>%n%</b>") := by
  intro base translated
  have hvalid : isValid Nesting.defaultLimit base translated "ru" Plural.Standard.data =
      .ok true := by
    decide +kernel
  have hbase : Plural.forms base = ["None", "<b>%n%</b>", "%n% all"] := by decide +kernel
  obtain ⟨zero, one, more, hforms, hform⟩ := (replaces_of_isValid hvalid).2 (by decide +kernel)
  obtain ⟨rfl, rfl, rfl⟩ : "None" = zero ∧ "<b>%n%</b>" = one ∧ ["%n% all"] = more := by
    simpa [hbase] using hforms
  exact ⟨hvalid, hform⟩

end Translation

end MessageMarkup
