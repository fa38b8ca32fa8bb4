import Mathlib.Data.List.Nodup
import Mathlib.Data.List.Range
import MessageMarkup.Proofs.LocaleLookup
import MessageMarkup.Proofs.PluralForms

/-!
# Which forms are ever chosen

Zero has a form of its own, in front of those for the categories. A category of which zero is the
only quantity, or that has none among the whole numbers, therefore has a form that no number
chooses. Every other form is chosen by some number.

## Main definitions

- `Plural.Family.zeroFirst` — the first category of a family is that of zero alone
- `Plural.Family.samples` — a quantity of each category of a family
- `Plural.Unchosen` — a form that a locale requires and no number chooses

## Main statements

- `Plural.Rule.exists_formIndex_iff` — a form is chosen for the quantities of its category
- `Plural.Family.exists_select_iff` — which categories of a family have a positive quantity
- `Plural.form_chosen_iff` — which forms are chosen by some number
-/

namespace MessageMarkup.Plural

/-- A form is chosen by some number if it is that of zero, or its category has a positive quantity. -/
theorem Rule.exists_formIndex_iff {r : Rule} (h : ∀ n, r.select n < r.categories) {index : Nat} :
    (∃ number, r.formIndex number = index) ↔ index = 0 ∨ ∃ n, 0 < n ∧ r.select n + 1 = index := by
  simp only [formIndex_eq h]
  constructor
  · rintro ⟨number, hindex⟩
    split at hindex
    · exact .inl hindex.symm
    · next hnumber => exact .inr ⟨number.natAbs, Int.natAbs_pos.2 hnumber, hindex⟩
  · rintro (rfl | ⟨n, hn, rfl⟩)
    · exact ⟨0, rfl⟩
    · exact ⟨n, by rw [if_neg (by omega), Int.natAbs_natCast]⟩

namespace Family

/-- The first category of the family is that of zero alone. -/
def zeroFirst : Family → Bool
  | latvian | arabic => true
  | _ => false

/-- A quantity of each category, in their order. It is positive wherever the category has one that
    is. -/
def samples : Family → List Nat
  | uniform => [1]
  | oneOther | belowTwoOther | macedonian => [1, 2]
  | eastSlavic | czech | polish => [1, 2, 5]
  | irish => [1, 2, 3]
  | lithuanian => [1, 2, 10]
  | slovenian => [1, 2, 3, 5]
  | maltese => [1, 2, 11, 20]
  | latvian => [0, 1, 2]
  | welsh => [1, 2, 8, 3]
  | romanian => [1, 2, 20]
  | arabic => [0, 1, 2, 3, 11, 100]

theorem map_select_samples (f : Family) : f.samples.map f.select = List.range f.categories := by
  cases f <;> decide

theorem zeroFirst_of_mem_samples {f : Family} (h : 0 ∈ f.samples) : f.zeroFirst = true := by
  revert h
  cases f <;> decide

theorem zeroFirst_iff {f : Family} : f.zeroFirst = true ↔ f = latvian ∨ f = arabic := by
  cases f <;> decide

theorem select_eq_zero_iff {f : Family} (h : f.zeroFirst = true) (n : Nat) :
    f.select n = 0 ↔ n = 0 := by
  cases f with
  | latvian =>
    simp only [select]
    grind
  | arabic =>
    simp only [select]
    grind
  | _ => cases h

/-- A category of a family has a positive quantity, unless it is the first and that of zero alone. -/
theorem exists_select_iff (f : Family) {category : Nat} (h : category < f.categories) :
    (∃ n, 0 < n ∧ f.select n = category) ↔ ¬ (category = 0 ∧ f.zeroFirst = true) := by
  constructor
  · rintro ⟨n, hn, hselect⟩ ⟨rfl, hzero⟩
    exact hn.ne' ((select_eq_zero_iff hzero n).1 hselect)
  · intro hnot
    have hmem : category ∈ f.samples.map f.select := by
      rw [map_select_samples]
      exact List.mem_range.2 h
    obtain ⟨n, hn, hselect⟩ := List.mem_map.1 hmem
    refine ⟨n, Nat.pos_of_ne_zero ?_, hselect⟩
    rintro rfl
    have hzero := zeroFirst_of_mem_samples hn
    exact hnot ⟨hselect.symm.trans ((select_eq_zero_iff hzero 0).2 rfl), hzero⟩

end Family

/-- The place of a quantity is that of its category. -/
theorem Classifier.select_eq_iff {c : Classifier} {place : Nat} {k : Category}
    (h : c.categories[place]? = some k) (n : Nat) : c.select n = place ↔ c.category n = k := by
  have hnodup : c.categories.Nodup := List.Nodup.filter _ (by decide)
  obtain ⟨hplace, hk⟩ := List.getElem?_eq_some_iff.1 h
  constructor
  · rintro rfl
    rw [← hk]
    exact (List.getElem_idxOf hplace).symm
  · rintro rfl
    rw [select, ← hk]
    exact hnodup.idxOf_getElem place hplace

/-- A form that a locale requires and no number chooses, by its place. -/
inductive Unchosen (data : LocaleData) (locale : String) : Nat → Prop
  /-- It is for a category of zero alone. -/
  | family {f : Family} : Rule.family? locale = some f → f.zeroFirst = true → Unchosen data locale 1
  /-- It is for a category into which locale data sorts no positive quantity. -/
  | category {c : Classifier} {place : Nat} {k : Category} : Rule.family? locale = none →
      data (Locale.normalize locale) = some c → c.categories[place]? = some k →
      (∀ n, 0 < n → c.category n ≠ k) → Unchosen data locale (place + 1)

namespace Rule

variable {data : LocaleData} {locale : String}

theorem resolve_of_data {c : Classifier} (hfamily : family? locale = none)
    (hdata : data (Locale.normalize locale) = some c) : resolve data locale = ofClassifier c := by
  unfold resolve
  rw [hfamily, hdata]

theorem resolve_of_unknown (hfamily : family? locale = none)
    (hdata : data (Locale.normalize locale) = none) :
    resolve data locale = ofFamily fallbackFamily .fallback := by
  unfold resolve
  rw [hfamily, hdata]

theorem unchosen_iff_of_family? {f : Family} (h : family? locale = some f) {index : Nat} :
    Unchosen data locale index ↔ index = 1 ∧ f.zeroFirst = true := by
  constructor
  · intro hunchosen
    cases hunchosen with
    | family hf hzero =>
      rw [h] at hf
      cases hf
      exact ⟨rfl, hzero⟩
    | category hnone => simp [h] at hnone
  · rintro ⟨rfl, hzero⟩
    exact .family h hzero

theorem unchosen_iff_of_data {c : Classifier} (hfamily : family? locale = none)
    (hdata : data (Locale.normalize locale) = some c) {place : Nat} {k : Category}
    (hk : c.categories[place]? = some k) :
    Unchosen data locale (place + 1) ↔ ∀ n, 0 < n → c.category n ≠ k := by
  constructor
  · intro hunchosen
    cases hunchosen with
    | family hf => simp [hfamily] at hf
    | category _ hdata' hk' hidle =>
      rw [hdata] at hdata'
      cases hdata'
      rw [hk] at hk'
      cases hk'
      exact hidle
  · exact .category hfamily hdata hk

theorem not_unchosen_of_unknown (hfamily : family? locale = none)
    (hdata : data (Locale.normalize locale) = none) {index : Nat} :
    ¬ Unchosen data locale index := by
  rintro (⟨hf, _⟩ | ⟨_, hc, _⟩)
  · simp [hfamily] at hf
  · simp [hdata] at hc

theorem not_unchosen_zero : ¬ Unchosen data locale 0 := by
  rintro ⟨⟩

/-- Under the rule of a family a form is chosen unless its category is that of zero alone. -/
theorem exists_formIndex_ofFamily_iff (f : Family) (source : RuleSource) {index : Nat}
    (h : index < (ofFamily f source).formCount) :
    (∃ number, (ofFamily f source).formIndex number = index) ↔
      ¬ (index = 1 ∧ f.zeroFirst = true) := by
  rw [exists_formIndex_iff (r := ofFamily f source) f.select_lt]
  cases index with
  | zero => simp
  | succ category =>
    simpa [ofFamily] using f.exists_select_iff (Nat.lt_of_succ_lt_succ h)

/-- A form that a locale requires is chosen by some number unless it is one of those that are not. -/
theorem exists_formIndex_resolve_iff {index : Nat} (h : index < (resolve data locale).formCount) :
    (∃ number, (resolve data locale).formIndex number = index) ↔ ¬ Unchosen data locale index := by
  cases hfamily : family? locale with
  | some f =>
    rw [resolve_of_family? hfamily] at h ⊢
    rw [exists_formIndex_ofFamily_iff f _ h, unchosen_iff_of_family? hfamily]
  | none =>
    cases hdata : data (Locale.normalize locale) with
    | none =>
      rw [resolve_of_unknown hfamily hdata] at h ⊢
      rw [exists_formIndex_ofFamily_iff _ _ h]
      exact iff_of_true (by simp [fallbackFamily, Family.zeroFirst])
        (not_unchosen_of_unknown hfamily hdata)
    | some c =>
      rw [resolve_of_data hfamily hdata] at h ⊢
      rw [exists_formIndex_iff (r := ofClassifier c) c.select_lt]
      cases index with
      | zero => simp [not_unchosen_zero]
      | succ place =>
        have hk := List.getElem?_eq_getElem (Nat.lt_of_succ_lt_succ h)
        rw [unchosen_iff_of_data hfamily hdata hk]
        simp [ofClassifier, Classifier.select_eq_iff hk]

end Rule

/-- Zero is the only quantity of the category that a standard rule names for it. -/
theorem Standard.eq_zero_of_category_eq_zero {e : Entry} (he : e ∈ entries) {n : Nat}
    (h : e.rule.category n = .zero) : n = 0 := by
  obtain ⟨condition, hmem, hholds⟩ := ConditionRule.exists_holds_of_category_eq (by decide) h
  have hcondition : ∀ e ∈ entries, ∀ entry ∈ e.rule, entry.1 = .zero →
      entry.2 = [[.within .quantity [(0, 0)]]] := by
    decide +kernel
  obtain rfl := hcondition e he _ hmem rfl
  simpa [Condition.holds_iff, Operand.value] using hholds

open Rule (resolve)

/-- Whatever locale data knows, every form that a locale requires is chosen by some number, except
    where the first category of its family is that of zero alone, and where locale data sorts no
    positive quantity into the category of the form. -/
theorem form_chosen_iff (data : LocaleData) (locale : String) :
    (∀ index < (resolve data locale).formCount,
        (∃ number, (resolve data locale).formIndex number = index) ↔
          ¬ Unchosen data locale index) ∧
      (∀ f, Rule.family? locale = some f → ∀ index,
        (Unchosen data locale index ↔ index = 1 ∧ (f = .latvian ∨ f = .arabic))) ∧
      (Rule.family? locale = none → data (Locale.normalize locale) = none →
        ∀ index, ¬ Unchosen data locale index) := by
  refine ⟨fun _ => Rule.exists_formIndex_resolve_iff, fun f hf index => ?_,
    fun hfamily hdata _ => Rule.not_unchosen_of_unknown hfamily hdata⟩
  rw [Rule.unchosen_iff_of_family? hf, Family.zeroFirst_iff]

/-- The first category of Latvian and of Arabic is that of zero, whatever locale data knows, and so is
    the first one of Kölsch, a language of the standard rules. Each of them requires a form for it that
    no number chooses. -/
theorem zero_category_unchosen :
    (∀ data, 1 < expectedFormCount "lv" data ∧ ∀ number, formIndex number "lv" data ≠ 1) ∧
      (∀ data, 1 < expectedFormCount "ar" data ∧ ∀ number, formIndex number "ar" data ≠ 1) ∧
      1 < expectedFormCount "ksh" Standard.data ∧
        ∀ number, formIndex number "ksh" Standard.data ≠ 1 := by
  have hunchosen {data : LocaleData} {locale : String} (h : Unchosen data locale 1) :
      1 < expectedFormCount locale data ∧ ∀ number, formIndex number locale data ≠ 1 := by
    have hcount := one_lt_expectedFormCount locale data
    exact ⟨hcount, fun number hindex =>
      (Rule.exists_formIndex_resolve_iff hcount).1 ⟨number, hindex⟩ h⟩
  have hlatvian : Rule.family? "lv" = some .latvian := by decide +kernel
  have harabic : Rule.family? "ar" = some .arabic := by decide +kernel
  have hdata : Standard.data (Locale.normalize "ksh") = some Standard.entries[15].rule.classifier := by
    have hrule : Standard.rule? (Text.lower (Locale.normalize "ksh")) =
        some Standard.entries[15].rule := by
      decide +kernel
    rw [Standard.data, hrule, Option.map_some]
  have hidle (n : Nat) (hn : 0 < n) : Standard.entries[15].rule.category n ≠ .zero := fun hzero =>
    hn.ne' (Standard.eq_zero_of_category_eq_zero (List.getElem_mem _) hzero)
  have hkoelsch : Unchosen Standard.data "ksh" (0 + 1) :=
    .category (by decide +kernel) hdata (by decide +kernel) hidle
  exact ⟨fun _ => hunchosen (.family hlatvian rfl), fun _ => hunchosen (.family harabic rfl),
    hunchosen hkoelsch⟩

end MessageMarkup.Plural
