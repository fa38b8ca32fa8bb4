import MessageMarkup.Proofs.Problems

/-!
# Which malformed forms are reported

Validation reports a form that cannot be read when it comes to it. It does not come to every form:
a pair that differs ends it, and of the base forms only the first two are held against anything.

## Main definitions

- `Translation.Malformed` — a form cannot be read
- `Translation.comparedForms` — the forms in the pairs that are held against each other
- `Translation.Unreadable`, `Translation.Differs` — how a pair may fail to match

## Main statements

- `Translation.Refuses.cases` — a pair that does not match cannot be read, or differs
- `Translation.Verdict.exists_eq_error_iff` — when several pairs come to a failure
- `Translation.malformed_reported` — which malformed forms validation reports
-/

namespace MessageMarkup.Translation

open Plural (LocaleData)

/-- A form cannot be read. -/
def Malformed (limit : Int) (form : String) : Prop :=
  ∃ failure, parse limit form = .error failure

/-- One form of a pair cannot be read. -/
def Unreadable (limit : Int) (pair : String × String) : Prop :=
  Malformed limit pair.1 ∨ Malformed limit pair.2

/-- Both forms of a pair can be read, and their structures differ. -/
def Differs (limit : Int) (pair : String × String) : Prop :=
  ∃ base target, parse limit pair.1 = .ok base ∧ parse limit pair.2 = .ok target ∧
    ¬ Structure.Alike base target

/-- The forms that validation may come to: two of a plural base message and all of its translation. -/
def comparedForms (base translated : String) : List String :=
  if Plural.isPlural base then (Plural.forms base).take 2 ++ Plural.forms translated
  else [base, translated]

section

variable {limit : Int} {base translated locale : String} {data : LocaleData}

theorem Matches.not_unreadable {pair : String × String} (h : Matches limit pair) :
    ¬ Unreadable limit pair := by
  obtain ⟨nodes, others, hbase, htranslated, _⟩ := h
  rintro (⟨failure, hfails⟩ | ⟨failure, hfails⟩)
  · simp [hbase] at hfails
  · simp [htranslated] at hfails

theorem Matches.not_differs {pair : String × String} (h : Matches limit pair) :
    ¬ Differs limit pair := by
  obtain ⟨nodes, others, hbase, htranslated, halike⟩ := h
  rintro ⟨nodes', others', hbase', htranslated', hdiffer⟩
  rw [hbase] at hbase'
  rw [htranslated] at htranslated'
  cases hbase'
  cases htranslated'
  exact hdiffer halike

theorem Differs.not_unreadable {pair : String × String} (h : Differs limit pair) :
    ¬ Unreadable limit pair := by
  obtain ⟨nodes, others, hbase, htranslated, _⟩ := h
  rintro (⟨failure, hfails⟩ | ⟨failure, hfails⟩)
  · simp [hbase] at hfails
  · simp [htranslated] at hfails

/-- A pair that does not match comes to a failure, which is that of reading a form, or else to a no. -/
theorem Refuses.cases {pair : String × String} {outcome : Except Failure Bool}
    (h : Refuses limit pair outcome) :
    Unreadable limit pair ∧ (∃ failure, outcome = .error failure) ∨
      Differs limit pair ∧ outcome = .ok false := by
  obtain hbase | ⟨_, htranslated⟩ | ⟨hbase, htranslated, hdiffer⟩ := h
  · exact .inl ⟨.inl ⟨_, hbase⟩, _, rfl⟩
  · exact .inl ⟨.inr ⟨_, htranslated⟩, _, rfl⟩
  · exact .inr ⟨⟨_, _, hbase, htranslated, hdiffer⟩, rfl⟩

/-- Of two ways to single out a member of a list, one singles out a member in front of the other, or
    both single out the same. -/
theorem mem_or_mem_or_eq {α : Type} {front front' back back' : List α} {x x' : α}
    (h : front ++ x :: back = front' ++ x' :: back') : x' ∈ front ∨ x ∈ front' ∨ x = x' := by
  obtain ⟨between, rfl, htail⟩ | ⟨between, rfl, htail⟩ := List.append_eq_append_iff.1 h
  · cases between with
    | nil => exact .inr (.inr (List.cons.inj htail).1)
    | cons y between =>
      obtain ⟨rfl, _⟩ := List.cons.inj htail
      exact .inr (.inl (by simp))
  · cases between with
    | nil => exact .inr (.inr (List.cons.inj htail).1.symm)
    | cons y between =>
      obtain ⟨rfl, _⟩ := List.cons.inj htail
      exact .inl (by simp)

/-- Pairs come to a failure just if one of them cannot be read and none in front of it differs. -/
theorem Verdict.exists_eq_error_iff {pairs : List (String × String)} {outcome : Except Failure Bool}
    (h : Verdict limit pairs outcome) :
    (∃ failure, outcome = .error failure) ↔
      ∃ front pair back, pairs = front ++ pair :: back ∧ Unreadable limit pair ∧
        ∀ earlier ∈ front, ¬ Differs limit earlier := by
  cases h with
  | valid hall =>
    constructor
    · rintro ⟨_, ⟨⟩⟩
    · rintro ⟨front, pair, back, rfl, hunreadable, _⟩
      exact absurd hunreadable (hall pair (by simp)).not_unreadable
  | @refused front back pair _ hsplit hfront hrefuses =>
    obtain ⟨hunreadable, hfails⟩ | ⟨hdiffers, rfl⟩ := hrefuses.cases
    · refine iff_of_true hfails ⟨front, pair, back, hsplit, hunreadable, ?_⟩
      exact fun earlier hearlier => (hfront earlier hearlier).not_differs
    · constructor
      · rintro ⟨_, ⟨⟩⟩
      · -- The pair that differs is behind no pair that cannot be read, and in front of none.
        rintro ⟨front', pair', back', hsplit', hunreadable, hfront'⟩
        obtain hmem | hmem | rfl := mem_or_mem_or_eq (hsplit.symm.trans hsplit')
        · exact absurd hunreadable (hfront pair' hmem).not_unreadable
        · exact absurd hdiffers (hfront' pair hmem)
        · exact absurd hunreadable hdiffers.not_unreadable

/-- Pairs of which one cannot be read are not all found to match. -/
theorem Verdict.not_unreadable {pairs : List (String × String)} (h : Verdict limit pairs (.ok true)) :
    ∀ pair ∈ pairs, ¬ Unreadable limit pair := by
  cases h with
  | valid hall => exact fun pair hpair => (hall pair hpair).not_unreadable
  | refused _ _ hrefuses =>
    obtain ⟨_, _, ⟨⟩⟩ | ⟨_, ⟨⟩⟩ := hrefuses.cases

theorem matches_of_isFormValid (h : isFormValid limit base translated = .ok true) :
    Matches limit (base, translated) := by
  obtain ⟨hmatches, _⟩ | hrefuses := isFormValid_cases limit base translated
  · exact hmatches
  · obtain ⟨_, _, hfails⟩ | ⟨_, hfalse⟩ := hrefuses.cases
    · simp [h] at hfails
    · simp [h] at hfalse

/-- The forms in the pairs are those that validation may come to. -/
theorem exists_pair_iff (hcount : Plural.isPlural base = true →
      (Plural.forms translated).length = Plural.expectedFormCount locale data) {form : String} :
    (∃ pair ∈ pairs base translated, form = pair.1 ∨ form = pair.2) ↔
      form ∈ comparedForms base translated := by
  cases hplural : Plural.isPlural base with
  | false => simp [pairs, comparedForms, hplural]
  | true =>
    obtain ⟨zero, one, more, hbase⟩ := Plural.exists_two_forms hplural
    -- There is a second form to hold against the second base form.
    have hlength := Plural.one_lt_expectedFormCount locale data
    rw [← hcount hplural] at hlength
    obtain ⟨first, rest, hforms⟩ := List.exists_cons_of_ne_nil (Plural.forms_ne_nil translated)
    obtain ⟨second, hsecond⟩ : ∃ second, second ∈ rest := by
      rw [hforms, List.length_cons, Nat.lt_add_left_iff_pos] at hlength
      exact List.exists_mem_of_length_pos hlength
    rw [pairs_of_forms hplural hbase hforms, comparedForms, if_pos hplural, hbase, hforms]
    constructor
    · rintro ⟨pair, hpair, hside⟩
      obtain rfl | hpair := List.mem_cons.1 hpair
      · obtain rfl | rfl := hside <;> simp
      · obtain ⟨other, hother, rfl⟩ := List.mem_map.1 hpair
        obtain rfl | rfl := hside
        · simp
        · simp [hother]
    · intro hform
      obtain rfl | rfl | rfl | hrest : form = zero ∨ form = one ∨ form = first ∨ form ∈ rest := by
        simpa using hform
      · exact ⟨(form, first), List.mem_cons_self, .inl rfl⟩
      · exact ⟨(form, second), by simp [hsecond], .inl rfl⟩
      · exact ⟨(zero, form), List.mem_cons_self, .inr rfl⟩
      · exact ⟨(one, form), by simp [hrest], .inr rfl⟩

/-- Of the forms of a plural base message only the first two matter. -/
theorem isValid_congr_base {other : String} (hplural : Plural.isPlural base = true)
    (hother : Plural.isPlural other = true)
    (hforms : (Plural.forms other).take 2 = (Plural.forms base).take 2) :
    isValid limit other translated locale data = isValid limit base translated locale data := by
  obtain ⟨zero, one, more, hbase⟩ := Plural.exists_two_forms hplural
  obtain ⟨zero', one', more', hbase'⟩ := Plural.exists_two_forms hother
  obtain ⟨rfl, rfl⟩ : zero' = zero ∧ one' = one := by simpa [hbase, hbase'] using hforms
  obtain ⟨first, rest, htranslated⟩ := List.exists_cons_of_ne_nil (Plural.forms_ne_nil translated)
  simp only [isValid, hplural, hother, if_true, hbase, hbase', htranslated, arePluralFormsValid,
    List.headD_cons]

/-- Where a translation has the right number of forms, whatever locale data knows, validation fails
    just if one of the pairs cannot be read and none in front of it differs, and it fails as reading
    one of the forms does. A form that cannot be read, wherever it stands in a pair, keeps it from a
    yes. The pairs hold every form of the translation, but no more than two forms of a plural base
    message; what the others are makes no difference. -/
theorem malformed_reported (limit : Int) {base translated locale : String} {data : LocaleData}
    (hcount : Plural.isPlural base = true →
      (Plural.forms translated).length = Plural.expectedFormCount locale data) :
    ((∃ failure, isValid limit base translated locale data = .error failure) ↔
        ∃ front pair back, pairs base translated = front ++ pair :: back ∧ Unreadable limit pair ∧
          ∀ earlier ∈ front, ¬ Differs limit earlier) ∧
      (∀ failure, isValid limit base translated locale data = .error failure →
        ∃ form ∈ comparedForms base translated, parse limit form = .error failure) ∧
      (∀ form ∈ comparedForms base translated, Malformed limit form →
        isValid limit base translated locale data ≠ .ok true) ∧
      (∀ form, (∃ pair ∈ pairs base translated, form = pair.1 ∨ form = pair.2) ↔
        form ∈ comparedForms base translated) ∧
      ∀ other, Plural.isPlural base = true → Plural.isPlural other = true →
        (Plural.forms other).take 2 = (Plural.forms base).take 2 →
        isValid limit other translated locale data = isValid limit base translated locale data := by
  have hverdict : Verdict limit (pairs base translated) (isValid limit base translated locale data) :=
    verdict_isValid hcount
  refine ⟨hverdict.exists_eq_error_iff, fun failure hfails => ?_,
    fun form hform hmalformed hvalid => ?_, fun _ => exists_pair_iff hcount,
    fun _ => isValid_congr_base⟩
  · rw [hfails] at hverdict
    obtain ⟨pair, hpair, form, hform, hparse⟩ := hverdict.exists_parse_eq_error
    exact ⟨form, (exists_pair_iff hcount).1 ⟨pair, hpair, List.mem_pair.1 hform⟩, hparse⟩
  · obtain ⟨pair, hpair, hside⟩ := (exists_pair_iff hcount).2 hform
    rw [hvalid] at hverdict
    apply hverdict.not_unreadable pair hpair
    obtain rfl | rfl := hside
    · exact .inl hmalformed
    · exact .inr hmalformed

/-- The last form of a translation cannot be read, and nothing in front of it differs. -/
theorem malformed_reported_russian :
    (Plural.forms "0|%n%|%n% a|<b>").length = Plural.expectedFormCount "ru" Plural.Standard.data ∧
      ∃ failure, isValid 5 "0|%n%" "0|%n%|%n% a|<b>" "ru" Plural.Standard.data = .error failure := by
  have hcount : (Plural.forms "0|%n%|%n% a|<b>").length =
      Plural.expectedFormCount "ru" Plural.Standard.data := by
    decide +kernel
  obtain ⟨hfails, _⟩ := @malformed_reported 5 "0|%n%" _ _ _ fun _ => hcount
  have hsplit : pairs "0|%n%" "0|%n%|%n% a|<b>" =
      [("0", "0"), ("%n%", "%n%"), ("%n%", "%n% a")] ++ ("%n%", "<b>") :: [] := by
    decide +kernel
  have hmatches : ∀ pair ∈ [("0", "0"), ("%n%", "%n%"), ("%n%", "%n% a")],
      isFormValid 5 pair.1 pair.2 = .ok true := by
    decide +kernel
  have hmalformed : parse 5 "<b>" = .error (.unbalancedTags "<b>" none) := by decide +kernel
  refine ⟨hcount, hfails.2 ⟨_, _, _, hsplit, .inr ⟨_, hmalformed⟩, fun pair hpair => ?_⟩⟩
  exact (matches_of_isFormValid (hmatches pair hpair)).not_differs

/-- A third base form that cannot be read does not keep validation from a yes, and a pair that
    differs hides a form that cannot be read behind it. -/
theorem malformed_form_unreported :
    isValid Nesting.defaultLimit "a|b|<c>" "a|b|c" "en" Plural.Standard.data = .ok true ∧
      "<c>" ∈ Plural.forms "a|b|<c>" ∧
      isValid Nesting.defaultLimit "a|%n%|%n%" "a|n|<c>" "en" Plural.Standard.data = .ok false ∧
      "<c>" ∈ Plural.forms "a|n|<c>" ∧
      (Plural.forms "a|b|c").length = Plural.expectedFormCount "en" Plural.Standard.data ∧
      (Plural.forms "a|n|<c>").length = Plural.expectedFormCount "en" Plural.Standard.data ∧
      Malformed Nesting.defaultLimit "<c>" := by
  have hmalformed : parse Nesting.defaultLimit "<c>" = .error (.unbalancedTags "<c>" none) := by
    decide +kernel
  exact ⟨by decide +kernel, by decide +kernel, by decide +kernel, by decide +kernel,
    by decide +kernel, by decide +kernel, _, hmalformed⟩

end

end MessageMarkup.Translation
