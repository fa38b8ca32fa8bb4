import Mathlib.Data.List.Forall2
import MessageMarkup.Plural.Rule

/-!
# Looking up a locale code

The rule of a locale is that of the longest part of its code that has a built-in family. Letter
case, the kind of separators and blanks around a code make no difference to it, and neither does a
further subtag, unless the longer code has a family itself.

## Main definitions

- `Locale.IsSubtagPrefix` — a part of a code that leaves subtags off its end
- `Locale.SpelledAlike` — codes that differ in outer blanks, letter case and separators at most
- `Plural.Family.Listed` — a code that has a built-in family
- `Plural.Rule.IsMostSpecific` — the longest part of a code that has a built-in family

## Main statements

- `Locale.mem_lookupKeys`, `Locale.pairwise_lookupKeys` — which parts of a code are looked up, and
  in which order
- `Locale.canonical_eq_of_spelledAlike`, `Locale.lookupKeys_append` — what is looked up for codes that
  are spelled alike, and for a longer code
- `Plural.Rule.resolve_most_specific` — the rule of a code with a part that has a family
-/

namespace MessageMarkup

namespace Locale

/-- A part of a code that leaves subtags off its end: the whole code, or what stands in front of one
    of its separators. -/
def IsSubtagPrefix (part code : List Char) : Prop :=
  part = code ∨ part ++ ['_'] <+: code

def IsAscii (s : String) : Prop :=
  ∀ c ∈ s.toList, c.toNat < 0x80

instance (s : String) : Decidable (IsAscii s) :=
  decidable_of_iff (s.toList.all fun c => c.toNat < 0x80) (by simp [IsAscii])

/-- Characters that differ in letter case at most, or are both separators. -/
def CharsAlike (c d : Char) : Prop :=
  c.toLower = d.toLower ∨ c ∈ ['-', '_'] ∧ d ∈ ['-', '_']

instance : DecidableRel CharsAlike :=
  fun _ _ => inferInstanceAs (Decidable (_ ∨ _ ∧ _))

/-- Codes that differ in outer blanks, letter case and the kind of separators at most. -/
def SpelledAlike (code other : String) : Prop :=
  List.Forall₂ CharsAlike (Text.trimBlanks code.toList) (Text.trimBlanks other.toList)

theorem mem_subtagPrefixes {part code : List Char} :
    part ∈ subtagPrefixes code ↔ IsSubtagPrefix part code := by
  induction code generalizing part with
  | nil => simp [subtagPrefixes, IsSubtagPrefix]
  | cons c cs ih =>
    have hlonger : part ∈ (subtagPrefixes cs).map (c :: ·) ↔
        ∃ shorter, IsSubtagPrefix shorter cs ∧ c :: shorter = part := by
      simp only [List.mem_map, ih]
    cases part with
    | nil => by_cases hc : c = '_' <;> simp [subtagPrefixes, IsSubtagPrefix, hc, eq_comm]
    | cons d part =>
      have hmem : d :: part ∈ subtagPrefixes (c :: cs) ↔
          d :: part ∈ (subtagPrefixes cs).map (c :: ·) := by
        by_cases hc : c = '_' <;> simp [subtagPrefixes, hc]
      rw [hmem, hlonger]
      simp only [IsSubtagPrefix, List.cons.injEq, List.cons_append, List.cons_prefix_cons]
      constructor
      · rintro ⟨_, hpart, rfl, rfl⟩
        exact hpart.imp (⟨rfl, ·⟩) (⟨rfl, ·⟩)
      · rintro (⟨rfl, hpart⟩ | ⟨rfl, hpart⟩)
        · exact ⟨part, .inl hpart, rfl, rfl⟩
        · exact ⟨part, .inr hpart, rfl, rfl⟩

/-- The parts of a code are listed from short to long. -/
theorem pairwise_subtagPrefixes (code : List Char) :
    (subtagPrefixes code).Pairwise fun a b => a.length < b.length := by
  induction code with
  | nil => exact List.pairwise_singleton _ _
  | cons c cs ih =>
    have hlonger : ((subtagPrefixes cs).map (c :: ·)).Pairwise fun a b => a.length < b.length := by
      rw [List.pairwise_map]
      exact ih.imp fun h => by simpa using h
    by_cases hc : c = separator
    · rw [subtagPrefixes, if_pos hc, List.pairwise_cons]
      refine ⟨fun part hpart => ?_, hlonger⟩
      obtain ⟨shorter, _, rfl⟩ := List.mem_map.1 hpart
      exact Nat.succ_pos _
    · rwa [subtagPrefixes, if_neg hc]

/-- One more subtag makes one more part, the whole code. -/
theorem subtagPrefixes_append (code : List Char) {subtag : List Char} (h : separator ∉ subtag) :
    subtagPrefixes (code ++ separator :: subtag) =
      subtagPrefixes code ++ [code ++ separator :: subtag] := by
  have hsubtag : subtagPrefixes subtag = [subtag] := by
    induction subtag with
    | nil => rfl
    | cons c cs ih =>
      rw [List.mem_cons, not_or] at h
      rw [subtagPrefixes, if_neg (Ne.symm h.1), ih h.2]
      rfl
  induction code with
  | nil => simp [subtagPrefixes, hsubtag]
  | cons c cs ih => by_cases hc : c = separator <;> simp [subtagPrefixes, hc, ih]

theorem mem_lookupKeys {key code : String} :
    key ∈ lookupKeys code ↔ IsSubtagPrefix key.toList (canonical code).toList := by
  rw [lookupKeys, List.mem_map]
  simp only [List.mem_reverse, mem_subtagPrefixes]
  constructor
  · rintro ⟨part, hpart, rfl⟩
    rwa [String.toList_ofList]
  · intro hkey
    exact ⟨key.toList, hkey, String.ofList_toList⟩

/-- The keys of a code are looked up from long to short. -/
theorem pairwise_lookupKeys (code : String) :
    (lookupKeys code).Pairwise fun a b => b.length < a.length := by
  rw [lookupKeys, List.pairwise_map, List.pairwise_reverse]
  refine (pairwise_subtagPrefixes _).imp fun h => ?_
  simpa using h

/-- Only a capital becomes another character in lower case, and then a letter. -/
theorem eq_of_toLower_eq {c d : Char} (h : c.toLower = d) (hd : d.isLower = false) : c = d := by
  unfold Char.toLower at h
  split at h
  · next hupper =>
    have hlower : d.isLower = true := by
      show (decide ('a'.val ≤ d.val) && decide (d.val ≤ 'z'.val)) = true
      simp [← h, UInt32.le_iff_toNat_le] at hupper ⊢
      omega
    rw [hlower] at hd
    cases hd
  · exact h

theorem toLower_normalizeChar (c : Char) : (normalizeChar c).toLower = normalizeChar c.toLower := by
  by_cases hc : c = '-'
  · rw [hc]
    rfl
  · have hlower : c.toLower ≠ '-' := fun h => hc (eq_of_toLower_eq h rfl)
    rw [normalizeChar, if_neg hc, normalizeChar, if_neg hlower]

theorem toLower_normalizeChar_eq_of_charsAlike {c d : Char} (h : CharsAlike c d) :
    (normalizeChar c).toLower = (normalizeChar d).toLower := by
  rcases h with h | ⟨hc, hd⟩
  · rw [toLower_normalizeChar, toLower_normalizeChar, h]
  · have hsep (e : Char) (he : e ∈ ['-', '_']) : normalizeChar e = separator := by
      rcases List.mem_pair.1 he with rfl | rfl <;> rfl
    rw [hsep c hc, hsep d hd]

/-- The canonical form of an ASCII code, character by character. -/
theorem toList_canonical {code : String} (h : IsAscii code) :
    (canonical code).toList =
      (Text.trimBlanks code.toList).map fun c => (normalizeChar c).toLower := by
  have hascii : ∀ c ∈ (Text.trimBlanks code.toList).map normalizeChar, c.toNat < 0x80 := by
    intro c hc
    obtain ⟨d, hd, rfl⟩ := List.mem_map.1 hc
    by_cases hhyphen : d = '-'
    · rw [hhyphen]
      decide
    · rw [normalizeChar, if_neg hhyphen]
      exact h d (Text.trimBlanks_subset _ hd)
  rw [canonical, normalize, Text.toList_lower, String.toList_ofList,
    Text.lowerFrom_of_ascii hascii, List.map_map]
  rfl

/-- Codes that are spelled alike have one canonical form. -/
theorem canonical_eq_of_spelledAlike {code other : String} (hcode : IsAscii code)
    (hother : IsAscii other) (h : SpelledAlike code other) : canonical code = canonical other := by
  rw [← String.toList_inj, toList_canonical hcode, toList_canonical hother]
  rw [SpelledAlike] at h
  generalize Text.trimBlanks code.toList = cs, Text.trimBlanks other.toList = ds at h ⊢
  induction h with
  | nil => rfl
  | cons hhead _ ih =>
    rw [List.map_cons, List.map_cons, ih, toLower_normalizeChar_eq_of_charsAlike hhead]

/-- A code without outer blanks has none behind it either where a subtag without blanks follows. -/
theorem trimBlanks_append_subtag {code subtag : List Char} (hcode : Text.TrimmedChars code)
    (hsubtag : ∀ c ∈ subtag, Text.isBlank c = false) :
    Text.trimBlanks (code ++ '_' :: subtag) = code ++ '_' :: subtag := by
  apply Text.trimBlanks_eq_self
  constructor
  · intro c hc
    cases code with
    | nil =>
      obtain rfl : '_' = c := by simpa using hc
      rfl
    | cons d code => exact hcode.1 c hc
  · intro c hc
    rw [List.getLast?_append, List.getLast?_cons] at hc
    cases hlast : subtag.getLast? with
    | none =>
      obtain rfl : '_' = c := by simpa [hlast] using hc
      rfl
    | some d =>
      obtain rfl : d = c := by simpa [hlast] using hc
      exact hsubtag d (List.mem_of_getLast? hlast)

/-- A further subtag makes one more key, the canonical form of the longer code, and leaves the others
    as they are. -/
theorem lookupKeys_append {code subtag : String} (hcode : IsAscii code) (hsubtag : IsAscii subtag)
    (htrim : Text.Trimmed code)
    (hplain : ∀ c ∈ subtag.toList, c ∉ ['-', '_'] ∧ Text.isBlank c = false) :
    lookupKeys (code ++ "_" ++ subtag) = canonical (code ++ "_" ++ subtag) :: lookupKeys code := by
  have htoList : (code ++ "_" ++ subtag).toList = code.toList ++ '_' :: subtag.toList := by simp
  have hascii : IsAscii (code ++ "_" ++ subtag) := by
    intro c hc
    rw [htoList, List.mem_append, List.mem_cons] at hc
    obtain hc | rfl | hc := hc
    · exact hcode c hc
    · decide
    · exact hsubtag c hc
  have hlower : separator ∉ subtag.toList.map fun c => (normalizeChar c).toLower := by
    rw [List.mem_map]
    rintro ⟨c, hc, hsep⟩
    obtain ⟨hhyphen, hunderscore⟩ : c ≠ '-' ∧ c ≠ '_' := by simpa using (hplain c hc).1
    rw [normalizeChar, if_neg hhyphen] at hsep
    exact hunderscore (eq_of_toLower_eq hsep rfl)
  have hcanonical : (canonical (code ++ "_" ++ subtag)).toList =
      (canonical code).toList ++
        separator :: subtag.toList.map fun c => (normalizeChar c).toLower := by
    rw [toList_canonical hascii, toList_canonical hcode, htoList,
      trimBlanks_append_subtag htrim fun c hc => (hplain c hc).2, Text.trimBlanks_eq_self htrim,
      List.map_append]
    rfl
  rw [lookupKeys, hcanonical, subtagPrefixes_append _ hlower, List.reverse_append,
    List.reverse_singleton, ← hcanonical, List.singleton_append, List.map_cons, String.ofList_toList]
  rfl

end Locale

namespace Plural

namespace Family

/-- The code has a built-in family. -/
def Listed (code : String) : Prop :=
  ∃ f, code ∈ codes f

theorem mem_all (f : Family) : f ∈ all := by
  cases f <;> decide

/-- No code is listed by two families. -/
theorem ofCode?_of_mem_codes : ∀ f ∈ all, ∀ code ∈ codes f, ofCode? code = some f := by
  decide +kernel

theorem ofCode?_eq_some_iff {code : String} {f : Family} : ofCode? code = some f ↔ code ∈ codes f := by
  constructor
  · intro h
    simpa using List.find?_some h
  · exact ofCode?_of_mem_codes f f.mem_all code

theorem ofCode?_eq_none_iff {code : String} : ofCode? code = none ↔ ¬ Listed code := by
  simp only [Listed, ← ofCode?_eq_some_iff, Option.eq_none_iff_forall_ne_some, not_exists, ne_eq]

end Family

namespace Rule

open Family MessageMarkup.Locale

/-- The key is the longest part of a code that has a built-in family. -/
structure IsMostSpecific (code key : String) : Prop where
  listed : Listed key
  part : IsSubtagPrefix key.toList (canonical code).toList
  longest : ∀ other, Listed other → IsSubtagPrefix other.toList (canonical code).toList →
    other.length ≤ key.length

theorem exists_family?_iff {code : String} :
    (∃ f, family? code = some f) ↔
      ∃ key, Listed key ∧ IsSubtagPrefix key.toList (canonical code).toList := by
  simp only [family?, ← Option.isSome_iff_exists, List.findSome?_isSome_iff, mem_lookupKeys]
  simp only [Option.isSome_iff_exists, ofCode?_eq_some_iff, Listed]
  exact ⟨fun ⟨key, hkey, hf⟩ => ⟨key, hf, hkey⟩, fun ⟨key, hf, hkey⟩ => ⟨key, hkey, hf⟩⟩

/-- The family that is found is that of the longest part of the code that has one. -/
theorem exists_mostSpecific_of_family? {code : String} {f : Family} (h : family? code = some f) :
    ∃ key, IsMostSpecific code key ∧ key ∈ f.codes := by
  obtain ⟨front, key, back, hkeys, hf, hfront⟩ := List.findSome?_eq_some_iff.1 h
  have hkey : key ∈ lookupKeys code := by simp [hkeys]
  have hmem := ofCode?_eq_some_iff.1 hf
  refine ⟨key, ⟨⟨f, hmem⟩, mem_lookupKeys.1 hkey, fun other hother hpart => ?_⟩, hmem⟩
  -- The keys in front are longer, but none of them has a family.
  have hpairwise := pairwise_lookupKeys code
  rw [hkeys, List.pairwise_append, List.pairwise_cons] at hpairwise
  have hpart' := mem_lookupKeys.2 hpart
  rw [hkeys, List.mem_append, List.mem_cons] at hpart'
  obtain hin | rfl | hin := hpart'
  · exact absurd hother (ofCode?_eq_none_iff.1 (hfront other hin))
  · exact Nat.le_refl _
  · exact Nat.le_of_lt (hpairwise.2.1.1 other hin)

theorem resolve_of_family? {code : String} {f : Family} (h : family? code = some f)
    (data : LocaleData) : resolve data code = ofFamily f .builtIn := by
  unfold resolve
  rw [h]

theorem source_resolve_eq_builtIn {data : LocaleData} {code : String} :
    (resolve data code).source = .builtIn ↔ ∃ f, family? code = some f := by
  constructor
  · intro h
    unfold resolve at h
    split at h
    · next f hf => exact ⟨f, hf⟩
    · split at h <;> cases h
  · rintro ⟨f, hf⟩
    rw [resolve_of_family? hf]
    rfl

/-- Codes that are looked up under the same keys have the same rule where one of them has a family. -/
theorem resolve_eq_of_family?_eq {data : LocaleData} {code other : String}
    (h : family? code = family? other) (hsource : (resolve data code).source = .builtIn) :
    resolve data other = resolve data code := by
  obtain ⟨f, hf⟩ := source_resolve_eq_builtIn.1 hsource
  rw [resolve_of_family? hf, resolve_of_family? (h ▸ hf)]

theorem family?_eq_of_spelledAlike {code other : String} (hcode : IsAscii code)
    (hother : IsAscii other) (h : SpelledAlike code other) : family? code = family? other := by
  rw [family?, family?, lookupKeys, lookupKeys, canonical_eq_of_spelledAlike hcode hother h]

/-- A code of which some part has a built-in family has the rule of the longest such part, whatever
    locale data knows. So codes that are spelled alike have the same rule if one of them has a family,
    and with a further subtag a code keeps the rule of its family, unless the longer code has one. -/
theorem resolve_most_specific {code : String} (hcode : IsAscii code) :
    ((∃ key, Listed key ∧ IsSubtagPrefix key.toList (canonical code).toList) →
        ∃ key f, IsMostSpecific code key ∧ key ∈ codes f ∧
          ∀ data, resolve data code = ofFamily f .builtIn) ∧
      (∀ data other, IsAscii other → SpelledAlike code other →
        (resolve data code).source = .builtIn ∨ (resolve data other).source = .builtIn →
          resolve data code = resolve data other) ∧
      ∀ data subtag, IsAscii subtag → Text.Trimmed code →
        (∀ c ∈ subtag.toList, c ∉ ['-', '_'] ∧ Text.isBlank c = false) →
        (resolve data code).source = .builtIn → ¬ Listed (canonical (code ++ "_" ++ subtag)) →
          resolve data (code ++ "_" ++ subtag) = resolve data code := by
  refine ⟨fun hpart => ?_, fun data other hother halike hsource => ?_,
    fun data subtag hsubtag htrim hplain hsource hlonger => ?_⟩
  · obtain ⟨f, hf⟩ := exists_family?_iff.2 hpart
    obtain ⟨key, hkey, hmem⟩ := exists_mostSpecific_of_family? hf
    exact ⟨key, f, hkey, hmem, resolve_of_family? hf⟩
  · have hfamily := family?_eq_of_spelledAlike hcode hother halike
    obtain hsource | hsource := hsource
    · exact (resolve_eq_of_family?_eq hfamily hsource).symm
    · exact resolve_eq_of_family?_eq hfamily.symm hsource
  · apply resolve_eq_of_family?_eq _ hsource
    rw [family?, family?, lookupKeys_append hcode hsubtag htrim hplain, List.findSome?_cons,
      ofCode?_eq_none_iff.2 hlonger]

/-- Serbian in Latin letters has a family under a longer code than Serbian has. -/
theorem resolve_most_specific_serbian :
    (∃ key f, IsMostSpecific "sr-Latn" key ∧ "sr_latn".length ≤ key.length ∧ key ∈ codes f ∧
        forLocale "sr-Latn" = ofFamily f .builtIn) ∧
      SpelledAlike "sr-Latn" "\tSR_latn " ∧ forLocale "sr-Latn" = forLocale "\tSR_latn " ∧
      forLocale "sr-Latn_RS" = forLocale "sr-Latn" := by
  have hascii : IsAscii "sr-Latn" := by decide +kernel
  have hpart : IsSubtagPrefix "sr_latn".toList (canonical "sr-Latn").toList := .inl (by decide +kernel)
  have hlisted : Listed "sr_latn" := ⟨.eastSlavic, by decide⟩
  have halike : SpelledAlike "sr-Latn" "\tSR_latn " := by
    rw [SpelledAlike]
    decide +kernel
  obtain ⟨hkey, hspelling, hlonger⟩ := resolve_most_specific hascii
  obtain ⟨key, f, hbest, hmem, hrule⟩ := hkey ⟨"sr_latn", hlisted, hpart⟩
  have hsource : (forLocale "sr-Latn").source = .builtIn := by
    rw [forLocale, hrule]
    rfl
  have hsubtag : ∀ c ∈ "RS".toList, c ∉ ['-', '_'] ∧ Text.isBlank c = false := by
    intro c hc
    obtain rfl | rfl := List.mem_pair.1 (show c ∈ ['R', 'S'] from hc)
    · decide
    · decide
  refine ⟨⟨key, f, hbest, hbest.longest _ hlisted hpart, hmem, hrule _⟩, halike, ?_, ?_⟩
  · exact hspelling _ _ (by decide +kernel) halike (.inl hsource)
  · refine hlonger _ "RS" (by decide +kernel) ?_ hsubtag hsource ?_
    · rw [← Text.trim_eq_self_iff]
      decide +kernel
    · rw [← ofCode?_eq_none_iff]
      decide +kernel

end Rule

end Plural

end MessageMarkup
