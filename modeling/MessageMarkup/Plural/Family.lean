/-!
# Families of plural rules

Languages whose plurals follow the same pattern form a family. The rule of a family sorts
quantities into categories, counted from zero.

## Main definitions

- `Plural.Family` — the families
- `Plural.Family.categories` — how many categories a family has
- `Plural.Family.select` — the category of a quantity

## Main statements

- `Plural.Family.select_lt` — every quantity falls into one of the categories
- `Plural.Family.select_hundred` — a hundred falls into the last category of every family
-/

namespace MessageMarkup.Plural

/-- The families of languages with one plural rule. -/
inductive Family where
  /-- No plural: one category for all. -/
  | uniform
  /-- One, and all others. -/
  | oneOther
  /-- Zero and one together, and all others. -/
  | belowTwoOther
  | eastSlavic
  | czech
  | irish
  | lithuanian
  | slovenian
  | macedonian
  | maltese
  | latvian
  | polish
  | welsh
  | romanian
  | arabic
  deriving DecidableEq, Repr

namespace Family

def categories : Family → Nat
  | uniform => 1
  | oneOther | belowTwoOther | macedonian => 2
  | eastSlavic | czech | irish | lithuanian | latvian | polish | romanian => 3
  | slovenian | maltese | welsh => 4
  | arabic => 6

/-- The category of a quantity. -/
def select : Family → Nat → Nat
  | uniform, _ => 0
  | oneOther, n => if n = 1 then 0 else 1
  | belowTwoOther, n => if n < 2 then 0 else 1
  | eastSlavic, n =>
    if n % 10 = 1 ∧ n % 100 ≠ 11 then 0
    else if 2 ≤ n % 10 ∧ n % 10 ≤ 4 ∧ (n % 100 < 10 ∨ 20 ≤ n % 100) then 1
    else 2
  | czech, n => if n = 1 then 0 else if 2 ≤ n ∧ n ≤ 4 then 1 else 2
  | irish, n => if n = 1 then 0 else if n = 2 then 1 else 2
  | lithuanian, n =>
    if n % 10 = 1 ∧ n % 100 ≠ 11 then 0
    else if 2 ≤ n % 10 ∧ (n % 100 < 10 ∨ 20 ≤ n % 100) then 1
    else 2
  | slovenian, n =>
    if n % 100 = 1 then 0
    else if n % 100 = 2 then 1
    else if n % 100 = 3 ∨ n % 100 = 4 then 2
    else 3
  | macedonian, n => if n % 10 = 1 then 0 else 1
  | maltese, n =>
    if n = 1 then 0
    else if n = 0 ∨ (1 < n % 100 ∧ n % 100 < 11) then 1
    else if 10 < n % 100 ∧ n % 100 < 20 then 2
    else 3
  | latvian, n => if n = 0 then 0 else if n % 10 = 1 ∧ n % 100 ≠ 11 then 1 else 2
  | polish, n =>
    if n = 1 then 0
    else if 2 ≤ n % 10 ∧ n % 10 ≤ 4 ∧ (n % 100 < 12 ∨ 14 < n % 100) then 1
    else 2
  | welsh, n => if n = 1 then 0 else if n = 2 then 1 else if n = 8 ∨ n = 11 then 2 else 3
  | romanian, n =>
    if n = 1 then 0 else if n = 0 ∨ (0 < n % 100 ∧ n % 100 < 20) then 1 else 2
  | arabic, n =>
    if n ≤ 2 then n
    else if 3 ≤ n % 100 ∧ n % 100 ≤ 10 then 3
    else if 11 ≤ n % 100 ∧ n % 100 ≤ 99 then 4
    else 5

/-- Every quantity falls into one of the categories. -/
theorem select_lt (f : Family) (n : Nat) : f.select n < f.categories := by
  cases f <;> simp only [select, categories] <;> grind

/-- A hundred falls into the last category of every family. -/
theorem select_hundred (f : Family) : f.select 100 + 1 = f.categories := by
  cases f <;> rfl

/-- The family of each language and region that has one, by lower-case code. -/
def codes : Family → List String
  | uniform =>
    ["az", "bo", "dz", "id", "ja", "jv", "ka", "km", "kn", "ko", "ms", "th", "tr", "vi", "zh",
      "zh_cn", "zh_tw", "zh_hk"]
  | oneOther =>
    ["af", "bn", "bg", "ca", "da", "de", "el", "en", "eo", "es", "et", "eu", "fa", "fi", "fo",
      "fur", "fy", "gl", "gu", "ha", "he", "hu", "is", "it", "ku", "lb", "ml", "mn", "mr", "nah",
      "nb", "ne", "nl", "nn", "no", "oc", "om", "or", "pa", "pap", "ps", "pt", "pt_pt", "so", "sq",
      "sv", "sw", "ta", "te", "tk", "ur", "zu"]
  | belowTwoOther =>
    ["am", "bh", "fil", "fr", "gun", "hi", "hy", "ln", "mg", "nso", "pt_br", "ti", "wa"]
  | eastSlavic => ["be", "bs", "hr", "ru", "sh", "sr", "sr_latn", "uk"]
  | czech => ["cs", "sk"]
  | irish => ["ga"]
  | lithuanian => ["lt"]
  | slovenian => ["sl"]
  | macedonian => ["mk"]
  | maltese => ["mt"]
  | latvian => ["lv"]
  | polish => ["pl"]
  | welsh => ["cy"]
  | romanian => ["ro"]
  | arabic => ["ar"]

def all : List Family :=
  [uniform, oneOther, belowTwoOther, eastSlavic, czech, irish, lithuanian, slovenian, macedonian,
    maltese, latvian, polish, welsh, romanian, arabic]

def ofCode? (code : String) : Option Family :=
  all.find? fun f => code ∈ f.codes

end Family

end MessageMarkup.Plural
