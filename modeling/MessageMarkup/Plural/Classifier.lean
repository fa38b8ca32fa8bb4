/-!
# Plural categories

Locale data sorts quantities into named categories. It names those that a locale tells apart, and
sorts every quantity into one of them or into `other`, which every locale has.

## Main definitions

- `Plural.Category` — the grammatical categories, in their standard order
- `Plural.Classifier` — the categories that a locale names, and that of each quantity
- `Plural.Classifier.select` — the place of a quantity's category among those of a classifier
- `Plural.LocaleData` — what a collection of locale data knows

## Main statements

- `Plural.Classifier.select_lt` — every quantity falls into one of the categories of a classifier
-/

namespace MessageMarkup.Plural

inductive Category where
  | zero
  | one
  | two
  | few
  | many
  | other
  deriving DecidableEq, Repr

namespace Category

/-- The categories in their standard order. -/
def all : List Category :=
  [zero, one, two, few, many, other]

theorem mem_all (c : Category) : c ∈ all := by
  cases c <;> decide

end Category

/-- The categories that a locale names, and that of each quantity: one of those, or `other`. -/
structure Classifier where
  named : List Category
  category : Nat → Category
  category_mem : ∀ n, category n = .other ∨ category n ∈ named

namespace Classifier

/-- The categories of a classifier, in standard order: those that it names, and `other`. -/
def categories (c : Classifier) : List Category :=
  Category.all.filter fun k => k = .other ∨ k ∈ c.named

/-- The place of a quantity's category among those of the classifier. -/
def select (c : Classifier) (n : Nat) : Nat :=
  c.categories.idxOf (c.category n)

/-- Every quantity falls into one of the categories of a classifier. -/
theorem select_lt (c : Classifier) (n : Nat) : c.select n < c.categories.length := by
  apply List.idxOf_lt_length_of_mem
  rw [categories, List.mem_filter]
  exact ⟨Category.mem_all _, by simpa using c.category_mem n⟩

end Classifier

/-- What a collection of locale data knows: the classifier of each normalized locale code that it
    has. -/
abbrev LocaleData := String → Option Classifier

end MessageMarkup.Plural
