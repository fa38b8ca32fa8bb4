import MessageMarkup.Plural.Classifier

/-!
# Plural rules made of conditions

A rule gives each of its categories a condition on the quantity; a quantity that meets none falls
into the category `other`. Conditions are stated about operands of a written number, such as its
fraction digits. Quantities are whole numbers here, so most operands are zero.

## Main definitions

- `Plural.Relation`, `Plural.Condition` — a comparison, and alternatives of comparisons
- `Plural.ConditionRule` — categories with their conditions
- `Plural.ConditionRule.classifier` — the classifier that sorts quantities by the conditions
-/

namespace MessageMarkup.Plural

/-- What a relation looks at in a written number. -/
inductive Operand where
  | quantity
  | whole
  /-- How many fraction digits it has. -/
  | places
  | fraction
  /-- The power of ten it is written with. -/
  | power
  deriving DecidableEq, Repr

/-- The operands of a whole number: it has no fraction digits and no power of ten. -/
def Operand.value (n : Nat) : Operand → Nat
  | quantity | whole => n
  | places | fraction | power => 0

/-- A comparison of an operand, or its remainder, with ranges that include both ends. -/
structure Relation where
  operand : Operand
  modulus : Option Nat
  negated : Bool
  ranges : List (Nat × Nat)
  deriving DecidableEq, Repr

namespace Relation

def within (operand : Operand) (ranges : List (Nat × Nat)) : Relation :=
  ⟨operand, none, false, ranges⟩

def outside (operand : Operand) (ranges : List (Nat × Nat)) : Relation :=
  ⟨operand, none, true, ranges⟩

/-- The remainder of the operand lies in one of the ranges. -/
def modWithin (operand : Operand) (modulus : Nat) (ranges : List (Nat × Nat)) : Relation :=
  ⟨operand, some modulus, false, ranges⟩

/-- The remainder of the operand lies in none of the ranges. -/
def modOutside (operand : Operand) (modulus : Nat) (ranges : List (Nat × Nat)) : Relation :=
  ⟨operand, some modulus, true, ranges⟩

def holds (r : Relation) (n : Nat) : Bool :=
  let value := r.operand.value n
  let compared := match r.modulus with
    | some m => value % m
    | none => value
  r.ranges.any (fun range => range.1 ≤ compared && compared ≤ range.2) != r.negated

variable {operand : Operand} {n : Nat} {ranges : List (Nat × Nat)}

@[simp]
theorem holds_within : (within operand ranges).holds n = true ↔
    ∃ range ∈ ranges, range.1 ≤ operand.value n ∧ operand.value n ≤ range.2 := by
  show (ranges.any (fun range => range.1 ≤ operand.value n && operand.value n ≤ range.2) != false) =
    true ↔ _
  simp

end Relation

/-- Alternatives, each of them relations that hold together. -/
abbrev Condition := List (List Relation)

/-- Whether one of the alternatives holds of a whole number. -/
def Condition.holds (c : Condition) (n : Nat) : Bool :=
  c.any fun alternative => alternative.all (Relation.holds · n)

theorem Condition.holds_iff {c : Condition} {n : Nat} :
    c.holds n = true ↔ ∃ alternative ∈ c, ∀ r ∈ alternative, r.holds n = true := by
  simp [holds]

/-- Categories with their conditions; the category `other` needs none. -/
abbrev ConditionRule := List (Category × Condition)

namespace ConditionRule

/-- The category of a whole number: the first whose condition holds. -/
def category (r : ConditionRule) (n : Nat) : Category :=
  ((r.find? fun entry => Condition.holds entry.2 n).map Prod.fst).getD .other

theorem category_mem (r : ConditionRule) (n : Nat) :
    category r n = .other ∨ category r n ∈ r.map Prod.fst := by
  unfold category
  cases h : r.find? fun entry => Condition.holds entry.2 n with
  | none => exact .inl rfl
  | some entry => exact .inr (List.mem_map_of_mem (List.mem_of_find?_eq_some h))

/-- A category of its own applies where one of its conditions holds. -/
theorem exists_holds_of_category_eq {r : ConditionRule} {n : Nat} {k : Category}
    (hk : k ≠ .other) (h : category r n = k) :
    ∃ condition, (k, condition) ∈ r ∧ condition.holds n = true := by
  unfold category at h
  cases hfind : r.find? fun entry => Condition.holds entry.2 n with
  | none =>
    rw [hfind] at h
    exact absurd h.symm hk
  | some entry =>
    rw [hfind] at h
    obtain rfl : entry.1 = k := h
    have hholds := List.find?_some hfind
    exact ⟨entry.2, List.mem_of_find?_eq_some hfind, hholds⟩

/-- Sorts quantities by the conditions of a rule. -/
def classifier (r : ConditionRule) : Classifier where
  named := r.map Prod.fst
  category := r.category
  category_mem := r.category_mem

end ConditionRule

end MessageMarkup.Plural
