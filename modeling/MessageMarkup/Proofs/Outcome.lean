import Mathlib.Tactic.Common

/-!
# Outcomes

Steps that may fail are chained by `bind`. These are the laws by which a chain is taken apart.

## Main definitions

- `Outcome.failure?` — why a step failed, if it did
- `Outcome.Answers` — a step succeeds and tells whether something holds

## Main statements

- `Outcome.ok_bind`, `Outcome.error_bind` — the first step of a chain decides how it goes on
- `Outcome.bind_eq_ok` — a chain succeeds just if both of its steps do
- `Outcome.failure?_bind`, `Outcome.failure?_both` — a chain fails where its first failing step does
- `Outcome.mapError_and` — failures are reworded before or after steps are chained
- `Outcome.foldlM_eq_error` — a run fails where its first failing step does
-/

namespace MessageMarkup.Outcome

variable {ε α β γ σ : Type}

@[simp]
theorem ok_bind (a : α) (f : α → Except ε β) : (Except.ok a >>= f) = f a := rfl

@[simp]
theorem error_bind (e : ε) (f : α → Except ε β) :
    ((Except.error e : Except ε α) >>= f) = Except.error e := rfl

/-- A chain succeeds just if its first step does, and then the next one with what it gives. -/
theorem bind_eq_ok {x : Except ε α} {f : α → Except ε β} {b : β} :
    (x >>= f) = .ok b ↔ ∃ a, x = .ok a ∧ f a = .ok b := by
  cases x with
  | ok a => simp
  | error e => simp

theorem bind_eq_error {x : Except ε α} {f : α → Except ε β} {e : ε} :
    (x >>= f) = .error e ↔ x = .error e ∨ ∃ a, x = .ok a ∧ f a = .error e := by
  cases x with
  | ok a => simp
  | error e' => simp

/-- A run fails where its first failing step does, from the state in which the steps before have
    left it. -/
theorem foldlM_eq_error {f : σ → α → Except ε σ} {xs : List α} {s : σ} {e : ε} :
    xs.foldlM f s = .error e ↔
      ∃ front x back s', xs = front ++ x :: back ∧ front.foldlM f s = .ok s' ∧ f s' x = .error e := by
  constructor
  · intro h
    induction xs generalizing s with
    | nil => cases h
    | cons x xs ih =>
      rw [List.foldlM_cons, bind_eq_error] at h
      obtain hx | ⟨s₁, hx, h⟩ := h
      · exact ⟨[], x, xs, s, rfl, rfl, hx⟩
      · obtain ⟨front, y, back, s', rfl, hfront, hy⟩ := ih h
        refine ⟨x :: front, y, back, s', rfl, ?_, hy⟩
        rw [List.foldlM_cons, hx, ok_bind, hfront]
  · rintro ⟨front, x, back, s', rfl, hfront, hx⟩
    rw [List.foldlM_append, hfront, ok_bind, List.foldlM_cons, hx, error_bind]

/-- Why a step failed, if it did. -/
def failure? : Except ε α → Option ε
  | .ok _ => none
  | .error e => some e

theorem failure?_eq_none {x : Except ε α} : failure? x = none ↔ ∃ a, x = .ok a := by
  cases x with
  | ok a => simp [failure?]
  | error e => simp [failure?]

theorem failure?_eq_some {x : Except ε α} {e : ε} : failure? x = some e ↔ x = .error e := by
  cases x with
  | ok a => simp [failure?]
  | error e' => simp [failure?]

/-- A chain whose second step fails the same way, whatever it is given, fails where the first of
    its steps does that fails. -/
theorem failure?_bind {x : Except ε α} {f : α → Except ε β} {o : Option ε}
    (h : ∀ a, failure? (f a) = o) : failure? (x >>= f) = (failure? x).or o := by
  cases x with
  | ok a => exact h a
  | error e => rfl

/-- Two steps of which the second does not need the first fail where the first of them does that
    fails. -/
theorem failure?_both {x : Except ε α} {y : Except ε β} {f : α → β → γ} :
    failure? (do let a ← x; let b ← y; return f a b) = (failure? x).or (failure? y) := by
  refine failure?_bind fun a => ?_
  cases y with
  | ok b => rfl
  | error e => rfl

/-- To reword the failures of two steps, of which a yes of the first leads to the second, is to
    reword what they fail for together. -/
theorem mapError_and {φ : Type} {x y : Except ε Bool} {f : ε → φ} :
    (do if ← x.mapError f then y.mapError f else return false) =
      (do if ← x then y else return false).mapError f := by
  cases x with
  | error e => rfl
  | ok b => cases b <;> rfl

/-- The step succeeds and tells whether something holds. -/
def Answers (x : Except ε Bool) (p : Prop) : Prop :=
  ∃ b, x = .ok b ∧ (b = true ↔ p)

theorem answers_true {p : Prop} (h : p) : Answers (.ok true : Except ε Bool) p :=
  ⟨true, rfl, by simp [h]⟩

theorem answers_false {p : Prop} (h : ¬ p) : Answers (.ok false : Except ε Bool) p :=
  ⟨false, rfl, by simp [h]⟩

theorem Answers.congr {x : Except ε Bool} {p q : Prop} (h : Answers x p) (hpq : p ↔ q) :
    Answers x q := by
  obtain ⟨b, hx, hb⟩ := h
  exact ⟨b, hx, hb.trans hpq⟩

/-- If one answer is yes, the next one decides; if not, the whole answer is no. -/
theorem Answers.and {x y : Except ε Bool} {p q : Prop} (hx : Answers x p) (hy : Answers y q) :
    Answers (do if ← x then y else return false) (p ∧ q) := by
  obtain ⟨b, rfl, hb⟩ := hx
  cases b with
  | true => exact hy.congr (by simp [← hb])
  | false => exact answers_false fun h => absurd (hb.2 h.1) (by simp)

end MessageMarkup.Outcome
