import MessageMarkup.Failure

/-!
# The nesting limit

Every walk into tags counts the levels it has entered and stops at one common limit.

## Main definitions

- `Nesting.defaultLimit`, `Nesting.largestLimit` — the limit where none is asked for, and the
  largest that is honoured
- `Nesting.clamp` — the limit that is honoured for a requested one
- `DepthGuard` — a limit and the number of levels entered
- `DepthGuard.enter`, `DepthGuard.exit` — one level down, unless that exceeds the limit, and up

## Design notes

A guard is a value. A walk passes the guard that `enter` returns to the level below and goes on
with its own, so a level is left without being counted back; `exit` is for callers that keep one
guard throughout.
-/

namespace MessageMarkup

namespace Nesting

/-- The nesting limit where none is asked for. -/
def defaultLimit : Int := 100

/-- The number of nested calls that all walks together may use. -/
def callBudget : Int := 1000

/-- The calls that are kept free for callers where no other reserve is asked for. -/
def defaultReserve : Int := 50

/-- A requested limit, lowered to what the call budget less `reserve` holds at two calls a level. -/
def clampWith (reserve requested : Int) : Int :=
  min requested (Int.fdiv (callBudget - reserve) 2)

/-- A requested limit, lowered to the largest one that is honoured. -/
def clamp (requested : Int) : Int :=
  clampWith defaultReserve requested

/-- The largest limit that is honoured. -/
def largestLimit : Int := 475

theorem clamp_eq_min (requested : Int) : clamp requested = min requested largestLimit := rfl

end Nesting

/-- A nesting limit and the number of levels entered under it. -/
structure DepthGuard where
  limit : Int
  level : Int
  deriving DecidableEq, Repr

namespace DepthGuard

/-- A guard for a requested limit, with no level entered. -/
def ofLimit (requested : Int) : DepthGuard :=
  ⟨Nesting.clamp requested, 0⟩

/-- Whether one more level would go beyond the limit. -/
def exceeded (g : DepthGuard) : Bool :=
  g.limit ≤ g.level

/-- Fails if one more level would go beyond the limit. -/
def check (g : DepthGuard) : Except Failure Unit :=
  if g.exceeded then .error (.nestingTooDeep g.limit) else .ok ()

/-- The guard with one level more and no check. -/
def deeper (g : DepthGuard) : DepthGuard :=
  { g with level := g.level + 1 }

/-- The guard one level down; fails if that goes beyond the limit. -/
def enter (g : DepthGuard) : Except Failure DepthGuard :=
  if g.exceeded then .error (.nestingTooDeep g.limit) else .ok g.deeper

def exit (g : DepthGuard) : DepthGuard :=
  { g with level := g.level - 1 }

theorem exceeded_iff {g : DepthGuard} : g.exceeded = true ↔ g.limit ≤ g.level := by
  simp [exceeded]

theorem enter_eq_ok {g : DepthGuard} (h : g.level < g.limit) : g.enter = .ok g.deeper := by
  have : g.exceeded = false := by simpa [exceeded] using h
  simp [enter, this]

theorem enter_eq_error {g : DepthGuard} (h : g.limit ≤ g.level) :
    g.enter = .error (.nestingTooDeep g.limit) := by
  simp [enter, exceeded_iff.2 h]

@[simp]
theorem exit_deeper (g : DepthGuard) : g.deeper.exit = g := by
  simp [deeper, exit]

end DepthGuard

end MessageMarkup
