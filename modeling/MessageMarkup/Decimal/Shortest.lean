import MessageMarkup.Decimal.Binary

/-!
# The shortest decimal that reads back

Every finite floating-point number is the nearest one to all reals of an interval around it. Among
the decimals in that interval the ones with the fewest digits are its shortest names.

## Main definitions

- `Decimal` — digits and a power of ten
- `Rounding` — a positive number with the interval of reals that round to it
- `Rounding.shortest` — the nearest of its shortest decimals

## Design notes

All is done on natural numbers: the number is `num / den`, and the ends of the interval lie
`below / den` under and `above / den` over it. On each decimal grid only the two neighbours of the
number can be nearest, so two candidates a grid are tried, the coarsest grid first.
-/

namespace MessageMarkup

/-- The number `digits * 10 ^ exponent`. -/
structure Decimal where
  digits : Nat
  exponent : Int
  deriving DecidableEq, Repr

namespace Decimal

/-- The positive number `num / den` and the interval of reals that round to it. -/
structure Rounding where
  num : Nat
  den : Nat
  /-- How far the interval reaches under the number, times `den`. -/
  below : Nat
  /-- How far the interval reaches over the number, times `den`. -/
  above : Nat
  closed : Bool
  deriving DecidableEq, Repr

/-- A positive finite number with the reals that round to it: half way to either neighbour, where
    the one below is nearer if the mantissa is the least with its exponent. The ends round to an
    even mantissa. -/
def Rounding.ofBinary (b : Binary) : Rounding :=
  let below := if b.mantissa = Nat.pow 2 52 ∧ b.exponent ≠ -1074 then 1 else 2
  let up := Nat.pow 2 b.exponent.toNat
  { num := 4 * b.mantissa * up
    den := 4 * Nat.pow 2 (-b.exponent).toNat
    below := below * up
    above := 2 * up
    closed := b.mantissa % 2 = 0 }

namespace Rounding

/-- The same number and interval in units of `10 ^ exponent`. -/
def inUnits (r : Rounding) (exponent : Int) : Rounding :=
  let up := Nat.pow 10 (-exponent).toNat
  { r with
    num := r.num * up
    den := r.den * Nat.pow 10 exponent.toNat
    below := r.below * up
    above := r.above * up }

/-- Whether a distance reaches no further than an end of the interval. -/
def reaches (r : Rounding) (distance stop : Nat) : Bool :=
  if r.closed then distance ≤ stop else distance < stop

/-- The nearest whole number in the interval, if there is one; of two equally near the even one. -/
def wholeNeighbour? (r : Rounding) : Option Nat :=
  let low := r.num / r.den
  let toLow := r.num - low * r.den
  let toHigh := (low + 1) * r.den - r.num
  match r.reaches toLow r.below, r.reaches toHigh r.above with
  | true, true =>
    if toLow < toHigh ∨ (toLow = toHigh ∧ low % 2 = 0) then some low else some (low + 1)
  | true, false => some low
  | false, true => some (low + 1)
  | false, false => none

def digitCount (n : Nat) : Nat :=
  (Nat.toDigits 10 n).length

/-- The exponent of the power of ten that leads a positive number. -/
def leadingExponent (r : Rounding) : Int :=
  if r.den ≤ r.num then (digitCount (r.num / r.den) : Int) - 1
  else -(digitCount ((r.den - 1) / r.num) : Int)

/-- The first of the grids `exponent`, `exponent - 1`, … on which a neighbour of the number lies in
    the interval, with that neighbour; at most `fuel` grids are tried. -/
def search (r : Rounding) (exponent : Int) : (fuel : Nat) → Option Decimal
  | 0 => none
  | fuel + 1 =>
    match (r.inUnits exponent).wholeNeighbour? with
    | some digits => some ⟨digits, exponent⟩
    | none => search r (exponent - 1) fuel

/-- The nearest of the shortest decimals in the interval. Seventeen digits are always enough. -/
def shortest (r : Rounding) : Option Decimal :=
  r.search r.leadingExponent 17

end Rounding

/-- The nearest of the shortest decimals that read back as a finite number, but for its sign. -/
def ofBinary (b : Binary) : Decimal :=
  if b.mantissa = 0 then ⟨0, 0⟩ else (Rounding.ofBinary b).shortest.getD ⟨0, 0⟩

end Decimal

end MessageMarkup
