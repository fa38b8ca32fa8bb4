/-!
# Floating-point numbers by their bits

## Main definitions

- `Binary` — a finite floating-point number as a signed multiple of a power of two
- `FloatClass` — a finite number, an infinity, or not a number
- `FloatClass.ofFloat` — what a floating-point number is, read off its 64 bits
- `Binary.truncate` — the integer part of a finite number
-/

namespace MessageMarkup.Decimal

/-- A finite floating-point number: a sign and `mantissa * 2 ^ exponent`. -/
structure Binary where
  negative : Bool
  mantissa : Nat
  exponent : Int
  deriving DecidableEq, Repr

inductive FloatClass where
  | finite (value : Binary)
  | infinite (negative : Bool)
  | notANumber
  deriving DecidableEq, Repr

namespace FloatClass

/-- What 64 bits stand for: a sign, eleven bits of exponent, and 52 bits of mantissa under a
    leading one that only the numbers of the least exponent lack. -/
def ofBits (bits : Nat) : FloatClass :=
  let negative : Bool := bits / Nat.pow 2 63 % 2 = 1
  let biased : Nat := bits / Nat.pow 2 52 % Nat.pow 2 11
  let fraction : Nat := bits % Nat.pow 2 52
  if biased = Nat.pow 2 11 - 1 then
    if fraction = 0 then .infinite negative else .notANumber
  else if biased = 0 then .finite ⟨negative, fraction, -1074⟩
  else .finite ⟨negative, Nat.pow 2 52 + fraction, (biased : Int) - 1075⟩

def ofFloat (x : Float) : FloatClass :=
  ofBits x.toBits.toNat

end FloatClass

/-- The integer part of a finite number: what is left when the digits after the point are
    dropped. -/
def Binary.truncate (b : Binary) : Int :=
  let size : Nat :=
    if 0 ≤ b.exponent then b.mantissa * Nat.pow 2 b.exponent.toNat
    else b.mantissa / Nat.pow 2 (-b.exponent).toNat
  if b.negative then -(size : Int) else size

end MessageMarkup.Decimal
