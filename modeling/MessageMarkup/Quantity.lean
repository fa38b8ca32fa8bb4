import MessageMarkup.Decimal.Binary

/-!
# Quantities

The number that a plural form is chosen for. It may be given as an integer, a truth value or a
floating-point number, and is taken as an integer by dropping the digits after the point.

## Main definitions

- `Quantity` — a number as it is given
- `Quantity.toInt` — the integer it is taken as
-/

namespace MessageMarkup

/-- A number that a plural form is chosen for, as it is given. -/
inductive Quantity where
  | integer (value : Int)
  | truth (value : Bool)
  | real (value : Float)

/-- Why a quantity is not taken as an integer. -/
inductive QuantityFault where
  | notANumber
  | infinite
  deriving DecidableEq, Repr

def QuantityFault.message : QuantityFault → String
  | notANumber => "cannot convert float NaN to integer"
  | infinite => "cannot convert float infinity to integer"

/-- The integer that a quantity is taken as: one for true, and the integer part of a number. -/
def Quantity.toInt : Quantity → Except QuantityFault Int
  | integer value => .ok value
  | truth value => .ok (if value then 1 else 0)
  | real value =>
    match Decimal.FloatClass.ofFloat value with
    | .finite b => .ok b.truncate
    | .infinite _ => .error .infinite
    | .notANumber => .error .notANumber

end MessageMarkup
