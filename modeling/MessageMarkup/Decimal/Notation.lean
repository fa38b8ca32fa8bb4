import MessageMarkup.Decimal.Shortest

/-!
# Decimal notation

Floating-point numbers as text, with the fewest digits that read back.

## Main definitions

- `Decimal.positional`, `Decimal.scientific` — the two notations
- `Decimal.floatText` — a floating-point number as text
-/

namespace MessageMarkup.Decimal

/-- The least and the first too large exponent of the leading digit in positional notation. -/
def positionalExponents : Int × Int := (-4, 16)

/-- The digits of a decimal without trailing zeros, and the exponent of the leading one. -/
def significant (d : Decimal) : List Char × Int :=
  let digits := Nat.toDigits 10 d.digits
  let kept := (digits.reverse.dropWhile (· = '0')).reverse
  (if kept = [] then ['0'] else kept, d.exponent + digits.length - 1)

/-- Digits with a point where the exponent of the leading digit puts it, and at least one digit
    on either side. -/
def positional (digits : List Char) (exponent : Int) : List Char :=
  if exponent < 0 then
    '0' :: '.' :: List.replicate (-exponent - 1).toNat '0' ++ digits
  else
    let whole := exponent.toNat + 1
    let fraction := digits.drop whole
    digits.take whole ++ List.replicate (whole - digits.length) '0'
      ++ '.' :: (if fraction = [] then ['0'] else fraction)

/-- Digits with a point behind the first, if more follow, and the exponent with its sign and at
    least two digits. -/
def scientific (digits : List Char) (exponent : Int) : List Char :=
  let fraction := digits.drop 1
  let size := Nat.toDigits 10 exponent.natAbs
  digits.take 1 ++ (if fraction = [] then [] else '.' :: fraction)
    ++ 'e' :: (if exponent < 0 then '-' else '+') :: List.replicate (2 - size.length) '0' ++ size

/-- A decimal as text: positional unless its leading digit has too small or too large an
    exponent. -/
def toChars (d : Decimal) : List Char :=
  let (digits, exponent) := d.significant
  if positionalExponents.1 ≤ exponent ∧ exponent < positionalExponents.2 then
    positional digits exponent
  else scientific digits exponent

def classText : FloatClass → String
  | .finite b => String.ofList ((if b.negative then ['-'] else []) ++ (ofBinary b).toChars)
  | .infinite negative => if negative then "-inf" else "inf"
  | .notANumber => "nan"

def floatText (x : Float) : String :=
  classText (.ofFloat x)

end MessageMarkup.Decimal
