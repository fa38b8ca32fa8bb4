import MessageMarkup.Text.Blank
import MessageMarkup.Text.LowerCase

/-!
# Locale codes

A locale code is a language with further subtags, written with hyphens or underscores, in any
case, and perhaps with blanks around it.

## Main definitions

- `Locale.normalize` — a code without outer blanks, and with underscores
- `Locale.canonical` — the same in lower case
- `Locale.lookupKeys` — the canonical code and every shorter one that leaves subtags off its end
-/

namespace MessageMarkup.Locale

/-- The locale whose plural rule holds where no other is known. -/
def fallback : String := "en"

/-- The separator of subtags in a normalized code. -/
abbrev separator : Char := '_'

/-- A character of a code, with a hyphen made an underscore. -/
def normalizeChar (c : Char) : Char :=
  if c = '-' then separator else c

/-- A code without outer blanks and with underscores between subtags, in the case it came in. -/
def normalize (code : String) : String :=
  String.ofList ((Text.trimBlanks code.toList).map normalizeChar)

/-- A code without outer blanks, with underscores between subtags, and in lower case. -/
def canonical (code : String) : String :=
  Text.lower (normalize code)

/-- What stands before each separator, and the whole, from short to long. -/
def subtagPrefixes : List Char → List (List Char)
  | [] => [[]]
  | c :: cs =>
    let longer := (subtagPrefixes cs).map (c :: ·)
    if c = separator then [] :: longer else longer

/-- The canonical code and every shorter one that leaves subtags off its end, the longest first. -/
def lookupKeys (code : String) : List String :=
  (subtagPrefixes (canonical code).toList).reverse.map String.ofList

end MessageMarkup.Locale
