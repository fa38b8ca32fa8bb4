import MessageMarkup.Diagnostic
import MessageMarkup.Text.JsonString

/-!
# Diagnostics as text

## Main definitions

- `Diagnostic.Style` — the styles a diagnostic is written in
- `Diagnostic.clip` — a quoted message on one line and cut to a length
- `Diagnostic.block`, `Diagnostic.line`, `Diagnostic.json` — the three styles
- `Diagnostic.render`, `Diagnostic.renderAll` — one diagnostic, or several, in a given style
- `Diagnostic.text` — a diagnostic as a failure shows it

## Design notes

A JSON object is a list of named fields in the order they are written. Which fields there are is
said once, by `Diagnostic.fields`, apart from how they are spelled.
-/

namespace MessageMarkup.Diagnostic

/-- The styles a diagnostic is written in. -/
inductive Style where
  /-- A header and an indented line for each further fact. -/
  | block
  /-- Code and message on one line. -/
  | line
  /-- One JSON object. -/
  | json
  deriving DecidableEq, Repr

def Style.ofName? : String → Option Style
  | "rust" => some .block
  | "simple" => some .line
  | "json" => some .json
  | _ => none

def Style.unknownMessage (name : String) : String :=
  Text.quoted name ++ " is not a valid OutputFormat"

/-- The length to which a quoted message is cut where no other is asked for. -/
def defaultSourceLength : Int := 100

/-- Characters with line breaks written as escapes. -/
def escapeBreaks : List Char → List Char
  | [] => []
  | c :: cs =>
    if c = '\r' then '\\' :: 'r' :: escapeBreaks cs
    else if c = '\n' then '\\' :: 'n' :: escapeBreaks cs
    else c :: escapeBreaks cs

/-- The first `length` elements of a list or, if that is negative, all but the last `-length`. -/
def takeSigned {α : Type} (length : Int) (xs : List α) : List α :=
  if 0 ≤ length then xs.take length.toNat else xs.take (xs.length - (-length).toNat)

/-- A message on one line and, if it is longer than `length`, cut and marked by three dots. -/
def clip (length : Int) (source : String) : String :=
  let escaped := escapeBreaks source.toList
  if (escaped.length : Int) ≤ length then String.ofList escaped
  else String.ofList (takeSigned length escaped) ++ "..."

def nonempty (text : Option String) : Option String :=
  text.filter (· ≠ "")

/-- The lines of the block style: a header, then span, locale, source and hint as far as they
    are there. -/
def blockLines (length : Int) (d : Diagnostic) : List String :=
  (d.severity.name ++ "[" ++ d.code.name ++ "]: " ++ d.message) ::
    ((d.span.map fun s => "  --> offset " ++ toString s.start).toList
      ++ ((nonempty d.locale).map ("  = locale: " ++ ·)).toList
      ++ (d.source.map fun s => "  = source: " ++ clip length s).toList
      ++ ((nonempty d.hint).map ("  = help: " ++ ·)).toList)

/-- A header and an indented line for each further fact. -/
def block (length : Int) (d : Diagnostic) : String :=
  "\n".intercalate (d.blockLines length)

/-- Code and message on one line. -/
def line (d : Diagnostic) : String :=
  d.code.name ++ ": " ++ d.message

inductive Field where
  | text (value : String)
  | number (value : Nat)
  deriving DecidableEq, Repr

def Field.json : Field → String
  | text value => Text.jsonString value
  | number value => toString value

/-- The named fields of a diagnostic in the order they are written: span, locale, source and hint
    only as far as they are there. -/
def fields (length : Int) (d : Diagnostic) : List (String × Field) :=
  [("code", .text d.code.name), ("code_value", .number d.code.number),
      ("message", .text d.message), ("severity", .text d.severity.name)]
    ++ (match d.span with
      | some s => [("start", .number s.start), ("end", .number s.stop)]
      | none => [])
    ++ ((nonempty d.locale).map fun l => ("locale", Field.text l)).toList
    ++ (d.source.map fun s => ("source", Field.text (clip length s))).toList
    ++ ((nonempty d.hint).map fun h => ("hint", Field.text h)).toList

/-- A list of named fields as a JSON object on one line. -/
def jsonObject (fields : List (String × Field)) : String :=
  "\x7b" ++ ", ".intercalate (fields.map fun f => Text.jsonString f.1 ++ ": " ++ f.2.json) ++ "\x7d"

/-- One JSON object. -/
def json (length : Int) (d : Diagnostic) : String :=
  jsonObject (d.fields length)

/-- A diagnostic in a given style, with quoted messages cut to `length`. -/
def render (style : Style) (length : Int) (d : Diagnostic) : String :=
  match style with
  | .block => d.block length
  | .line => d.line
  | .json => d.json length

/-- Several diagnostics with an empty line between one and the next. -/
def renderAll (style : Style) (length : Int) (ds : List Diagnostic) : String :=
  "\n\n".intercalate (ds.map (render style length))

def text (d : Diagnostic) : String :=
  d.block defaultSourceLength

end MessageMarkup.Diagnostic
