import MessageMarkup.Decimal.Notation
import MessageMarkup.Table
import MessageMarkup.Text.Quoted

/-!
# Values and chunks

What callers give for tags and placeholders, and what formatting makes of a message.

## Main definitions

- `Chunk` — one piece of a formatted message
- `Chunk.toText` — a piece as text
- `Renderer` — a function from the formatted content of a tag to a chunk
- `Value`, `Table Value` — what a caller gives for a name
- `Value.prepare?` — the form in which a value is used

## Design notes

A function among the pieces of a message is never called again, so a chunk keeps of it only the
name of its type. This is what lets a renderer be any function from chunks to chunks.
-/

namespace MessageMarkup

/-- One piece of a formatted message. -/
inductive Chunk where
  | text (value : String)
  | integer (value : Int)
  | real (value : Float)
  | truth (value : Bool)
  | absent
  | list (items : List Chunk)
  /-- An element of a user interface. -/
  | element (name : String) (children : Chunk)
  /-- A function, by the name of its type. -/
  | function (typeName : String)
  deriving Inhabited

namespace Chunk

def truthText (value : Bool) : String :=
  if value then "True" else "False"

mutual

/-- A piece as it stands inside another one. -/
def innerText : Chunk → String
  | text value => Text.quoted value
  | integer value => toString value
  | real value => Decimal.floatText value
  | truth value => truthText value
  | absent => "None"
  | list items => "[" ++ ", ".intercalate (innerTexts items) ++ "]"
  | element name children =>
    "\x7b'tag': " ++ Text.quoted name ++ ", 'children': " ++ innerText children ++ "\x7d"
  | function typeName => "<" ++ typeName ++ ">"

def innerTexts : List Chunk → List String
  | [] => []
  | c :: cs => innerText c :: innerTexts cs

end

/-- A piece as text. A text is itself; within lists and elements texts are quoted. -/
def toText : Chunk → String
  | text value => value
  | c => innerText c

/-- Whether a piece counts as content: it is not empty, zero, false or absent. -/
def isContent : Chunk → Bool
  | text value => value ≠ ""
  | integer value => value ≠ 0
  | real value => value != 0
  | truth value => value
  | absent => false
  | list items => !items.isEmpty
  | element _ _ | function _ => true

/-- How long a piece is: the characters of a text or the items of a list. -/
def length : Chunk → Nat
  | text value => value.length
  | list items => items.length
  | _ => 0

end Chunk

/-- A function from the formatted content of a tag to a chunk, with the name of its type. -/
structure Renderer where
  typeName : String
  render : Chunk → Chunk

namespace Renderer

/-- A renderer with the type name of plain functions. -/
def plain (render : Chunk → Chunk) : Renderer :=
  ⟨"function", render⟩

def wrap (opening closing : String) : Renderer :=
  plain fun content => .text (opening ++ content.toText ++ closing)

/-! ### Renderers that a caller may bring

Formatting calls whatever renderer it is given. These serve to run it. -/

def constant (chunk : Chunk) : Renderer :=
  plain fun _ => chunk

def echo : Renderer :=
  plain id

def element (name : String) : Renderer :=
  plain (.element name)

/-- Turns the ASCII letters of the content into capitals. -/
def upper : Renderer :=
  ⟨"method_descriptor",
    fun content => .text (String.ofList (content.toText.toList.map Char.toUpper))⟩

def length : Renderer :=
  ⟨"builtin_function_or_method", fun content => .integer content.length⟩

def asText : Renderer :=
  ⟨"type", fun content => .text content.toText⟩

end Renderer

/-- What a caller gives for a name. -/
inductive Value where
  | absent
  | text (value : String)
  | truth (value : Bool)
  | integer (value : Int)
  | real (value : Float)
  | function (renderer : Renderer)

/-- A value in the form in which it is used. -/
inductive Prepared where
  | text (value : String)
  | function (renderer : Renderer)

namespace Value

/-- A value as a piece of a message, without any conversion. -/
def toChunk : Value → Chunk
  | absent => .absent
  | text value => .text value
  | truth value => .truth value
  | integer value => .integer value
  | real value => .real value
  | function renderer => .function renderer.typeName

/-- The form in which a value is used: functions and texts stay, what is absent counts as not
    given, and all else becomes text. -/
def prepare? : Value → Option Prepared
  | absent => none
  | function renderer => some (.function renderer)
  | text value => some (.text value)
  | v@(truth _) | v@(integer _) | v@(real _) => some (.text v.toChunk.toText)

@[simp]
theorem prepare?_absent : prepare? .absent = none := rfl

end Value

/-- The values of a table in the form in which they are used. -/
def Table.prepare (values : Table Value) : Table Prepared :=
  values.filterMap Value.prepare?

end MessageMarkup
