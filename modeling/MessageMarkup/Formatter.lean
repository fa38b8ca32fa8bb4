import MessageMarkup.Parser
import MessageMarkup.Value

/-!
# Formatting

Formatting puts values into a message. Each top-level node becomes one chunk; what a tag encloses
is formatted first, joined, and handed to the function that stands for the tag.

## Main definitions

- `Join` — how the chunks inside a tag become one
- `Formatter` — a join, a default table of values and a nesting limit
- `Formatter.formatNodes`, `Formatter.format` — the chunks of nodes, or of a message
- `defaultValues` — a table that renders tags without a value of their own

## Design notes

A tag is looked up only after its content is formatted, so of two missing values the inner one is
reported. A content is formatted even if the value of its tag is a text, which discards it.
-/

namespace MessageMarkup

/-- How the chunks inside a tag become one. -/
abbrev Join := List Chunk → Chunk

namespace Join

def concat : Join := fun chunks =>
  .text (String.join (chunks.map Chunk.toText))

/-! ### Joins that a caller may bring

Formatting works with any join. These serve to run it. -/

def list : Join := fun chunks =>
  Chunk.list chunks

def count : Join := fun chunks =>
  .integer chunks.length

/-- The texts of the chunks with a dash between one and the next. -/
def dash : Join := fun chunks =>
  .text ("-".intercalate (chunks.map Chunk.toText))

end Join

/-- The tags that are rendered without a value of their own. -/
def defaultTags : List String :=
  ["p", "b", "strong", "tt", "s", "i"]

/-- A tag as it is written in a message: a void tag if its content counts as none. -/
def markupElement (name : String) (content : Chunk) : Chunk :=
  if content.isContent then .text (Mark.tag name ++ content.toText ++ Mark.closingTag name)
  else .text (Mark.voidTag name)

/-- A tag as its name, a colon and its content in brackets, as a caller may want it. -/
def bracketElement (name : String) (content : Chunk) : Chunk :=
  .text ("[" ++ name ++ ":" ++ content.toText ++ "]")

/-- A table that renders each of some tags by `element`, given its name. -/
def defaultValues (tags : List String) (element : String → Chunk → Chunk) : Table Value :=
  .ofList (tags.map fun tag => (tag, .function (.plain (element tag))))

namespace Formatter

/-- What a tag with formatted content becomes: the function of its name is applied to the content,
    a text of its name takes its place. -/
def renderTag (join : Join) (values : Table Prepared) (name : String) (content : List Chunk) :
    Except Failure Chunk :=
  match values.get? name with
  | none => .error (.valueNotProvided name)
  | some (.function renderer) => .ok (renderer.render (join content))
  | some (.text value) => .ok (.text value)

/-- What a void tag or a placeholder becomes: the text of its name. -/
def renderName (values : Table Prepared) (name : String) : Except Failure Chunk :=
  match values.get? name with
  | none => .error (.valueNotProvided name)
  | some (.function renderer) => .error (.valueNotText name renderer.typeName)
  | some (.text value) => .ok (.text value)

mutual

def chunk (join : Join) (values : Table Prepared) (guard : DepthGuard) :
    Node → Except Failure Chunk
  | .text value => .ok (.text value)
  | .tag name children => do
    let content ← chunks join values (← guard.enter) children
    renderTag join values name content
  | .voidTag name | .placeholder name => renderName values name

def chunks (join : Join) (values : Table Prepared) (guard : DepthGuard) :
    List Node → Except Failure (List Chunk)
  | [] => .ok []
  | n :: ns => do
    let first ← chunk join values guard n
    let rest ← chunks join values guard ns
    return first :: rest

end

end Formatter

/-- How messages are formatted. -/
structure Formatter where
  join : Join
  /-- Values for the names that a call gives none for. -/
  defaults : Table Value
  limit : Int

namespace Formatter

/-- Joins texts, renders the default tags as they are written, and has the default limit. -/
def standard : Formatter where
  join := .concat
  defaults := defaultValues defaultTags markupElement
  limit := Nesting.defaultLimit

/-- The values that a call is formatted with: its own, over the defaults. -/
def effective (f : Formatter) (values : Table Value) : Table Prepared :=
  f.defaults.prepare.override values.prepare

/-- The chunks of nodes, in order. -/
def formatNodes (f : Formatter) (nodes : List Node) (values : Table Value) :
    Except Failure (List Chunk) :=
  chunks f.join (f.effective values) (.ofLimit f.limit) nodes

/-- The chunks of a message, in order. Pipes mean nothing here. -/
def format (f : Formatter) (source : String) (values : Table Value) :
    Except Failure (List Chunk) := do
  f.formatNodes (← parse f.limit source) values

/-- A call's own value of a name is used unless it is absent, and then the default. -/
theorem get?_effective (f : Formatter) (values : Table Value) (name : String) :
    (f.effective values).get? name =
      ((values.get? name).bind Value.prepare?).or ((f.defaults.get? name).bind Value.prepare?) := by
  simp [effective, Table.get?_override, Table.prepare, Table.get?_filterMap]

end Formatter

end MessageMarkup
