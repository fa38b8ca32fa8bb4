import MessageMarkup.Mark
import MessageMarkup.Nesting
import MessageMarkup.Node

/-!
# Writing messages

The message that a list of nodes stands for, written so that it reads back.

## Main definitions

- `Printer.escape` — text with its percent signs doubled where they would begin a placeholder
- `Printer.nodes` — the message of a list of nodes below a depth guard
- `print` — the message of a list of nodes under a nesting limit

## Design notes

After a `<` that is text, characters up to the next `>` are read as those of a tag label, where a
percent sign is nothing special. There it is written once, and everywhere else in a text twice.
-/

namespace MessageMarkup

namespace Printer

/-- Text with each `%` doubled, but for those between a `<` and the next `>`. The flag says
    whether such a `<` stands before. -/
def escape (afterOpen : Bool) : List Char → List Char
  | [] => []
  | c :: cs =>
    if c = Mark.tagOpen then c :: escape true cs
    else if c = Mark.tagClose then c :: escape false cs
    else if c = Mark.placeholder ∧ afterOpen = false then c :: c :: escape afterOpen cs
    else c :: escape afterOpen cs

def escapeText (text : String) : String :=
  String.ofList (escape false text.toList)

mutual

def node (guard : DepthGuard) : Node → Except Failure String
  | .text value => .ok (escapeText value)
  | .tag name children => do
    let inner ← nodes (← guard.enter) children
    return Mark.tag name ++ inner ++ Mark.closingTag name
  | .voidTag name => .ok (Mark.voidTag name)
  | .placeholder name => .ok (Mark.named name)

/-- Nodes as they are written in a message, one after the other. -/
def nodes (guard : DepthGuard) : List Node → Except Failure String
  | [] => .ok ""
  | n :: ns => do
    let first ← node guard n
    let rest ← nodes guard ns
    return first ++ rest

end

end Printer

/-- The message that nodes stand for, if their tags nest no deeper than `limit`. -/
def print (limit : Int) (nodes : List Node) : Except Failure String :=
  Printer.nodes (.ofLimit limit) nodes

end MessageMarkup
