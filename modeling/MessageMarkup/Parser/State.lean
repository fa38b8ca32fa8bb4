import MessageMarkup.Mark
import MessageMarkup.Nesting
import MessageMarkup.Node

/-!
# The state of a parse

A message is read one character at a time. The state holds what has been read of the innermost
open tag, the tags that are still open around it, and the markup that has been begun but not ended.

## Main definitions

- `Mode` — whether the next character belongs to text, to a tag label or to a placeholder name
- `TagToken.ofLabel` — what a complete tag label asks for: to open, to close, or a void tag
- `OpenTag` — an open tag with the nodes in front of it
- `State` — the state between two characters
- `State.next` — the state after one more character
- `State.finish` — the nodes once the message has ended

## Design notes

Open tags form a stack, innermost first, and each keeps the earlier nodes of the level that it
interrupts. Nodes of a level are thus complete the moment its tag closes. A label is compared as
written; blanks are trimmed only in the node that it names.
-/

namespace MessageMarkup.Parser

/-- What the next character belongs to. -/
inductive Mode where
  | text
  /-- The label of a tag whose `<` stands at `start`. -/
  | tag (start : Nat) (label : String)
  /-- The name of a placeholder whose opening `%` stands at `start`. -/
  | placeholder (start : Nat) (name : String)
  deriving DecidableEq, Repr

/-- Markup that was begun and never ended, as it stood in the message. -/
def Mode.pending : Mode → String
  | .text => ""
  | .tag _ label => String.ofList (Mark.tagOpen :: label.toList)
  | .placeholder _ name => String.ofList (Mark.placeholder :: name.toList)

/-- What a complete tag label asks for. -/
inductive TagToken where
  | opening (label : String)
  | closing (label : String)
  | void (label : String)
  deriving DecidableEq, Repr

/-- A label that begins with `/` closes a tag, another that ends with `/` is a void tag, and any
    other opens a tag. -/
def TagToken.ofLabel (label : String) : TagToken :=
  let cs := label.toList
  if cs.head? = some Mark.closing then .closing (String.ofList cs.tail)
  else if cs.getLast? = some Mark.closing then .void (String.ofList cs.dropLast)
  else .opening label

/-- An open tag: its label as written, and the nodes in front of it at its own level. -/
structure OpenTag where
  label : String
  before : List Node
  deriving DecidableEq, Repr

/-- Whether a label is written like one with attributes, that is, with a space in it. -/
def OpenTag.hasAttributes (t : OpenTag) : Bool :=
  ' ' ∈ t.label.toList

/-- Why a message cannot be read. Positions count characters from its start. -/
inductive Fault where
  /-- A tag was left open, or the close tag at `position` closes no open tag. -/
  | unbalancedTags (position : Option Nat)
  /-- The close tag at `position` meets an open tag whose label holds a space. -/
  | tagHasAttributes (label : String) (position : Nat)
  /-- One more tag is opened than the limit allows. -/
  | nestingTooDeep (limit : Int)
  deriving DecidableEq, Repr

/-- The failure that a fault amounts to in a given message. -/
def Fault.toFailure (source : String) : Fault → Failure
  | .unbalancedTags position => .unbalancedTags source position
  | .tagHasAttributes label position => .tagHasAttributes source label position
  | .nestingTooDeep limit => .nestingTooDeep limit

/-- The state between two characters of a message. -/
structure State where
  /-- The limit, with as many levels as tags are open. -/
  guard : DepthGuard
  offset : Nat
  mode : Mode
  /-- Text read since the last node of the innermost level. -/
  text : String
  /-- The nodes read so far at the innermost level. -/
  nodes : List Node
  /-- The open tags, innermost first. -/
  openTags : List OpenTag
  deriving DecidableEq, Repr

/-- Text as nodes: none if it is empty. -/
def textNodes (text : String) : List Node :=
  if text = "" then [] else [.text text]

namespace State

def start (limit : Int) : State where
  guard := .ofLimit limit
  offset := 0
  mode := .text
  text := ""
  nodes := []
  openTags := []

/-- The nodes of the innermost level, the text read last among them. -/
def siblings (s : State) : List Node :=
  s.nodes ++ textNodes s.text

/-- The state one character further, in a given mode. -/
def advance (s : State) (mode : Mode) : State :=
  { s with offset := s.offset + 1, mode }

def addText (s : State) (text : String) : State :=
  { s with text := s.text ++ text }

def addNode (s : State) (node : Node) : State :=
  { s with text := "", nodes := s.siblings ++ [node] }

/-- Opens a tag, unless as many are open as the limit allows. -/
def openTag (s : State) (label : String) : Except Fault State :=
  if s.guard.exceeded then
    .error (.nestingTooDeep s.guard.limit)
  else
    .ok { s with
      guard := s.guard.deeper
      text := ""
      nodes := []
      openTags := ⟨label, s.siblings⟩ :: s.openTags }

/-- Closes the innermost open tag, which must bear the same label. `position` is that of the close
    tag. -/
def closeTag (s : State) (label : String) (position : Nat) : Except Fault State :=
  match s.openTags with
  | [] => .error (.unbalancedTags (some position))
  | tag :: outer =>
    if tag.label = label then
      .ok { s with
        guard := s.guard.exit
        text := ""
        nodes := tag.before ++ [Node.ofTagLabel label s.siblings]
        openTags := outer }
    else if tag.hasAttributes then
      .error (.tagHasAttributes tag.label position)
    else
      .error (.unbalancedTags (some position))

/-- Does what a complete tag label asks for. `position` is that of the tag. -/
def applyTag (s : State) (position : Nat) : TagToken → Except Fault State
  | .opening label => s.openTag label
  | .closing label => s.closeTag label position
  | .void label => .ok (s.addNode (Node.ofVoidLabel label))

/-- The state after one more character. -/
def next (s : State) (c : Char) : Except Fault State :=
  match s.mode with
  | .text =>
    if c = Mark.tagOpen then .ok (s.advance (.tag s.offset ""))
    else if c = Mark.placeholder then .ok (s.advance (.placeholder s.offset ""))
    else .ok ((s.addText (String.singleton c)).advance .text)
  | .tag position label =>
    if c = Mark.tagOpen then .ok ((s.addText s.mode.pending).advance (.tag s.offset ""))
    else if c = Mark.tagClose then (s.advance .text).applyTag position (.ofLabel label)
    else .ok (s.advance (.tag position (label.push c)))
  | .placeholder position name =>
    if c ≠ Mark.placeholder then .ok (s.advance (.placeholder position (name.push c)))
    else if name = "" then .ok ((s.addText (String.singleton c)).advance .text)
    else .ok ((s.addNode (.placeholder name)).advance .text)

/-- The nodes of a message that ends here: markup that was never ended is text. -/
def finish (s : State) : Except Fault (List Node) :=
  if s.openTags = [] then .ok (s.addText s.mode.pending).siblings
  else .error (.unbalancedTags none)

end State

end MessageMarkup.Parser
