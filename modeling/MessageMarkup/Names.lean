import MessageMarkup.Parser
import MessageMarkup.Plural.Forms

/-!
# The names in a message

Which values a message asks for, by the kind of node that asks.

## Main definitions

- `Names` — the names of placeholders, of tags and of void tags
- `Names.ofNodes`, `Names.ofMessage` — the names in nodes, and in all forms of a message
- `Names.Requires` — whether a name is among them
- `sortedNames` — each of several names once, in order of their characters
-/

namespace MessageMarkup

/-- The names that nodes ask values for, as often as they do. -/
structure Names where
  placeholders : List String
  tags : List String
  voidTags : List String
  deriving DecidableEq, Repr

/-- Each of several names once, in the order of their code points. -/
def sortedNames (names : List String) : List String :=
  (names.mergeSort fun a b => decide (a ≤ b)).eraseDups

namespace Names

def empty : Names :=
  ⟨[], [], []⟩

def append (a b : Names) : Names :=
  ⟨a.placeholders ++ b.placeholders, a.tags ++ b.tags, a.voidTags ++ b.voidTags⟩

instance : Append Names := ⟨append⟩

def all (n : Names) : List String :=
  n.placeholders ++ n.tags ++ n.voidTags

/-- Some node asks for a value of this name. -/
def Requires (n : Names) (name : String) : Prop :=
  name ∈ n.placeholders ∨ name ∈ n.tags ∨ name ∈ n.voidTags

instance (n : Names) (name : String) : Decidable (n.Requires name) :=
  inferInstanceAs (Decidable (_ ∨ _ ∨ _))

mutual

def ofNode (guard : DepthGuard) : Node → Except Failure Names
  | .text _ => .ok empty
  | .tag name children => do
    let inner ← collect (← guard.enter) children
    return ⟨[], [name], []⟩ ++ inner
  | .voidTag name => .ok ⟨[], [], [name]⟩
  | .placeholder name => .ok ⟨[name], [], []⟩

/-- The names in nodes below a depth guard. -/
def collect (guard : DepthGuard) : List Node → Except Failure Names
  | [] => .ok empty
  | n :: ns => do
    let first ← ofNode guard n
    let rest ← collect guard ns
    return first ++ rest

end

/-- The names in nodes whose tags nest no deeper than `limit`. -/
def ofNodes (limit : Int) (nodes : List Node) : Except Failure Names :=
  collect (.ofLimit limit) nodes

/-- The names in several messages, read one after the other. -/
def ofForms (limit : Int) : List String → Except Failure Names
  | [] => .ok empty
  | form :: forms => do
    let first ← ofNodes limit (← parse limit form)
    let rest ← ofForms limit forms
    return first ++ rest

/-- The names in a message, or in all its forms if it is a plural one. -/
def ofMessage (limit : Int) (message : String) : Except Failure Names :=
  ofForms limit (if Plural.isPlural message then Plural.forms message else [message])

end Names

end MessageMarkup
