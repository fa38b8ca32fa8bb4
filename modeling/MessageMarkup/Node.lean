import MessageMarkup.Text.Blank

/-!
# Message nodes

A parsed message is a list of nodes. Text stands for itself, a paired tag encloses further nodes,
a void tag and a placeholder each stand for one value.

## Main definitions

- `Node` — the four kinds of node
- `Node.ofTagLabel`, `Node.ofVoidLabel` — nodes named by a label as written, which is trimmed
- `Node.signature?` — kind and name of a node that is not text
- `Node.depth`, `Node.depthOf` — the longest chain of nested tags

## Design notes

`Node` is a nested inductive, so every walk is a pair of functions, one on nodes and one on lists
of nodes, that call each other by structural recursion. Equality is decided by such a pair.
-/

namespace MessageMarkup

/-- One node of a parsed message. -/
inductive Node where
  | text (value : String)
  /-- A paired tag and what it encloses. -/
  | tag (name : String) (children : List Node)
  /-- A tag that encloses nothing. -/
  | voidTag (name : String)
  /-- A value to be put in by name. -/
  | placeholder (name : String)
  deriving Repr, Inhabited

namespace Node

mutual

def decideEq : (a b : Node) → Decidable (a = b)
  | .text v, .text w => decidable_of_iff (v = w) (by simp)
  | .tag m as, .tag n bs =>
    match decideEqList as bs with
    | isTrue h => decidable_of_iff (m = n) (by simp [h])
    | isFalse h => isFalse (by simp [h])
  | .voidTag m, .voidTag n => decidable_of_iff (m = n) (by simp)
  | .placeholder m, .placeholder n => decidable_of_iff (m = n) (by simp)
  | .text _, .tag _ _ | .text _, .voidTag _ | .text _, .placeholder _
  | .tag _ _, .text _ | .tag _ _, .voidTag _ | .tag _ _, .placeholder _
  | .voidTag _, .text _ | .voidTag _, .tag _ _ | .voidTag _, .placeholder _
  | .placeholder _, .text _ | .placeholder _, .tag _ _ | .placeholder _, .voidTag _ =>
    isFalse (by simp)

def decideEqList : (as bs : List Node) → Decidable (as = bs)
  | [], [] => isTrue rfl
  | [], _ :: _ | _ :: _, [] => isFalse (by simp)
  | a :: as, b :: bs =>
    match decideEq a b, decideEqList as bs with
    | isTrue h, isTrue hs => isTrue (by rw [h, hs])
    | isFalse h, _ => isFalse (by simp [h])
    | _, isFalse hs => isFalse (by simp [hs])

end

instance : DecidableEq Node := decideEq

/-- The paired tag that a label names: the label without its outer blanks. -/
def ofTagLabel (label : String) (children : List Node) : Node :=
  .tag (Text.trim label) children

/-- The void tag that a label names: the label without its outer blanks. -/
def ofVoidLabel (label : String) : Node :=
  .voidTag (Text.trim label)

/-- The kinds of node that are not text. -/
inductive Kind where
  | tag
  | voidTag
  | placeholder
  deriving DecidableEq, Repr

/-- Kind and name of a node; text has neither. -/
def signature? : Node → Option (Kind × String)
  | .text _ => none
  | .tag name _ => some (.tag, name)
  | .voidTag name => some (.voidTag, name)
  | .placeholder name => some (.placeholder, name)

/-- Whether a node is anything but text. -/
def isMarkup (n : Node) : Bool :=
  n.signature?.isSome

mutual

/-- The largest number of tags on a path down from a node, the node itself included. -/
def depth : Node → Nat
  | .tag _ children => depthOf children + 1
  | .text _ | .voidTag _ | .placeholder _ => 0

/-- The largest number of tags on a path down from one of the nodes. -/
def depthOf : List Node → Nat
  | [] => 0
  | n :: ns => max n.depth (depthOf ns)

end

@[simp]
theorem depthOf_append (as bs : List Node) : depthOf (as ++ bs) = max (depthOf as) (depthOf bs) := by
  induction as with
  | nil => simp [depthOf]
  | cons a as ih => simp [depthOf, ih, Nat.max_assoc]

end Node

end MessageMarkup
