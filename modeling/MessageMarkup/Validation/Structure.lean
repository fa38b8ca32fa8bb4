import MessageMarkup.Nesting
import MessageMarkup.Node

/-!
# Comparing structures

Two messages have the same structure if they have the same tags and placeholders, nested the same
way. Text counts for nothing, and siblings may stand in any order as long as those of one kind and
name keep theirs.

## Main definitions

- `Structure.takeFirst?` — the first node of a signature, and the others
- `Structure.same` — whether two lists of nodes have the same structure

## Design notes

Each node takes the first node of its signature that is still unmatched, and no other is tried.
A pair that differs inside ends the comparison.
-/

namespace MessageMarkup.Structure

/-- The first node of a signature, and the nodes without it. -/
def takeFirst? (signature : Node.Kind × String) : List Node → Option (Node × List Node)
  | [] => none
  | n :: ns =>
    if n.signature? = some signature then some (n, ns)
    else (takeFirst? signature ns).map fun found => (found.1, n :: found.2)

mutual

/-- Whether two nodes of one signature have the same structure inside. -/
def sameInside (guard : DepthGuard) : Node → Node → Except Failure Bool
  | .tag _ children, .tag _ others => do
    let inner ← guard.enter
    if (children.filter Node.isMarkup).length ≠ (others.filter Node.isMarkup).length then
      return false
    else
      pairUp inner children (others.filter Node.isMarkup)
  | _, _ => .ok true

/-- Whether each node that is not text has a partner of the same structure among `unmatched`. -/
def pairUp (guard : DepthGuard) : List Node → (unmatched : List Node) → Except Failure Bool
  | [], _ => .ok true
  | n :: ns, unmatched =>
    match n.signature? with
    | none => pairUp guard ns unmatched
    | some signature =>
      match takeFirst? signature unmatched with
      | none => .ok false
      | some (partner, others) => do
        if ← sameInside guard n partner then pairUp guard ns others else return false

end

/-- Whether two lists of nodes have the same structure, below a depth guard. -/
def same (guard : DepthGuard) (base target : List Node) : Except Failure Bool :=
  if (base.filter Node.isMarkup).length ≠ (target.filter Node.isMarkup).length then .ok false
  else pairUp guard base (target.filter Node.isMarkup)

end MessageMarkup.Structure
