import MessageMarkup.Nesting
import MessageMarkup.Node
import Mathlib.Tactic.Common

/-!
# Lists of nodes

A list of nodes is taken apart at its first node: text, void tags and placeholders leave a shorter
list, a tag leaves that and what it encloses.

## Main definitions

- `Node.signatures`, `Node.texts` — kind and name of all markup, and all texts, at any depth
- `Node.rewordAll` — nodes with all texts and names changed
- `Node.fuse` — nodes followed by others, where texts that meet become one
- `DepthGuard.Admits` — a guard leaves as many levels as nodes have

## Main statements

- `Node.forest_induction` — induction over a list of nodes and what its tags enclose
- `Node.node_induction` — induction over a node and what it encloses
- `DepthGuard.admits_tag_cons_iff` — which guards admit a tag
- `DepthGuard.Admits.tag` — a guard that admits a tag can be entered, and then admits its content
-/

namespace MessageMarkup.Node

/-- Induction over a list of nodes and what its tags enclose. -/
@[elab_as_elim]
theorem forest_induction {motive : List Node → Prop} (nil : motive [])
    (text : ∀ value ns, motive ns → motive (.text value :: ns))
    (tag : ∀ name children ns, motive children → motive ns → motive (.tag name children :: ns))
    (voidTag : ∀ name ns, motive ns → motive (.voidTag name :: ns))
    (placeholder : ∀ name ns, motive ns → motive (.placeholder name :: ns)) :
    ∀ ns, motive ns
  | [] => nil
  | .text value :: ns =>
    text value ns (forest_induction nil text tag voidTag placeholder ns)
  | .tag name children :: ns =>
    tag name children ns (forest_induction nil text tag voidTag placeholder children)
      (forest_induction nil text tag voidTag placeholder ns)
  | .voidTag name :: ns =>
    voidTag name ns (forest_induction nil text tag voidTag placeholder ns)
  | .placeholder name :: ns =>
    placeholder name ns (forest_induction nil text tag voidTag placeholder ns)

/-- Induction over a node and what it encloses. -/
@[elab_as_elim]
theorem node_induction {motive : Node → Prop} (text : ∀ value, motive (.text value))
    (tag : ∀ name children, (∀ n ∈ children, motive n) → motive (.tag name children))
    (voidTag : ∀ name, motive (.voidTag name)) (placeholder : ∀ name, motive (.placeholder name))
    (n : Node) : motive n := by
  have hall : ∀ ns : List Node, ∀ n ∈ ns, motive n := by
    intro ns
    induction ns using forest_induction with
    | nil => simp
    | text value ns ih => exact List.forall_mem_cons.2 ⟨text value, ih⟩
    | tag name children ns ihChildren ih =>
      exact List.forall_mem_cons.2 ⟨tag name children ihChildren, ih⟩
    | voidTag name ns ih => exact List.forall_mem_cons.2 ⟨voidTag name, ih⟩
    | placeholder name ns ih => exact List.forall_mem_cons.2 ⟨placeholder name, ih⟩
  exact hall [n] n List.mem_cons_self

mutual

/-- Kind and name of a node, if it is markup, and of all that it encloses. -/
def signaturesIn : Node → List (Kind × String)
  | .text _ => []
  | .tag name children => (.tag, name) :: signatures children
  | .voidTag name => [(.voidTag, name)]
  | .placeholder name => [(.placeholder, name)]

/-- Kind and name of all markup in a list of nodes, at any depth. -/
def signatures : List Node → List (Kind × String)
  | [] => []
  | n :: ns => n.signaturesIn ++ signatures ns

end

theorem signatures_text (value : String) (ns : List Node) :
    signatures (.text value :: ns) = signatures ns := rfl

theorem signatures_tag (name : String) (children ns : List Node) :
    signatures (.tag name children :: ns) =
      (.tag, name) :: (signatures children ++ signatures ns) := rfl

theorem signatures_voidTag (name : String) (ns : List Node) :
    signatures (.voidTag name :: ns) = (.voidTag, name) :: signatures ns := rfl

theorem signatures_placeholder (name : String) (ns : List Node) :
    signatures (.placeholder name :: ns) = (.placeholder, name) :: signatures ns := rfl

@[simp]
theorem signatures_append (as bs : List Node) :
    signatures (as ++ bs) = signatures as ++ signatures bs := by
  induction as with
  | nil => rfl
  | cons a as ih => simp [signatures, ih]

mutual

/-- The texts in a node and in all that it encloses. -/
def textsIn : Node → List String
  | .text value => [value]
  | .tag _ children => texts children
  | .voidTag _ | .placeholder _ => []

/-- The texts in a list of nodes, at any depth. -/
def texts : List Node → List String
  | [] => []
  | n :: ns => n.textsIn ++ texts ns

end

theorem texts_text (value : String) (ns : List Node) :
    texts (.text value :: ns) = value :: texts ns := rfl

theorem texts_tag (name : String) (children ns : List Node) :
    texts (.tag name children :: ns) = texts children ++ texts ns := rfl

mutual

/-- A node with every text and name in it changed. -/
def reword (f : String → String) : Node → Node
  | .text value => .text (f value)
  | .tag name children => .tag (f name) (rewordAll f children)
  | .voidTag name => .voidTag (f name)
  | .placeholder name => .placeholder (f name)

/-- Nodes with every text and name in them changed. -/
def rewordAll (f : String → String) : List Node → List Node
  | [] => []
  | n :: ns => n.reword f :: rewordAll f ns

end

theorem depthOf_rewordAll (f : String → String) (ns : List Node) :
    depthOf (rewordAll f ns) = depthOf ns := by
  induction ns using forest_induction with
  | nil => rfl
  | text _ _ ih | voidTag _ _ ih | placeholder _ _ ih =>
    simp [rewordAll, reword, depthOf, depth, ih]
  | tag _ _ _ ihChildren ih => simp [rewordAll, reword, depthOf, depth, ihChildren, ih]

/-- Changed names are names of the same kinds. -/
theorem signatures_rewordAll (f : String → String) (ns : List Node) :
    signatures (rewordAll f ns) = (signatures ns).map (Prod.map id f) := by
  induction ns using forest_induction with
  | nil => rfl
  | text _ _ ih => simpa [rewordAll, reword, signatures_text] using ih
  | tag _ _ _ ihChildren ih => simp [rewordAll, reword, signatures_tag, ihChildren, ih]
  | voidTag _ _ ih => simp [rewordAll, reword, signatures_voidTag, ih]
  | placeholder _ _ ih => simp [rewordAll, reword, signatures_placeholder, ih]

/-- Nodes followed by others. A text that ends the first ones makes one text with a text that begins
    the others. -/
def fuse : List Node → List Node → List Node
  | [], back => back
  | [.text value], .text other :: back => .text (value ++ other) :: back
  | n :: front, back => n :: fuse front back

/-- Where no texts meet, a node stays as it is. -/
theorem fuse_cons {n : Node} {front back : List Node}
    (h : n.isMarkup = true ∨ front ≠ [] ∨ ∀ m ∈ back.head?, m.isMarkup = true) :
    fuse (n :: front) back = n :: fuse front back := by
  rw [fuse]
  rintro value other rest rfl rfl rfl
  simp [isMarkup, signature?] at h

theorem depthOf_fuse (front back : List Node) :
    depthOf (fuse front back) = max (depthOf front) (depthOf back) := by
  fun_induction fuse front back with
  | case1 back => simp [depthOf]
  | case2 value other back => simp [depthOf, depth]
  | case3 n front back _ ih => simp [depthOf, ih, Nat.max_assoc]

end MessageMarkup.Node

namespace MessageMarkup.DepthGuard

open Node

/-- The guard leaves as many levels as nodes have. Where it leaves none at all, nodes without tags
    are still admitted. -/
def Admits (g : DepthGuard) (ns : List Node) : Prop :=
  g.level + depthOf ns ≤ max g.level g.limit

theorem admits_ofLimit {limit : Int} {ns : List Node} :
    (ofLimit limit).Admits ns ↔ (depthOf ns : Int) ≤ max 0 (Nesting.clamp limit) := by
  simp [Admits, ofLimit]

instance (g : DepthGuard) (ns : List Node) : Decidable (g.Admits ns) :=
  inferInstanceAs (Decidable (_ ≤ _))

theorem admits_nil (g : DepthGuard) : g.Admits [] := by
  simp only [Admits, depthOf]
  omega

theorem admits_cons_of_depth_eq_zero {n : Node} (h : n.depth = 0) {g : DepthGuard}
    {ns : List Node} : g.Admits (n :: ns) ↔ g.Admits ns := by
  simp [Admits, depthOf, h]

/-- A guard admits a tag if it leaves one more level and then admits what the tag encloses. -/
theorem admits_tag_cons_iff {g : DepthGuard} {name : String} {children ns : List Node} :
    g.Admits (.tag name children :: ns) ↔
      g.level < g.limit ∧ g.deeper.Admits children ∧ g.Admits ns := by
  simp only [Admits, depthOf, depth, deeper]
  omega

theorem Admits.tail {g : DepthGuard} {n : Node} {ns : List Node} (h : g.Admits (n :: ns)) :
    g.Admits ns := by
  simp only [Admits, depthOf] at h ⊢
  omega

theorem Admits.tag {g : DepthGuard} {name : String} {children ns : List Node}
    (h : g.Admits (.tag name children :: ns)) :
    g.enter = .ok g.deeper ∧ g.deeper.Admits children := by
  obtain ⟨hroom, hchildren, _⟩ := admits_tag_cons_iff.1 h
  exact ⟨enter_eq_ok hroom, hchildren⟩

end MessageMarkup.DepthGuard
