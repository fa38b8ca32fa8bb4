import MessageMarkup.Printer
import MessageMarkup.Proofs.Forest
import MessageMarkup.Proofs.Outcome
import MessageMarkup.Proofs.Token

/-!
# Writing token by token

The printer writes characters. What it writes are the sources of tokens, and these tokens can be
read off the nodes.

## Main definitions

- `Token.ofText` — the tokens that a text is written with
- `Token.ofNodes` — the tokens that nodes are written with

## Main statements

- `print_eq_ok` — printing succeeds on nodes that the limit allows, and writes their tokens
-/

namespace MessageMarkup

open Outcome

namespace Token

/-- The tokens that a text is written with. The flag says whether a `<` without its `>` stands
    before. -/
def ofText (afterOpen : Bool) : List Char → List Token
  | [] => []
  | c :: cs =>
    (if c = '%' ∧ afterOpen = false then percent else literal c) ::
      ofText (if c = '<' then true else if c = '>' then false else afterOpen) cs

mutual

/-- The tokens that a node is written with. -/
def ofNode : Node → List Token
  | .text value => ofText false value.toList
  | .tag name children =>
    ofLabel name.toList :: (ofNodes children ++ [ofLabel ('/' :: name.toList)])
  | .voidTag name => [ofLabel (name.toList ++ ['/'])]
  | .placeholder name => [ofName name.toList]

/-- The tokens that nodes are written with. -/
def ofNodes : List Node → List Token
  | [] => []
  | n :: ns => ofNode n ++ ofNodes ns

end

theorem ofNodes_append (as bs : List Node) : ofNodes (as ++ bs) = ofNodes as ++ ofNodes bs := by
  induction as with
  | nil => rfl
  | cons a as ih => simp [ofNodes, ih]

theorem flatMap_source_ofText (afterOpen : Bool) (cs : List Char) :
    (ofText afterOpen cs).flatMap source = Printer.escape afterOpen cs := by
  induction cs generalizing afterOpen with
  | nil => rfl
  | cons c cs ih =>
    rw [ofText, List.flatMap_cons, ih, Printer.escape]
    by_cases hopen : c = '<'
    · simp [hopen, source, Mark.tagOpen]
    by_cases hclose : c = '>'
    · simp [hclose, source, Mark.tagOpen, Mark.tagClose]
    by_cases hpercent : c = '%' ∧ afterOpen = false
    · simp [hpercent, source, Mark.tagOpen, Mark.tagClose, Mark.placeholder]
    · simp [hopen, hclose, hpercent, source, Mark.tagOpen, Mark.tagClose, Mark.placeholder]

/-- The text of the tokens that a text is written with is the text itself. -/
theorem flatMap_text_ofText (afterOpen : Bool) (cs : List Char) :
    (ofText afterOpen cs).flatMap text = cs := by
  induction cs generalizing afterOpen with
  | nil => rfl
  | cons c cs ih =>
    rw [ofText, List.flatMap_cons, ih]
    by_cases hpercent : c = '%' ∧ afterOpen = false
    · simp [hpercent, text]
    · simp [hpercent, text]

theorem isText_of_mem_ofText {afterOpen : Bool} {cs : List Char} :
    ∀ t ∈ ofText afterOpen cs, t.isText = true := by
  induction cs generalizing afterOpen with
  | nil => simp [ofText]
  | cons c cs ih =>
    intro t ht
    rw [ofText, List.mem_cons] at ht
    obtain rfl | ht := ht
    · split <;> rfl
    · exact ih t ht

end Token

namespace Node

/-- The characters that nodes are written with. -/
def written (nodes : List Node) : List Char :=
  (Token.ofNodes nodes).flatMap Token.source

@[simp]
theorem written_nil : written [] = [] := rfl

@[simp]
theorem written_append (as bs : List Node) : written (as ++ bs) = written as ++ written bs := by
  simp [written, Token.ofNodes_append]

@[simp]
theorem written_text (value : String) (ns : List Node) :
    written (.text value :: ns) = Printer.escape false value.toList ++ written ns := by
  simp [written, Token.ofNodes, Token.ofNode, Token.flatMap_source_ofText]

@[simp]
theorem written_tag (name : String) (children ns : List Node) :
    written (.tag name children :: ns) =
      '<' :: (name.toList ++ '>' :: (written children ++
        '<' :: ('/' :: name.toList ++ '>' :: written ns))) := by
  simp [written, Token.ofNodes, Token.ofNode, Token.source_ofLabel]

@[simp]
theorem written_voidTag (name : String) (ns : List Node) :
    written (.voidTag name :: ns) = '<' :: ((name.toList ++ ['/']) ++ '>' :: written ns) := by
  simp [written, Token.ofNodes, Token.ofNode, Token.source_ofLabel]

@[simp]
theorem written_placeholder (name : String) (ns : List Node) :
    written (.placeholder name :: ns) = '%' :: (name.toList ++ '%' :: written ns) := by
  simp [written, Token.ofNodes, Token.ofNode, Token.source_ofName]

theorem ofList_written_text (value : String) (ns : List Node) :
    String.ofList (written (.text value :: ns)) =
      Printer.escapeText value ++ String.ofList (written ns) := by
  rw [written_text, String.ofList_append]
  rfl

theorem ofList_written_tag (name : String) (children ns : List Node) :
    String.ofList (written (.tag name children :: ns)) =
      Mark.tag name ++ String.ofList (written children) ++ Mark.closingTag name ++
        String.ofList (written ns) := by
  apply String.toList_inj.1
  simp

theorem ofList_written_voidTag (name : String) (ns : List Node) :
    String.ofList (written (.voidTag name :: ns)) =
      Mark.voidTag name ++ String.ofList (written ns) := by
  apply String.toList_inj.1
  simp

theorem ofList_written_placeholder (name : String) (ns : List Node) :
    String.ofList (written (.placeholder name :: ns)) =
      Mark.named name ++ String.ofList (written ns) := by
  apply String.toList_inj.1
  simp

end Node

namespace Printer

theorem nodes_cons {guard : DepthGuard} {n : Node} {ns : List Node} {first rest : String}
    (hfirst : node guard n = .ok first) (hrest : nodes guard ns = .ok rest) :
    nodes guard (n :: ns) = .ok (first ++ rest) := by
  rw [nodes, hfirst, ok_bind, hrest, ok_bind]
  rfl

/-- Below a guard that leaves as many levels as nodes have, the printer writes their tokens. -/
theorem nodes_eq_ok {ns : List Node} {guard : DepthGuard}
    (h : guard.level + Node.depthOf ns ≤ max guard.level guard.limit) :
    nodes guard ns = .ok (String.ofList (Node.written ns)) := by
  induction ns using Node.forest_induction generalizing guard with
  | nil => rfl
  | text value ns ih =>
    have hns : guard.level + Node.depthOf ns ≤ max guard.level guard.limit := by
      simpa [Node.depthOf, Node.depth] using h
    rw [nodes_cons rfl (ih hns), Node.ofList_written_text]
  | tag name children ns ihChildren ih =>
    simp only [Node.depthOf, Node.depth] at h
    have hinner : guard.deeper.level + Node.depthOf children ≤
        max guard.deeper.level guard.deeper.limit := by
      simp only [DepthGuard.deeper]
      omega
    have henter : guard.enter = .ok guard.deeper := DepthGuard.enter_eq_ok (by omega)
    have htag : node guard (.tag name children) =
        .ok (Mark.tag name ++ String.ofList (Node.written children) ++ Mark.closingTag name) := by
      rw [node, henter, ok_bind, ihChildren hinner, ok_bind]
      rfl
    rw [nodes_cons htag (ih (by omega)), Node.ofList_written_tag]
  | voidTag name ns ih =>
    have hns : guard.level + Node.depthOf ns ≤ max guard.level guard.limit := by
      simpa [Node.depthOf, Node.depth] using h
    rw [nodes_cons rfl (ih hns), Node.ofList_written_voidTag]
  | placeholder name ns ih =>
    have hns : guard.level + Node.depthOf ns ≤ max guard.level guard.limit := by
      simpa [Node.depthOf, Node.depth] using h
    rw [nodes_cons rfl (ih hns), Node.ofList_written_placeholder]

end Printer

/-- Nodes that are no deeper than the limit allows can be printed, and are written as their
    tokens. -/
theorem print_eq_ok {limit : Int} {nodes : List Node}
    (h : (Node.depthOf nodes : Int) ≤ max 0 (Nesting.clamp limit)) :
    print limit nodes = .ok (String.ofList (Node.written nodes)) :=
  Printer.nodes_eq_ok (by simpa [DepthGuard.ofLimit] using h)

end MessageMarkup
