import MessageMarkup.Proofs.Acceptance

/-!
# The parser on one stack

The open tags can be kept on one stack together with the nodes inside them: an entry is a tag that
waits for its close tag, or a node that waits for the tag around it. Nodes outside all tags go to the
result. To close a tag is to pop entries down to the tag. What has been read of a tag or placeholder is
held in a buffer of its own, and the place where it begins is remembered, so that it can be put back
into the text as the message has it.

## Main definitions

- `Entry`, `Machine` — an entry of the stack, and the state of a parser that keeps one
- `Machine.emit`, `Machine.openTag`, `Machine.closeTag` — what is done to the stack
- `Machine.next`, `Machine.finish` — one more character, and the end of the message
- `Machine.Step` — what one character does, by what has been begun
- `Machine.after` — the state after a part of a message
- `Machine.toState` — the same state with the nodes of each level kept apart

## Main statements

- `unwind_eq_some` — what is popped for a close tag is one level
- `Machine.toState_emit`, `Machine.toState_applyTag` — what is done to the stack is done to the levels
-/

namespace MessageMarkup.Parser

open Outcome

/-- What the next character belongs to. -/
inductive Phase where
  | text
  | tag
  | placeholder
  deriving DecidableEq, Repr

/-- What waits on the stack. -/
inductive Entry where
  /-- An open tag, by its label as written. -/
  | pending (label : String)
  /-- A node inside an open tag. -/
  | done (node : Node)
  deriving DecidableEq, Repr

def Entry.isPending : Entry → Bool
  | .pending _ => true
  | .done _ => false

/-- The state of a parser with one stack. -/
structure Machine where
  guard : DepthGuard
  offset : Nat
  phase : Phase
  /-- Open tags and the nodes inside them, the last one first. -/
  stack : List Entry
  /-- The nodes outside all tags. -/
  result : List Node
  text : String
  label : String
  name : String
  /-- Where the last `<` or `%` stands that ended a text. -/
  switched : Nat
  deriving DecidableEq, Repr

/-- Pops the nodes that wait inside the innermost open tag, and this tag: the nodes in front of the
    children known, the label of the tag, and what is left. -/
def unwind (children : List Node) : List Entry → Option (List Node × String × List Entry)
  | [] => none
  | .done node :: stack => unwind (node :: children) stack
  | .pending label :: stack => some (children, label, stack)

namespace Machine

def start (limit : Int) : Machine where
  guard := .ofLimit limit
  offset := 0
  phase := .text
  stack := []
  result := []
  text := ""
  label := ""
  name := ""
  switched := 0

/-- How many tags are open. -/
def openCount (m : Machine) : Nat :=
  m.stack.countP Entry.isPending

/-- Adds a node to the innermost open tag, or to the result if no tag is open. -/
def emit (m : Machine) (node : Node) : Machine :=
  if m.stack = [] then { m with result := m.result ++ [node] }
  else { m with stack := .done node :: m.stack }

/-- Makes a node of the text read last, if there is any. -/
def flushText (m : Machine) : Machine :=
  if m.text = "" then m else { m.emit (.text m.text) with text := "" }

/-- Pushes a tag that has been opened, unless as many are open as the limit allows. -/
def openTag (m : Machine) (label : String) : Except Fault Machine :=
  if m.guard.exceeded then .error (.nestingTooDeep m.guard.limit)
  else .ok { m with guard := m.guard.deeper, stack := .pending label :: m.stack }

/-- Pops the innermost open tag, which must bear the same label, and adds it as a node. -/
def closeTag (m : Machine) (label : String) : Except Fault Machine :=
  match unwind (textNodes m.text) m.stack with
  | none => .error (.unbalancedTags (some m.switched))
  | some (children, innermost, outer) =>
    if innermost = label then
      .ok ({ m with guard := m.guard.exit, text := "", stack := outer }.emit
        (Node.ofTagLabel label children))
    else if ' ' ∈ innermost.toList then .error (.tagHasAttributes innermost m.switched)
    else .error (.unbalancedTags (some m.switched))

/-- Does what a complete tag label asks for. -/
def applyTag (m : Machine) : TagToken → Except Fault Machine
  | .opening label => m.flushText.openTag label
  | .closing label => m.closeTag label
  | .void label => .ok (m.flushText.emit (Node.ofVoidLabel label))

/-- The state after one more character of a message. -/
def next (source : List Char) (m : Machine) (c : Char) : Except Fault Machine :=
  let ahead := { m with offset := m.offset + 1 }
  match m.phase with
  | .text =>
    if c = Mark.tagOpen then .ok { ahead with phase := .tag, switched := m.offset }
    else if c = Mark.placeholder then .ok { ahead with phase := .placeholder, switched := m.offset }
    else .ok { ahead with text := m.text.push c }
  | .tag =>
    if c = Mark.tagOpen then
      .ok { ahead with
        text := m.text ++ String.ofList (source.extract m.switched m.offset)
        label := ""
        switched := m.offset }
    else if c = Mark.tagClose then
      { ahead with phase := .text, label := "" }.applyTag (.ofLabel m.label)
    else .ok { ahead with label := m.label.push c }
  | .placeholder =>
    if c ≠ Mark.placeholder then .ok { ahead with name := m.name.push c }
    else if m.offset - m.switched = 1 then .ok { ahead with phase := .text, text := m.text.push c }
    else .ok ({ ahead with phase := .text, name := "" }.flushText.emit (.placeholder m.name))

/-- What one character does, where it can be read. -/
inductive Step (source : List Char) (m : Machine) : Char → Machine → Prop
  | beginTag : m.phase = .text →
      Step source m Mark.tagOpen
        { m with offset := m.offset + 1, phase := .tag, switched := m.offset }
  | beginName : m.phase = .text →
      Step source m Mark.placeholder
        { m with offset := m.offset + 1, phase := .placeholder, switched := m.offset }
  | plain {c : Char} : m.phase = .text →
      Step source m c { m with offset := m.offset + 1, text := m.text.push c }
  | beginAgain : m.phase = .tag →
      Step source m Mark.tagOpen
        { m with
          offset := m.offset + 1
          text := m.text ++ String.ofList (source.extract m.switched m.offset)
          label := ""
          switched := m.offset }
  | endTag {m' : Machine} : m.phase = .tag →
      { m with offset := m.offset + 1, phase := .text, label := "" }.applyTag (.ofLabel m.label) =
        .ok m' →
      Step source m Mark.tagClose m'
  | label {c : Char} : m.phase = .tag →
      Step source m c { m with offset := m.offset + 1, label := m.label.push c }
  | name {c : Char} : m.phase = .placeholder →
      Step source m c { m with offset := m.offset + 1, name := m.name.push c }
  | percent : m.phase = .placeholder → m.offset - m.switched = 1 →
      Step source m Mark.placeholder
        { m with offset := m.offset + 1, phase := .text, text := m.text.push Mark.placeholder }
  | endName : m.phase = .placeholder →
      Step source m Mark.placeholder
        ({ m with offset := m.offset + 1, phase := .text, name := "" }.flushText.emit
          (.placeholder m.name))

theorem step_of_next {source : List Char} {m m' : Machine} {c : Char}
    (h : m.next source c = .ok m') : Step source m c m' := by
  simp only [next] at h
  split at h
  · next hphase =>
    split at h
    · next hc =>
      subst hc
      cases h
      exact .beginTag hphase
    · split at h
      · next hc =>
        subst hc
        cases h
        exact .beginName hphase
      · cases h
        exact .plain hphase
  · next hphase =>
    split at h
    · next hc =>
      subst hc
      cases h
      exact .beginAgain hphase
    · split at h
      · next hc =>
        subst hc
        exact .endTag hphase h
      · cases h
        exact .label hphase
  · next hphase =>
    split at h
    · cases h
      exact .name hphase
    · next hc =>
      obtain rfl := not_not.1 hc
      split at h
      · next hescape =>
        cases h
        exact .percent hphase hescape
      · cases h
        exact .endName hphase

/-- The nodes of a message that ends here. -/
def finish (source : List Char) (m : Machine) : Except Fault (List Node) :=
  if m.stack ≠ [] then .error (.unbalancedTags none)
  else if m.phase = .text then .ok (m.result ++ textNodes m.text)
  else .ok (m.result ++ textNodes (m.text ++ String.ofList (source.drop m.switched)))

/-- The state after a part of a message has been read. -/
def after (limit : Int) (source read : List Char) : Except Fault Machine :=
  read.foldlM (next source) (start limit)

/-- The nodes of a message. -/
def run (limit : Int) (source : List Char) : Except Fault (List Node) :=
  after limit source source >>= finish source

end Machine

/-- The nodes at the level of the innermost open tag, and the open tags, each with the nodes in front
    of it. -/
def levels (result : List Node) : List Entry → List Node × List OpenTag
  | [] => (result, [])
  | .done node :: stack => ((levels result stack).1 ++ [node], (levels result stack).2)
  | .pending label :: stack =>
    ([], ⟨label, (levels result stack).1⟩ :: (levels result stack).2)

theorem unwind_eq_none {children : List Node} {stack : List Entry} (h : unwind children stack = none)
    (result : List Node) : (levels result stack).2 = [] := by
  induction stack generalizing children with
  | nil => rfl
  | cons entry stack ih =>
    cases entry with
    | done node => exact ih h
    | pending label => cases h

/-- What is popped are the nodes of the innermost level, and the innermost open tag. -/
theorem unwind_eq_some {children children' : List Node} {label : String} {stack outer : List Entry}
    (h : unwind children stack = some (children', label, outer)) (result : List Node) :
    children' = (levels result stack).1 ++ children ∧
      (levels result stack).2 = ⟨label, (levels result outer).1⟩ :: (levels result outer).2 := by
  induction stack generalizing children with
  | nil => cases h
  | cons entry stack ih =>
    cases entry with
    | done node =>
      obtain ⟨hchildren, htags⟩ := ih h
      refine ⟨?_, htags⟩
      rw [hchildren, levels, List.append_assoc]
      rfl
    | pending opened =>
      cases h
      exact ⟨rfl, rfl⟩

namespace Machine

def mode (m : Machine) : Mode :=
  match m.phase with
  | .text => .text
  | .tag => .tag m.switched m.label
  | .placeholder => .placeholder m.switched m.name

/-- The same state with the nodes of each level kept apart. -/
def toState (m : Machine) : State where
  guard := m.guard
  offset := m.offset
  mode := m.mode
  text := m.text
  nodes := (levels m.result m.stack).1
  openTags := (levels m.result m.stack).2

theorem toState_emit (m : Machine) (node : Node) :
    (m.emit node).toState = { m.toState with nodes := m.toState.nodes ++ [node] } := by
  unfold emit
  split
  · next hstack => simp [toState, mode, hstack, levels]
  · rfl

theorem toState_flushText (m : Machine) :
    m.flushText.toState = { m.toState with text := "", nodes := m.toState.siblings } := by
  unfold flushText
  split
  · next htext => simp [toState, mode, State.siblings, textNodes, htext]
  · next htext =>
    have hsiblings : m.toState.siblings = m.toState.nodes ++ [.text m.text] := by
      simp [State.siblings, textNodes, toState, htext]
    have hemit := toState_emit m (.text m.text)
    rw [← hsiblings] at hemit
    exact congrArg (fun s : State => { s with text := "" }) hemit

/-- A node behind text is a node behind the text's node. -/
theorem toState_flushText_emit (m : Machine) (node : Node) :
    (m.flushText.emit node).toState = m.toState.addNode node := by
  rw [toState_emit, toState_flushText]
  rfl

theorem guard_flushText (m : Machine) : m.flushText.guard = m.guard :=
  congrArg State.guard (toState_flushText m)

/-- A tag that is pushed begins a level of its own. -/
theorem toState_push (m : Machine) (label : String) :
    toState { m with guard := m.guard.deeper, stack := .pending label :: m.stack } =
      { m.toState with
        guard := m.toState.guard.deeper
        nodes := []
        openTags := ⟨label, m.toState.nodes⟩ :: m.toState.openTags } := rfl

theorem toState_openTag (m : Machine) (label : String) :
    (m.flushText.openTag label).map toState = m.toState.openTag label := by
  have hguard : m.toState.guard = m.guard := rfl
  rw [openTag, State.openTag, guard_flushText, hguard]
  split
  · rfl
  · have hpush := toState_push m.flushText label
    rw [guard_flushText, toState_flushText] at hpush
    exact congrArg Except.ok hpush

/-- To pop down to a tag is to close the level that it encloses. -/
theorem toState_closeTag (m : Machine) (label : String) :
    (m.closeTag label).map toState = m.toState.closeTag label m.switched := by
  have htags : m.toState.openTags = (levels m.result m.stack).2 := rfl
  unfold closeTag
  split
  · next hunwind =>
    rw [State.closeTag, htags, unwind_eq_none hunwind]
    rfl
  · next children innermost outer hunwind =>
    obtain ⟨hchildren, hlevels⟩ := unwind_eq_some hunwind m.result
    rw [State.closeTag, htags, hlevels]
    subst hchildren
    dsimp only
    split
    · exact congrArg Except.ok (toState_emit _ _)
    · simp only [OpenTag.hasAttributes, decide_eq_true_eq]
      split <;> rfl

theorem toState_applyTag (m : Machine) (t : TagToken) :
    (m.applyTag t).map toState = m.toState.applyTag m.switched t := by
  cases t with
  | opening label => exact toState_openTag m label
  | closing label => exact toState_closeTag m label
  | void label => exact congrArg Except.ok (toState_flushText_emit m _)

end Machine

end MessageMarkup.Parser
