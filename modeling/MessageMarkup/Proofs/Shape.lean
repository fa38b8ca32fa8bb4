import MessageMarkup.Proofs.Forest

/-!
# The shape of parsed nodes

Not every list of nodes is what some message is read as. Texts are as long as they can be and hold
no tag, and names are trimmed and hold no mark that would end them.

## Main definitions

- `Node.HoldsTag` — a text holds a tag: a `>` behind a `<`
- `Node.Spaced` — texts are as a message gives them, at every level
- `Node.IsLabelName`, `Node.IsName` — names as a message gives them
- `Node.Canonical` — nodes that a message gives back as they are

## Design notes

The last text of a message may stand for markup that was never ended, and then it may hold a tag.
`Node.Spaced` has a flag for that.
-/

namespace MessageMarkup.Node

/-- A text holds a `>` behind its first `<`. -/
def HoldsTag (text : List Char) : Prop :=
  '>' ∈ text.dropWhile (· ≠ '<')

/-- A node is not a text that holds a tag. -/
def Flat : Node → Prop
  | .text value => ¬ HoldsTag value.toList
  | .tag _ _ | .voidTag _ | .placeholder _ => True

/-- Two nodes may be neighbours: of two texts there would be one, and after a `<` that is text no
    placeholder is read. -/
def MayPrecede : Node → Node → Prop
  | .text _, .text _ => False
  | .text value, .placeholder _ => '<' ∉ value.toList
  | .text _, .tag _ _ | .text _, .voidTag _ => True
  | .tag _ _, _ | .voidTag _, _ | .placeholder _, _ => True

mutual

/-- A text is not empty, and what a tag encloses is as it should be. -/
def SpacedInside : Node → Prop
  | .text value => value ≠ ""
  | .tag _ children => Spaced false children
  | .voidTag _ | .placeholder _ => True

/-- At every level no text is empty or holds a tag, and neighbours may be such. With `unended` the
    last text may hold a tag. -/
def Spaced (unended : Bool) : List Node → Prop
  | [] => True
  | n :: ns =>
    n.SpacedInside ∧ (n.Flat ∨ unended = true ∧ ns = []) ∧ (∀ m ∈ ns.head?, n.MayPrecede m) ∧
      Spaced unended ns

end

/-- A name that a label gives: it is trimmed and holds no mark of a tag. -/
def IsLabelName (name : String) : Prop :=
  Text.trim name = name ∧ '<' ∉ name.toList ∧ '>' ∉ name.toList

/-- A name as a message gives it to markup of some kind. -/
def IsName : Kind → String → Prop
  | .tag, name | .voidTag, name => IsLabelName name
  | .placeholder, name => name ≠ "" ∧ '%' ∉ name.toList

/-- A name that is read back as it is written. -/
def ReadsBack : Kind → String → Prop
  | .tag, name => name.toList.head? ≠ some '/' ∧ name.toList.getLast? ≠ some '/'
  | .voidTag, name => name ≠ "" ∧ name.toList.head? ≠ some '/'
  | .placeholder, _ => True

/-- At every level no text is empty, no two texts are neighbours, a text with a `<` holds no `>`
    behind it and no placeholder follows it; names are trimmed, hold no mark that would end them,
    and have no slash where it would change the kind of their tag. -/
def Canonical (nodes : List Node) : Prop :=
  Spaced false nodes ∧ ∀ s ∈ signatures nodes, IsName s.1 s.2 ∧ ReadsBack s.1 s.2

instance (text : List Char) : Decidable (HoldsTag text) :=
  inferInstanceAs (Decidable (_ ∈ _))

instance : DecidablePred Flat
  | .text _ => inferInstanceAs (Decidable (¬ _))
  | .tag _ _ | .voidTag _ | .placeholder _ => isTrue trivial

instance : (m n : Node) → Decidable (m.MayPrecede n)
  | .text _, .text _ => isFalse id
  | .text _, .placeholder _ => inferInstanceAs (Decidable (¬ _))
  | .text _, .tag _ _ | .text _, .voidTag _ => isTrue trivial
  | .tag _ _, _ | .voidTag _, _ | .placeholder _, _ => isTrue trivial

mutual

/-- Decides whether a node is as it should be inside. -/
def decidableSpacedInside : (n : Node) → Decidable n.SpacedInside
  | .text value => inferInstanceAs (Decidable (value ≠ ""))
  | .tag _ children => decidableSpaced false children
  | .voidTag _ | .placeholder _ => isTrue trivial

/-- Decides whether texts are as a message gives them. -/
def decidableSpaced (unended : Bool) : (ns : List Node) → Decidable (Spaced unended ns)
  | [] => isTrue trivial
  | n :: ns =>
    have := decidableSpacedInside n
    have := decidableSpaced unended ns
    inferInstanceAs (Decidable (_ ∧ (_ ∨ _ ∧ _) ∧ (∀ m ∈ ns.head?, n.MayPrecede m) ∧ _))

end

instance (unended : Bool) (ns : List Node) : Decidable (Spaced unended ns) :=
  decidableSpaced unended ns

instance (name : String) : Decidable (IsLabelName name) :=
  inferInstanceAs (Decidable (_ ∧ _))

instance : (kind : Kind) → (name : String) → Decidable (IsName kind name)
  | .tag, name | .voidTag, name => inferInstanceAs (Decidable (IsLabelName name))
  | .placeholder, _ => inferInstanceAs (Decidable (_ ∧ _))

instance : (kind : Kind) → (name : String) → Decidable (ReadsBack kind name)
  | .tag, _ | .voidTag, _ => inferInstanceAs (Decidable (_ ∧ _))
  | .placeholder, _ => isTrue trivial

instance (nodes : List Node) : Decidable (Canonical nodes) :=
  inferInstanceAs (Decidable (_ ∧ _))

theorem spaced_cons {unended : Bool} {n : Node} {ns : List Node} :
    Spaced unended (n :: ns) ↔
      n.SpacedInside ∧ (n.Flat ∨ unended = true ∧ ns = []) ∧ (∀ m ∈ ns.head?, n.MayPrecede m) ∧
        Spaced unended ns := by
  rw [Spaced]

/-- If the last text holds no tag, no text does. -/
theorem Spaced.of_last {ns : List Node} (h : Spaced true ns)
    (hlast : ∀ value, ns.getLast? = some (.text value) → ¬ HoldsTag value.toList) :
    Spaced false ns := by
  induction ns with
  | nil => trivial
  | cons n ns ih =>
    obtain ⟨hinside, hflat, hnext, hspaced⟩ := spaced_cons.1 h
    have hflat' : n.Flat := by
      obtain hflat | ⟨_, rfl⟩ := hflat
      · exact hflat
      · cases n with
        | text value => exact hlast value rfl
        | tag _ _ | voidTag _ | placeholder _ => trivial
    refine spaced_cons.2 ⟨hinside, .inl hflat', hnext, ih hspaced fun value hvalue => ?_⟩
    exact hlast value (by simp [List.getLast?_cons, hvalue])

/-- In front of the last text no text holds a tag, and the node before it is no text. -/
theorem Spaced.of_append_text {ns : List Node} {value : String}
    (h : Spaced true (ns ++ [.text value])) :
    Spaced false ns ∧ ∀ n ∈ ns.getLast?, n.MayPrecede (.text value) := by
  induction ns with
  | nil => exact ⟨trivial, by simp⟩
  | cons n ns ih =>
    obtain ⟨hinside, hflat, hnext, hspaced⟩ := spaced_cons.1 h
    obtain ⟨hns, hlast⟩ := ih hspaced
    have hflat' : n.Flat := hflat.resolve_right (by simp)
    constructor
    · refine spaced_cons.2 ⟨hinside, .inl hflat', fun m hm => hnext m ?_, hns⟩
      simp [List.head?_append, Option.mem_def.1 hm]
    · intro m hm
      cases ns with
      | nil =>
        obtain rfl : n = m := by simpa using hm
        exact hnext _ rfl
      | cons n' ns => exact hlast m (by simpa [List.getLast?_cons] using hm)

end MessageMarkup.Node
