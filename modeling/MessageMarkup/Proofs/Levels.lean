import Mathlib.Data.List.Infix
import MessageMarkup.Proofs.Parsed

/-!
# The levels of what is parsed

The nodes of a message stand at levels: one is the message itself, and each tag encloses a further
one. Whatever is parsed keeps to the same rules at every level, but for a last text of the message,
which may hold a tag.

## Main definitions

- `Node.IsLevel` — the siblings at one level of nodes
- `Node.WellFormed` — what siblings keep to

## Main statements

- `Node.Spaced.wellFormed` — spaced siblings whose names have the right form are well formed
- `wellFormed_of_parse` — parsed nodes are well formed at every level
-/

namespace MessageMarkup

namespace Node

/-- The siblings at one level of nodes: the nodes themselves, or what some tag encloses. -/
inductive IsLevel (nodes : List Node) : List Node → Prop
  | top : IsLevel nodes nodes
  | inside {level children : List Node} {name : String} :
      IsLevel nodes level → .tag name children ∈ level → IsLevel nodes children

/-- What siblings keep to: no text is empty or stands next to another one, no placeholder stands
    behind a text with a `<`, labels give trimmed names without the marks of tags, and the name of
    a placeholder is not empty and holds no percent sign. -/
structure WellFormed (level : List Node) : Prop where
  text_ne_empty : .text "" ∉ level
  texts_apart : ∀ value other, ¬ [.text value, .text other] <:+: level
  before_placeholder : ∀ value name, [.text value, .placeholder name] <:+: level →
    '<' ∉ value.toList
  tag_name : ∀ name children, .tag name children ∈ level → IsLabelName name
  void_name : ∀ name, .voidTag name ∈ level → IsLabelName name
  placeholder_name : ∀ name, .placeholder name ∈ level → name ≠ "" ∧ '%' ∉ name.toList

theorem Spaced.of_append {unended : Bool} {front ns : List Node}
    (h : Spaced unended (front ++ ns)) : Spaced unended ns := by
  induction front with
  | nil => exact h
  | cons n front ih => exact ih (spaced_cons.1 h).2.2.2

theorem Spaced.inside_of_mem {unended : Bool} {n : Node} {ns : List Node} (h : Spaced unended ns)
    (hn : n ∈ ns) : n.SpacedInside := by
  obtain ⟨front, back, rfl⟩ := List.append_of_mem hn
  exact (spaced_cons.1 h.of_append).1

/-- Neighbours among spaced nodes may be such. -/
theorem Spaced.mayPrecede {unended : Bool} {m n : Node} {ns : List Node} (h : Spaced unended ns)
    (hpair : [m, n] <:+: ns) : m.MayPrecede n := by
  obtain ⟨front, back, rfl⟩ := hpair
  rw [List.append_assoc] at h
  exact (spaced_cons.1 h.of_append).2.2.1 n rfl

/-- What stands in a list of nodes has its markup among that of the list. -/
theorem signatures_of_mem {n : Node} {ns : List Node} (hn : n ∈ ns) :
    ∀ s ∈ n.signaturesIn, s ∈ signatures ns := by
  intro s hs
  obtain ⟨front, back, rfl⟩ := List.append_of_mem hn
  rw [signatures_append, signatures]
  simp [hs]

/-- The markup of a level is markup of the nodes. -/
theorem IsLevel.signatures_subset {nodes level : List Node} (h : IsLevel nodes level) :
    ∀ s ∈ signatures level, s ∈ signatures nodes := by
  induction h with
  | top => exact fun _ hs => hs
  | inside _ hmem ih =>
    intro s hs
    apply ih
    apply signatures_of_mem hmem
    exact List.mem_cons_of_mem _ hs

/-- Every level of spaced nodes is spaced, and no text holds a tag at any but the top. -/
theorem IsLevel.spaced {nodes level : List Node} (h : IsLevel nodes level)
    (hspaced : Spaced true nodes) :
    ∃ unended, Spaced unended level ∧ (unended = true → level = nodes) := by
  induction h with
  | top => exact ⟨true, hspaced, fun _ => rfl⟩
  | inside _ hmem ih =>
    obtain ⟨unended, hlevel, _⟩ := ih
    exact ⟨false, hlevel.inside_of_mem hmem, by simp⟩

theorem Spaced.wellFormed {unended : Bool} {level : List Node} (h : Spaced unended level)
    (hnames : ∀ s ∈ signatures level, IsName s.1 s.2) : WellFormed level where
  text_ne_empty hmem := h.inside_of_mem hmem rfl
  texts_apart _ _ hpair := h.mayPrecede hpair
  before_placeholder _ _ hpair := h.mayPrecede hpair
  tag_name name _ hmem := hnames (.tag, name) (signatures_of_mem hmem _ List.mem_cons_self)
  void_name name hmem := hnames (.voidTag, name) (signatures_of_mem hmem _ List.mem_cons_self)
  placeholder_name name hmem :=
    hnames (.placeholder, name) (signatures_of_mem hmem _ List.mem_cons_self)

end Node

open Node

/-- Parsed nodes are well formed at every level, and no deeper than the limit allows. Only the last
    text of the message may hold a tag. -/
theorem wellFormed_of_parse {limit : Int} {source : String} {nodes : List Node}
    (h : parse limit source = .ok nodes) :
    (∀ level, IsLevel nodes level → WellFormed level ∧
        ∀ front value back, level = front ++ .text value :: back → HoldsTag value.toList →
          level = nodes ∧ back = []) ∧
      (depthOf nodes : Int) ≤ max 0 (min limit 475) := by
  obtain ⟨hspaced, hnames⟩ := spaced_of_parse h
  refine ⟨fun level hlevel => ?_, (parse_eq_ok_iff.1 h).2⟩
  obtain ⟨unended, hspaced, htop⟩ := hlevel.spaced hspaced
  refine ⟨hspaced.wellFormed fun s hs => hnames s (hlevel.signatures_subset s hs), ?_⟩
  rintro front value back rfl hholds
  obtain hflat | ⟨hunended, hback⟩ := (spaced_cons.1 hspaced.of_append).2.1
  · exact absurd hholds hflat
  · exact ⟨htop hunended, hback⟩

/-- A message whose last text holds a tag, with a label that is trimmed and a `<` that is text. -/
theorem wellFormed_of_parse_unended :
    let nodes := [Node.tag "p" [.text "1 < 2 ", .voidTag "br"], .placeholder "n", .text "%<b>"]
    parse 1 "<p >1 < 2 < br/></p >%n%%<b>" = .ok nodes ∧
      WellFormed nodes ∧ WellFormed [.text "1 < 2 ", .voidTag "br"] ∧ HoldsTag "%<b>".toList ∧
      (∀ front value back, nodes = front ++ .text value :: back → HoldsTag value.toList → back = []) ∧
      (depthOf nodes : Int) ≤ max 0 (min 1 475) := by
  intro nodes
  have hparse : parse 1 "<p >1 < 2 < br/></p >%n%%<b>" = .ok nodes := by decide +kernel
  obtain ⟨hlevels, hdepth⟩ := wellFormed_of_parse hparse
  obtain ⟨htop, hlast⟩ := hlevels nodes .top
  have hinside : IsLevel nodes [.text "1 < 2 ", .voidTag "br"] := .inside .top List.mem_cons_self
  refine ⟨hparse, htop, (hlevels _ hinside).1, by decide, ?_, hdepth⟩
  intro front value back hsplit hholds
  exact (hlast front value back hsplit hholds).2

end MessageMarkup
