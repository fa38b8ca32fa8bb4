import MessageMarkup.Proofs.Formatting
import MessageMarkup.Proofs.Writing

/-!
# Values that are markup

Formatting puts values in the place of markup. If every value is the markup that it takes the place
of, as it is written in a message, then formatting nodes is writing them.

## Main definitions

- `Formatter.markupValue`, `Formatter.markupValues` — markup as the value of its own name

## Main statements

- `Table.get?_putAll_of_forall` — a name has the one value that its entries agree on
- `Formatter.writesItself` — the chunks of nodes, joined, are what the nodes are written as
- `Formatter.print_eq_format` — formatting nodes with their own markup writes them
-/

namespace MessageMarkup

open Node Outcome

/-- A name has a value after several are set, if all its entries have that value and there is one,
    or if it had the value before. -/
theorem Table.get?_putAll_of_forall {α : Type} {t : Table α} {entries : List (String × α)}
    {key : String} {value : α} (hsame : ∀ e ∈ entries, e.1 = key → e.2 = value)
    (hkey : t.get? key = some value ∨ key ∈ entries.map Prod.fst) :
    (t.putAll entries).get? key = some value := by
  induction entries generalizing t with
  | nil => simpa [putAll] using hkey
  | cons e es ih =>
    obtain ⟨he, hes⟩ := List.forall_mem_cons.1 hsame
    apply ih hes
    rw [get?_put]
    by_cases hk : key = e.1
    · left
      rw [if_pos hk, he hk.symm]
    · rw [if_neg hk]
      simpa [hk] using hkey

/-- A text without percent signs is written as it is. -/
theorem Printer.escape_eq_self {cs : List Char} (h : '%' ∉ cs) (afterOpen : Bool) :
    escape afterOpen cs = cs := by
  induction cs generalizing afterOpen with
  | nil => rfl
  | cons c cs ih =>
    rw [List.mem_cons, not_or] at h
    have hc : ¬ (c = '%' ∧ afterOpen = false) := fun hc => h.1 hc.1.symm
    simp only [escape, Mark.placeholder, hc, if_false, ih h.2, ite_self]

theorem Printer.escapeText_eq_self {text : String} (h : '%' ∉ text.toList) :
    escapeText text = text := by
  rw [escapeText, escape_eq_self h, String.ofList_toList]

theorem Join.concat_cons (c : Chunk) {cs : List Chunk} {s : String} (h : concat cs = .text s) :
    concat (c :: cs) = .text (c.toText ++ s) := by
  obtain rfl := Chunk.text.inj h
  simp [concat]

namespace Formatter

/-- The value that makes of markup what it is written as: of a tag a function that puts its content
    between an open and a close tag, of a void tag or a placeholder a text. -/
def markupValue : Kind × String → Value
  | (.tag, name) => .function (.wrap (Mark.tag name) (Mark.closingTag name))
  | (.voidTag, name) => .text (Mark.voidTag name)
  | (.placeholder, name) => .text (Mark.named name)

/-- The table that gives the names in nodes their markup as values. -/
def markupValues (nodes : List Node) : Table Value :=
  .ofList ((signatures nodes).map fun s => (s.2, markupValue s))

/-- Where no name is that of two kinds of markup, each has its own markup as its value. -/
theorem get?_markupValues {nodes : List Node}
    (hnames : ∀ s ∈ signatures nodes, ∀ t ∈ signatures nodes, s.2 = t.2 → s.1 = t.1)
    {s : Kind × String} (hs : s ∈ signatures nodes) :
    (markupValues nodes).get? s.2 = some (markupValue s) := by
  refine Table.get?_putAll_of_forall ?_ (.inr ?_)
  · rw [List.forall_mem_map]
    intro t ht hname
    obtain rfl : t = s := Prod.ext (hnames t ht s hs hname) hname
    rfl
  · rw [List.map_map]
    exact List.mem_map.2 ⟨s, hs, rfl⟩

/-- The chunks of nodes, joined, are what the nodes are written as. -/
def WritesItself (values : Table Prepared) (guard : DepthGuard) (ns : List Node) : Prop :=
  ∃ cs, chunks .concat values guard ns = .ok cs ∧
    Join.concat cs = .text (String.ofList (written ns))

theorem WritesItself.cons {values : Table Prepared} {guard : DepthGuard} {n : Node}
    {ns : List Node} (h : WritesItself values guard ns) {s : String}
    (hchunk : chunk .concat values guard n = .ok (.text s))
    (hwritten : String.ofList (written (n :: ns)) = s ++ String.ofList (written ns)) :
    WritesItself values guard (n :: ns) := by
  obtain ⟨cs, hcs, hjoined⟩ := h
  refine ⟨.text s :: cs, ?_, ?_⟩
  · rw [chunks, hchunk, ok_bind, hcs]
    rfl
  · rw [Join.concat_cons _ hjoined, hwritten]
    rfl

/-- Below a guard that admits them, nodes without percent signs in their texts write themselves if
    every value is its own markup. -/
theorem writesItself {values : Table Prepared} {ns : List Node} {guard : DepthGuard}
    (h : guard.Admits ns) (htexts : ∀ value ∈ texts ns, '%' ∉ value.toList)
    (hvalues : ∀ s ∈ signatures ns, values.get? s.2 = (markupValue s).prepare?) :
    WritesItself values guard ns := by
  induction ns using forest_induction generalizing guard with
  | nil => exact ⟨[], rfl, rfl⟩
  | text value ns ih =>
    rw [texts_text, List.forall_mem_cons] at htexts
    refine (ih h.tail htexts.2 hvalues).cons rfl ?_
    rw [ofList_written_text, Printer.escapeText_eq_self htexts.1]
  | tag name children ns ihChildren ih =>
    obtain ⟨henter, hadmits⟩ := h.tag
    rw [texts_tag, List.forall_mem_append] at htexts
    rw [signatures_tag, List.forall_mem_cons, List.forall_mem_append] at hvalues
    obtain ⟨hname, hvaluesChildren, hvalues⟩ := hvalues
    obtain ⟨inner, hinner, hjoined⟩ := ihChildren hadmits htexts.1 hvaluesChildren
    refine (ih h.tail htexts.2 hvalues).cons ?_ (ofList_written_tag name children ns)
    -- The function of the name is handed the content that is already joined.
    rw [chunk, henter, ok_bind, hinner, ok_bind, renderTag, hname]
    simp [markupValue, Value.prepare?, Renderer.wrap, Renderer.plain, hjoined, Chunk.toText]
  | voidTag name ns ih =>
    obtain ⟨hname, hvalues⟩ := List.forall_mem_cons.1 hvalues
    refine (ih h.tail htexts hvalues).cons ?_ (ofList_written_voidTag name ns)
    rw [chunk, renderName, hname]
    rfl
  | placeholder name ns ih =>
    obtain ⟨hname, hvalues⟩ := List.forall_mem_cons.1 hvalues
    refine (ih h.tail htexts hvalues).cons ?_ (ofList_written_placeholder name ns)
    rw [chunk, renderName, hname]
    rfl

/-- Nodes that a formatter of texts and the printer both allow, with no percent sign in a text and
    no name for two kinds of markup, are formatted with their own markup as values to what they are
    written as. Defaults do not matter, also not for the names that have one. -/
theorem print_eq_format (f : Formatter) (hjoin : f.join = .concat) {limit : Int}
    {nodes : List Node} (hdepth : (depthOf nodes : Int) ≤ max 0 (min (min f.limit limit) 475))
    (htexts : ∀ value ∈ texts nodes, '%' ∉ value.toList)
    (hnames : ∀ s ∈ signatures nodes, ∀ t ∈ signatures nodes, s.2 = t.2 → s.1 = t.1) :
    ∃ source cs, print limit nodes = .ok source ∧
      f.formatNodes nodes (markupValues nodes) = .ok cs ∧ f.join cs = .text source := by
  have hprint : print limit nodes = .ok (String.ofList (written nodes)) := by
    apply print_eq_ok
    rw [Nesting.clamp_eq_min, Nesting.largestLimit]
    omega
  have hadmits : (DepthGuard.ofLimit f.limit).Admits nodes := by
    rw [DepthGuard.admits_ofLimit, Nesting.clamp_eq_min, Nesting.largestLimit]
    omega
  have hvalues : ∀ s ∈ signatures nodes,
      (f.effective (markupValues nodes)).get? s.2 = (markupValue s).prepare? := by
    rintro ⟨kind, name⟩ hs
    rw [get?_effective, get?_markupValues hnames hs]
    cases kind <;> rfl
  obtain ⟨cs, hcs, hjoined⟩ := writesItself hadmits htexts hvalues
  rw [formatNodes, hjoin]
  exact ⟨_, cs, hprint, hcs, hjoined⟩

/-- Tags within tags, an empty tag, an open tag's mark in a text, and three names that have a
    default value, one of them that of a placeholder. -/
theorem print_eq_format_standard :
    let nodes : List Node := [.text "x<", .tag "b" [],
      .tag "q" [.tag "i" [.text "y"], .voidTag "br"], .placeholder "s"]
    (depthOf nodes : Int) ≤ max 0 (min (min standard.limit 2) 475) ∧
      (∀ value ∈ texts nodes, '%' ∉ value.toList) ∧
      (∀ s ∈ signatures nodes, ∀ t ∈ signatures nodes, s.2 = t.2 → s.1 = t.1) ∧
      ∃ cs, standard.formatNodes nodes (markupValues nodes) = .ok cs ∧
        standard.join cs = .text "x<<b></b><q><i>y</i><br/></q>%s%" := by
  intro nodes
  have hdepth : (depthOf nodes : Int) ≤ max 0 (min (min standard.limit 2) 475) := by
    decide +kernel
  have htexts : ∀ value ∈ texts nodes, '%' ∉ value.toList := by decide +kernel
  have hnames : ∀ s ∈ signatures nodes, ∀ t ∈ signatures nodes, s.2 = t.2 → s.1 = t.1 := by
    decide +kernel
  have hprint : print 2 nodes = .ok "x<<b></b><q><i>y</i><br/></q>%s%" := by decide +kernel
  obtain ⟨source, cs, hsource, hcs, hjoin⟩ := print_eq_format standard rfl hdepth htexts hnames
  obtain rfl := Except.ok.inj (hsource.symm.trans hprint)
  exact ⟨hdepth, htexts, hnames, cs, hcs, hjoin⟩

end Formatter

end MessageMarkup
