import Mathlib.Data.List.Basic
import MessageMarkup.Proofs.Acceptance
import MessageMarkup.Proofs.Shape
import MessageMarkup.Proofs.Writing

/-!
# From nodes to a message and back

Nodes in canonical shape are read back from the message that they are written as. Tokens stand
between the two: what is written is cut into the tokens it was written with, and these spell the
nodes.

## Main statements

- `Token.lexes_written` — what nodes are written as is cut into their tokens
- `Token.spells_ofNodes` — the tokens of canonical nodes spell these
- `parse_print_of_canonical` — canonical nodes are read back from their message
-/

namespace MessageMarkup

open Node

namespace Token

theorem ofText_true {cs : List Char} (h : '>' ∉ cs) : ofText true cs = cs.map literal := by
  induction cs with
  | nil => rfl
  | cons c cs ih =>
    rw [List.mem_cons, not_or] at h
    have hc : ¬ c = '>' := fun h' => h.1 h'.symm
    simp [ofText, hc, ih h.2]

/-- A `<` is text with all that follows it, if no `>` comes before the next `<`. -/
theorem lexes_fragment {cs rest : List Char} {ts : List Token} (hcs : '>' ∉ cs)
    (hrest : ∀ c ∈ rest.head?, c = '<') (h : Lexes rest ts) :
    Lexes ('<' :: (cs ++ rest)) (('<' :: cs).map literal ++ ts) := by
  -- The label that the `<` begins grows with each character, up to the next `<`.
  suffices hlabel : ∀ label : List Char, '<' ∉ label → '>' ∉ label →
      Lexes ('<' :: (label ++ (cs ++ rest))) (('<' :: (label ++ cs)).map literal ++ ts) by
    exact hlabel [] (by simp) (by simp)
  induction cs with
  | nil =>
    intro label hopen hclose
    simpa using Lexes.stray hopen hclose hrest h
  | cons c cs ih =>
    intro label hopen hclose
    rw [List.mem_cons, not_or] at hcs
    by_cases hc : c = '<'
    · subst hc
      have hnext : Lexes ('<' :: (cs ++ rest)) (('<' :: cs).map literal ++ ts) :=
        ih hcs.2 [] (by simp) (by simp)
      simpa using Lexes.stray hopen hclose (by simp) hnext
    · have hopen' : '<' ∉ label ++ [c] := by simp [hopen, Ne.symm hc]
      have hclose' : '>' ∉ label ++ [c] := by simp [hclose, hcs.1]
      simpa using ih hcs.2 (label ++ [c]) hopen' hclose'

/-- A text is cut into the tokens it is written with, if it holds no tag and does not run into
    what follows. -/
theorem lexes_ofText {cs rest : List Char} {ts : List Token} (hflat : ¬ HoldsTag cs)
    (hrest : '<' ∈ cs → ∀ c ∈ rest.head?, c = '<') (h : Lexes rest ts) :
    Lexes ((ofText false cs).flatMap source ++ rest) (ofText false cs ++ ts) := by
  induction cs with
  | nil => exact h
  | cons c cs ih =>
    by_cases hopen : c = '<'
    · subst hopen
      have hcs : '>' ∉ cs := by simpa [HoldsTag] using hflat
      have := lexes_fragment hcs (hrest (by simp)) h
      simpa [ofText, ofText_true hcs, source, flatMap_source_literal] using this
    · have hflat' : ¬ HoldsTag cs := by simpa [HoldsTag, hopen] using hflat
      have hnext := ih hflat' fun hmem => hrest (by simp [hmem])
      by_cases hpercent : c = '%'
      · subst hpercent
        have : Lexes ('%' :: ([] ++ '%' :: _)) (ofName [] :: _) := .named (by simp) hnext
        simpa [ofText, ofName, source] using this
      · simpa [ofText, hopen, hpercent, source] using Lexes.plain hpercent hopen hnext

/-- A text with a `<` in it is followed by markup that begins with one, or by nothing. -/
theorem head?_written_append {value : String} {ns : List Node} {rest : List Char}
    (hnext : ∀ m ∈ ns.head?, (Node.text value).MayPrecede m)
    (hrest : ns = [] → '<' ∈ value.toList → ∀ c ∈ rest.head?, c = '<')
    (hopen : '<' ∈ value.toList) :
    ∀ c ∈ (written ns ++ rest).head?, c = '<' := by
  cases ns with
  | nil => simpa using hrest rfl hopen
  | cons n ns =>
    have hn := hnext n rfl
    cases n with
    | text _ => exact absurd hn id
    | placeholder _ => exact absurd hopen hn
    | tag _ _ | voidTag _ => simp

/-- What nodes are written as is cut into their tokens, if their last text does not run into what
    follows. -/
theorem lexes_written {ns : List Node} (hspaced : Spaced false ns)
    (hnames : ∀ s ∈ signatures ns, IsName s.1 s.2) {rest : List Char} {ts : List Token}
    (hrest : ∀ value, ns.getLast? = some (.text value) → '<' ∈ value.toList →
      ∀ c ∈ rest.head?, c = '<')
    (h : Lexes rest ts) : Lexes (written ns ++ rest) (ofNodes ns ++ ts) := by
  -- What follows is general, since inside a tag it is the close tag and all that comes after.
  induction ns using forest_induction generalizing rest ts with
  | nil => exact h
  | text value ns ih =>
    obtain ⟨_, hflat, hnext, hspaced⟩ := spaced_cons.1 hspaced
    have hflat : ¬ HoldsTag value.toList := by simpa [Flat] using hflat
    have hwritten := ih hspaced hnames (fun w hw => hrest w (by simp [List.getLast?_cons, hw])) h
    have hhead := head?_written_append hnext (fun hns => hrest value (by simp [hns]))
    simpa [ofNodes, ofNode, ← flatMap_source_ofText] using lexes_ofText hflat hhead hwritten
  | tag name children ns ihChildren ih =>
    obtain ⟨hspacedChildren, _, _, hspaced⟩ := spaced_cons.1 hspaced
    rw [signatures_tag, List.forall_mem_cons, List.forall_mem_append] at hnames
    obtain ⟨⟨_, hopen, hclose⟩, hnamesChildren, hnames⟩ := hnames
    have hwritten := ih hspaced hnames (fun w hw => hrest w (by simp [List.getLast?_cons, hw])) h
    have hclosing : Lexes ('<' :: ('/' :: name.toList ++ '>' :: (written ns ++ rest)))
        (ofLabel ('/' :: name.toList) :: (ofNodes ns ++ ts)) :=
      .tag (by simp [hopen]) (by simp [hclose]) hwritten
    have hinner := ihChildren hspacedChildren hnamesChildren (by simp) hclosing
    simpa [ofNodes, ofNode] using Lexes.tag hopen hclose hinner
  | voidTag name ns ih =>
    obtain ⟨_, _, _, hspaced⟩ := spaced_cons.1 hspaced
    rw [signatures_voidTag, List.forall_mem_cons] at hnames
    obtain ⟨⟨_, hopen, hclose⟩, hnames⟩ := hnames
    have hwritten := ih hspaced hnames (fun w hw => hrest w (by simp [List.getLast?_cons, hw])) h
    have : Lexes ('<' :: ((name.toList ++ ['/']) ++ '>' :: (written ns ++ rest)))
        (ofLabel (name.toList ++ ['/']) :: (ofNodes ns ++ ts)) :=
      .tag (by simp [hopen]) (by simp [hclose]) hwritten
    simpa [ofNodes, ofNode] using this
  | placeholder name ns ih =>
    obtain ⟨_, _, _, hspaced⟩ := spaced_cons.1 hspaced
    rw [signatures_placeholder, List.forall_mem_cons] at hnames
    obtain ⟨⟨_, hname⟩, hnames⟩ := hnames
    have hwritten := ih hspaced hnames (fun w hw => hrest w (by simp [List.getLast?_cons, hw])) h
    simpa [ofNodes, ofNode] using Lexes.named hname hwritten

theorem ofName_toList {name : String} (h : name ≠ "") :
    ofName name.toList = placeholder name.toList := by
  simpa [ofName] using h

/-- The tokens of nodes begin with markup if the nodes do. -/
theorem isText_head?_ofNodes {ns : List Node} (hnames : ∀ s ∈ signatures ns, IsName s.1 s.2)
    (hns : ∀ n ∈ ns.head?, ∀ value, n ≠ .text value) :
    ∀ t ∈ (ofNodes ns).head?, t.isText = false := by
  cases ns with
  | nil => simp [ofNodes]
  | cons n ns =>
    cases n with
    | text value => exact absurd rfl (hns _ rfl value)
    | tag name children => simp [ofNodes, ofNode, isText_ofLabel]
    | voidTag name => simp [ofNodes, ofNode, isText_ofLabel]
    | placeholder name =>
      rw [signatures_placeholder, List.forall_mem_cons] at hnames
      simp [ofNodes, ofNode, ofName_toList hnames.1.1, isText]

/-- The tokens of canonical nodes spell these. -/
theorem spells_ofNodes {ns : List Node} (hspaced : Spaced false ns)
    (hnames : ∀ s ∈ signatures ns, IsName s.1 s.2)
    (hreads : ∀ s ∈ signatures ns, ReadsBack s.1 s.2) :
    Spells (ofNodes ns) ns := by
  induction ns using forest_induction with
  | nil => exact .nil
  | text value ns ih =>
    obtain ⟨hne, _, hnext, hspaced⟩ := spaced_cons.1 hspaced
    have hrun : ofText false value.toList ≠ [] := by
      intro h
      have := flatMap_text_ofText false value.toList
      rw [h] at this
      exact hne (String.toList_inj.1 this.symm)
    have hhead : ∀ t ∈ (ofNodes ns).head?, t.isText = false := by
      refine isText_head?_ofNodes hnames fun n hn w hw => ?_
      subst hw
      exact hnext _ hn
    have := Spells.text hrun isText_of_mem_ofText hhead (ih hspaced hnames hreads)
    rwa [flatMap_text_ofText, String.ofList_toList] at this
  | tag name children ns ihChildren ih =>
    obtain ⟨hspacedChildren, _, _, hspaced⟩ := spaced_cons.1 hspaced
    rw [signatures_tag, List.forall_mem_cons, List.forall_mem_append] at hnames hreads
    obtain ⟨⟨htrim, _⟩, hnamesChildren, hnames⟩ := hnames
    obtain ⟨⟨hhead, hlast⟩, hreadsChildren, hreads⟩ := hreads
    have hinner := ihChildren hspacedChildren hnamesChildren hreadsChildren
    have := @Spells.tag name.toList _ _ _ _ hinner (ih hspaced hnames hreads)
    rw [String.ofList_toList, htrim] at this
    simpa [ofNodes, ofNode, ofLabel_opening hhead hlast, ofLabel_slash_cons] using this
  | voidTag name ns ih =>
    obtain ⟨_, _, _, hspaced⟩ := spaced_cons.1 hspaced
    rw [signatures_voidTag, List.forall_mem_cons] at hnames hreads
    obtain ⟨⟨htrim, _⟩, hnames⟩ := hnames
    obtain ⟨⟨hne, hhead⟩, hreads⟩ := hreads
    have hslash : (name.toList ++ ['/']).head? ≠ some '/' := by
      rwa [List.head?_append_of_ne_nil _ (by simpa using hne)]
    have := @Spells.void name.toList _ _ (ih hspaced hnames hreads)
    rw [String.ofList_toList, htrim] at this
    simpa [ofNodes, ofNode, ofLabel_append_slash hslash] using this
  | placeholder name ns ih =>
    obtain ⟨_, _, _, hspaced⟩ := spaced_cons.1 hspaced
    rw [signatures_placeholder, List.forall_mem_cons] at hnames hreads
    have := @Spells.placeholder name.toList _ _ (ih hspaced hnames.2 hreads.2)
    rw [String.ofList_toList] at this
    simpa [ofNodes, ofNode, ofName_toList hnames.1.1] using this

end Token

/-- Canonical nodes that are no deeper than the limit allows are read back from their message. -/
theorem parse_written {limit : Int} {nodes : List Node} (h : Canonical nodes)
    (hdepth : (depthOf nodes : Int) ≤ max 0 (Nesting.clamp limit)) :
    parse limit (String.ofList (written nodes)) = .ok nodes := by
  have hlex : Token.Lexes (written nodes) (Token.ofNodes nodes) := by
    simpa using Token.lexes_written h.1 (fun s hs => (h.2 s hs).1) (by simp) .nil
  rw [parse_eq_ok_iff, String.toList_ofList, Token.lex_eq_of_lexes hlex]
  exact ⟨Token.spells_ofNodes h.1 (fun s hs => (h.2 s hs).1) (fun s hs => (h.2 s hs).2), hdepth⟩

/-- Canonical nodes that are no deeper than the limit allows are written as a message, and are read
    back from it. -/
theorem parse_print_of_canonical {nodes : List Node} (h : Canonical nodes) {limit : Int}
    (hdepth : (depthOf nodes : Int) ≤ max 0 (min limit 475)) :
    ∃ source, print limit nodes = .ok source ∧ parse limit source = .ok nodes :=
  ⟨_, print_eq_ok hdepth, parse_written h hdepth⟩

/-- Percent signs, a `<` that is text in front of a tag's end, and a placeholder with a `<` in its
    name, at the limit. -/
theorem parse_print_of_canonical_nested :
    let nodes : List Node :=
      [.text "5% ", .tag "b" [.text "100%", .placeholder "<n>", .text "<x%"], .voidTag "br"]
    (Canonical nodes ∧ (depthOf nodes : Int) ≤ max 0 (min 1 475)) ∧
      ∃ source, print 1 nodes = .ok source ∧ parse 1 source = .ok nodes :=
  ⟨⟨by decide, by decide⟩, parse_print_of_canonical (by decide) (by decide)⟩

end MessageMarkup
