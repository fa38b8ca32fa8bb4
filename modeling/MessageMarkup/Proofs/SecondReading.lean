import Mathlib.Algebra.Order.BigOperators.Group.List
import Mathlib.Algebra.Order.Ring.Nat
import MessageMarkup.Proofs.Parsed
import MessageMarkup.Proofs.RoundTrip

/-!
# Reading again what was read

A parsed message can be written and read again, but for two things. Markup that the message does
not end may hold a tag, and that tag is read when the text is written with other percent signs. And
a void tag without a name is written as a close tag.

## Main definitions

- `IsPlainName` — a name without a space and without marks of the language
- `Weight` — a weight for each kind of markup token

## Main statements

- `Weight.sum_of_spells`, `Weight.sum_ofNodes` — what the tokens of nodes weigh, as they are read
  and as they are written
- `parse_print_of_parse_iff` — which parsed nodes are read back from their message

## Design notes

That a message is *not* read back is seen by counting. The tokens that spell nodes have as many
tags of each kind as the nodes, so it is enough that the written ones have another number of them.
-/

namespace MessageMarkup

open Node

/-- A name without a space, without a mark that begins or ends markup and without a slash. -/
def IsPlainName (name : String) : Prop :=
  ∀ c ∈ name.toList, c ≠ ' ' ∧ c ≠ '<' ∧ c ≠ '>' ∧ c ≠ '/' ∧ c ≠ '%'

instance (name : String) : Decidable (IsPlainName name) :=
  List.decidableBAll _ _

theorem IsPlainName.head?_ne_slash {name : String} (h : IsPlainName name) :
    name.toList.head? ≠ some '/' := by
  intro hhead
  exact (h _ (List.mem_of_head? hhead)).2.2.2.1 rfl

theorem IsPlainName.getLast?_ne_slash {name : String} (h : IsPlainName name) :
    name.toList.getLast? ≠ some '/' := by
  intro hlast
  exact (h _ (List.mem_of_getLast? hlast)).2.2.2.1 rfl

/-- A plain name is read back as it is written, unless it is the empty one of a void tag. -/
theorem IsPlainName.readsBack {kind : Kind} {name : String} (h : IsPlainName name)
    (hvoid : (kind, name) ≠ (.voidTag, "")) : ReadsBack kind name := by
  cases kind with
  | tag => exact ⟨h.head?_ne_slash, h.getLast?_ne_slash⟩
  | voidTag => exact ⟨fun hname => hvoid (by rw [hname]), h.head?_ne_slash⟩
  | placeholder => trivial

/-- Weights for the kinds of markup token; text weighs nothing. -/
structure Weight where
  opening : Nat
  closing : Nat
  void : Nat
  placeholder : Nat

namespace Weight

/-- The weight of a token. -/
def token (w : Weight) : Token → Nat
  | .literal _ | .percent => 0
  | .placeholder _ => w.placeholder
  | .opening _ => w.opening
  | .closing _ => w.closing
  | .void _ => w.void

/-- The weight of markup as its tokens are read. -/
def read (w : Weight) : Kind × String → Nat
  | (.tag, _) => w.opening + w.closing
  | (.voidTag, _) => w.void
  | (.placeholder, _) => w.placeholder

/-- The weight of markup as its tokens are written. -/
def written (w : Weight) : Kind × String → Nat
  | (.voidTag, name) => if name = "" then w.closing else w.void
  | s => w.read s

variable (w : Weight)

theorem sum_of_isText {run : List Token} (h : ∀ t ∈ run, t.isText = true) :
    (run.map w.token).sum = 0 := by
  refine List.sum_eq_zero fun x hx => ?_
  obtain ⟨t, ht, rfl⟩ := List.mem_map.1 hx
  cases t with
  | literal _ | percent => rfl
  | placeholder _ | opening _ | closing _ | void _ => simpa [Token.isText] using h _ ht

/-- Tokens weigh what the markup weighs that they spell. -/
theorem sum_of_spells {ts : List Token} {nodes : List Node} (h : Token.Spells ts nodes) :
    (ts.map w.token).sum = ((signatures nodes).map w.read).sum := by
  induction h with
  | nil => rfl
  | text _ hrun _ _ ih =>
    rw [List.map_append, List.sum_append, w.sum_of_isText hrun, ih, Nat.zero_add, signatures_text]
  | placeholder _ ih | void _ ih => simpa [signatures, signaturesIn, token, read] using ih
  | tag _ _ ihInner ihRest =>
    simp only [List.map_cons, List.map_append, List.sum_cons, List.sum_append, ihInner, ihRest,
      signatures_tag, token, read]
    omega

theorem token_ofLabel_slash {name : String} (h : IsPlainName name) :
    w.token (Token.ofLabel (name.toList ++ ['/'])) = w.written (.voidTag, name) := by
  by_cases hname : name = ""
  · subst hname
    rfl
  · have hslash : (name.toList ++ ['/']).head? ≠ some '/' := by
      rw [List.head?_append_of_ne_nil _ (by simpa using hname)]
      exact h.head?_ne_slash
    simp [Token.ofLabel_append_slash hslash, token, written, hname]

/-- The tokens that nodes are written with weigh what their markup weighs, but that a void tag
    without a name weighs as much as a close tag. -/
theorem sum_ofNodes {ns : List Node} (hplain : ∀ s ∈ signatures ns, IsPlainName s.2)
    (hnames : ∀ s ∈ signatures ns, IsName s.1 s.2) :
    ((Token.ofNodes ns).map w.token).sum = ((signatures ns).map w.written).sum := by
  induction ns using forest_induction with
  | nil => rfl
  | text value ns ih =>
    rw [signatures_text] at hplain hnames ⊢
    rw [Token.ofNodes, Token.ofNode, List.map_append, List.sum_append,
      w.sum_of_isText Token.isText_of_mem_ofText, ih hplain hnames, Nat.zero_add]
  | tag name children ns ihChildren ih =>
    rw [signatures_tag, List.forall_mem_cons, List.forall_mem_append] at hplain hnames
    obtain ⟨hname, hplainChildren, hplain⟩ := hplain
    obtain ⟨_, hnamesChildren, hnames⟩ := hnames
    have hlabel : w.token (Token.ofLabel name.toList) = w.opening := by
      rw [Token.ofLabel_opening hname.head?_ne_slash hname.getLast?_ne_slash, token]
    have hclosing : w.token (Token.ofLabel ('/' :: name.toList)) = w.closing := rfl
    simp only [Token.ofNodes, Token.ofNode, signatures_tag, List.cons_append, List.append_assoc,
      List.nil_append, List.map_cons, List.map_append, List.sum_cons, List.sum_append, hlabel,
      hclosing, ihChildren hplainChildren hnamesChildren, ih hplain hnames, written, read]
    omega
  | voidTag name ns ih =>
    rw [signatures_voidTag, List.forall_mem_cons] at hplain hnames
    simp only [Token.ofNodes, Token.ofNode, signatures_voidTag, List.cons_append, List.nil_append,
      List.map_cons, List.sum_cons, w.token_ofLabel_slash hplain.1, ih hplain.2 hnames.2]
  | placeholder name ns ih =>
    rw [signatures_placeholder, List.forall_mem_cons] at hplain hnames
    simp only [Token.ofNodes, Token.ofNode, signatures_placeholder, List.cons_append,
      List.nil_append, List.map_cons, List.sum_cons, Token.ofName_toList hnames.1.1,
      ih hplain.2 hnames.2, token, written, read]

end Weight

namespace Token

/-- A `<` with a `>` behind it begins a tag somewhere before that. -/
theorem exists_lexes_tag {cs rest : List Char} {ts : List Token} (hcs : '>' ∉ cs)
    (h : Lexes rest ts) :
    ∃ front label, Lexes ('<' :: (cs ++ '>' :: rest)) (front ++ ofLabel label :: ts) := by
  -- The label that the `<` begins grows with each character, up to the next `<` or the `>`.
  suffices hlabel : ∀ label : List Char, '<' ∉ label → '>' ∉ label → ∃ front label',
      Lexes ('<' :: (label ++ (cs ++ '>' :: rest))) (front ++ ofLabel label' :: ts) by
    exact hlabel [] (by simp) (by simp)
  induction cs with
  | nil =>
    intro label hopen hclose
    exact ⟨[], label, .tag hopen hclose h⟩
  | cons c cs ih =>
    intro label hopen hclose
    rw [List.mem_cons, not_or] at hcs
    by_cases hc : c = '<'
    · subst hc
      obtain ⟨front, label', hnext⟩ := ih hcs.2 [] (by simp) (by simp)
      exact ⟨('<' :: label).map literal ++ front, label',
        by simpa using Lexes.stray hopen hclose (by simp) hnext⟩
    · have hopen' : '<' ∉ label ++ [c] := by simp [hopen, Ne.symm hc]
      have hclose' : '>' ∉ label ++ [c] := by simp [hclose, hcs.1]
      simpa using ih hcs.2 (label ++ [c]) hopen' hclose'

/-- Up to the `>` of a tag percent signs are written as they are. -/
theorem escape_true_append {before : List Char} (h : '>' ∉ before) (after : List Char) :
    Printer.escape true (before ++ '>' :: after) = before ++ '>' :: Printer.escape false after := by
  induction before with
  | nil => rfl
  | cons c before ih =>
    rw [List.mem_cons, not_or] at h
    simp [Printer.escape, Mark.tagClose, Ne.symm h.1, ih h.2]

/-- A text that holds a tag is written with one. -/
theorem exists_tag_of_holdsTag {cs : List Char} (h : HoldsTag cs) :
    ∃ label, ofLabel label ∈ lex (Printer.escape false cs) := by
  induction cs with
  | nil => simp [HoldsTag] at h
  | cons c cs ih =>
    by_cases hopen : c = '<'
    · subst hopen
      have hmem : '>' ∈ cs := by simpa [HoldsTag] using h
      obtain ⟨before, after, rfl, hbefore⟩ := List.eq_append_cons_of_mem hmem
      obtain ⟨front, label, hlexes⟩ :=
        exists_lexes_tag hbefore (lexes_lex (Printer.escape false after))
      have hescape : Printer.escape false ('<' :: (before ++ '>' :: after)) =
          '<' :: (before ++ '>' :: Printer.escape false after) :=
        congrArg (List.cons '<') (escape_true_append hbefore after)
      exact ⟨label, by simp [hescape, lex_eq_of_lexes hlexes]⟩
    · have hholds : HoldsTag cs := by simpa [HoldsTag, hopen] using h
      obtain ⟨label, hlabel⟩ := ih hholds
      refine ⟨label, ?_⟩
      by_cases hpercent : c = '%'
      · subst hpercent
        have hescape : Printer.escape false ('%' :: cs) =
            '%' :: ([] ++ '%' :: Printer.escape false cs) := rfl
        rw [hescape, lex_named (by simp)]
        exact List.mem_cons_of_mem _ hlabel
      · have hescape : Printer.escape false (c :: cs) = c :: Printer.escape false cs := by
          simp [Printer.escape, Mark.tagOpen, Mark.tagClose, Mark.placeholder, hopen, hpercent]
        rw [hescape, lex_plain hpercent hopen]
        exact List.mem_cons_of_mem _ hlabel

/-- A last text that holds a tag is read back with more markup than there is. -/
theorem not_holdsTag_of_spells {ns : List Node} {value : String}
    (hspaced : Spaced true (ns ++ [.text value]))
    (hplain : ∀ s ∈ signatures ns, IsPlainName s.2) (hnames : ∀ s ∈ signatures ns, IsName s.1 s.2)
    (h : Spells (lex (Node.written (ns ++ [.text value]))) (ns ++ [.text value])) :
    ¬ HoldsTag value.toList := by
  intro hholds
  obtain ⟨hns, hlast⟩ := hspaced.of_append_text
  have hlexes : Lexes (Node.written ns ++ Printer.escape false value.toList)
      (ofNodes ns ++ lex (Printer.escape false value.toList)) :=
    lexes_written hns hnames (fun w hw _ => absurd (hlast _ hw) id) (lexes_lex _)
  have hwritten : Node.written (ns ++ [.text value]) =
      Node.written ns ++ Printer.escape false value.toList := by simp
  rw [hwritten, lex_eq_of_lexes hlexes] at h
  -- The nodes in front of the text account for all markup, so its tokens weigh nothing.
  let w : Weight := ⟨1, 1, 1, 1⟩
  have hsame : w.written = w.read := by
    funext ⟨kind, name⟩
    cases kind with
    | voidTag => exact ite_self 1
    | tag | placeholder => rfl
  have hsum := w.sum_of_spells h
  rw [List.map_append, List.sum_append, w.sum_ofNodes hplain hnames, hsame,
    signatures_append] at hsum
  have hzero : ((lex (Printer.escape false value.toList)).map w.token).sum = 0 := by
    simpa [signatures, signaturesIn] using hsum
  rw [List.sum_eq_zero_iff_forall_eq_nat] at hzero
  obtain ⟨label, hlabel⟩ := exists_tag_of_holdsTag hholds
  have hone : w.token (ofLabel label) = 1 := by
    unfold ofLabel
    split
    · rfl
    · split <;> rfl
  have := hzero _ (List.mem_map_of_mem hlabel)
  omega

/-- A void tag without a name is not read back as a void tag. -/
theorem voidTag_notMem_of_spells {ns : List Node} (hplain : ∀ s ∈ signatures ns, IsPlainName s.2)
    (hnames : ∀ s ∈ signatures ns, IsName s.1 s.2) (h : Spells (ofNodes ns) ns) :
    (Kind.voidTag, "") ∉ signatures ns := by
  intro hmem
  -- Only void tags count, and those without a name are written as something else.
  let w : Weight := ⟨0, 0, 1, 0⟩
  have hsum : ((signatures ns).map w.written).sum = ((signatures ns).map w.read).sum := by
    rw [← w.sum_ofNodes hplain hnames, w.sum_of_spells h]
  have hle : ∀ s ∈ signatures ns, w.written s ≤ w.read s := by
    rintro ⟨kind, name⟩ _
    cases kind with
    | voidTag =>
      simp only [Weight.written, Weight.read, w]
      split <;> omega
    | tag | placeholder => exact le_rfl
  have := List.sum_lt_sum w.written w.read hle ⟨_, hmem, by decide⟩
  omega

end Token

/-- Parsed nodes with plain names are read back from their message just if no void tag is without a
    name and their last node is not a text that holds a tag. -/
theorem parse_print_of_parse_iff {limit : Int} {source : String} {nodes : List Node}
    (h : parse limit source = .ok nodes) (hplain : ∀ s ∈ signatures nodes, IsPlainName s.2) :
    (∃ again, print limit nodes = .ok again ∧ parse limit again = .ok nodes) ↔
      (Kind.voidTag, "") ∉ signatures nodes ∧
        ∀ value, nodes.getLast? = some (.text value) → ¬ HoldsTag value.toList := by
  obtain ⟨hspaced, hnames⟩ := spaced_of_parse h
  obtain ⟨_, hdepth⟩ := parse_eq_ok_iff.1 h
  have hprint := print_eq_ok hdepth
  constructor
  · rintro ⟨again, hagain, hparse⟩
    obtain rfl : String.ofList (written nodes) = again := by simpa [hprint] using hagain
    have hspells : Token.Spells (Token.lex (written nodes)) nodes := by
      simpa using (parse_eq_ok_iff.1 hparse).1
    have hlast : ∀ value, nodes.getLast? = some (.text value) → ¬ HoldsTag value.toList := by
      intro value hvalue
      obtain ⟨ns, rfl⟩ := List.getLast?_eq_some_iff.1 hvalue
      rw [signatures_append, List.forall_mem_append] at hplain hnames
      exact Token.not_holdsTag_of_spells hspaced hplain.1 hnames.1 hspells
    refine ⟨?_, hlast⟩
    have hlexes : Token.Lexes (written nodes) (Token.ofNodes nodes) := by
      simpa using Token.lexes_written (hspaced.of_last hlast) hnames (by simp) .nil
    rw [Token.lex_eq_of_lexes hlexes] at hspells
    exact Token.voidTag_notMem_of_spells hplain hnames hspells
  · rintro ⟨hvoid, hlast⟩
    have hreads : ∀ s ∈ signatures nodes, ReadsBack s.1 s.2 := by
      intro s hs
      exact (hplain s hs).readsBack fun heq => hvoid (heq ▸ hs)
    have hcanonical : Canonical nodes :=
      ⟨hspaced.of_last hlast, fun s hs => ⟨hnames s hs, hreads s hs⟩⟩
    exact ⟨_, hprint, parse_written hcanonical hdepth⟩

/-- A message that ends with a percent sign in a stray `<`. -/
theorem parse_print_of_parse_stray :
    let nodes : List Node := [.placeholder "n", .text " ", .tag "b" [.text "5%"], .text "<x%"]
    (parse 100 "%n% <b>5%%</b><x%" = .ok nodes ∧ ∀ s ∈ signatures nodes, IsPlainName s.2) ∧
      ((∃ again, print 100 nodes = .ok again ∧ parse 100 again = .ok nodes) ↔
        (Kind.voidTag, "") ∉ signatures nodes ∧
          ∀ value, nodes.getLast? = some (.text value) → ¬ HoldsTag value.toList) := by
  intro nodes
  have hparse : parse 100 "%n% <b>5%%</b><x%" = .ok nodes := by decide +kernel
  have hplain : ∀ s ∈ signatures nodes, IsPlainName s.2 := by decide
  exact ⟨⟨hparse, hplain⟩, parse_print_of_parse_iff hparse hplain⟩

/-- A tag behind a percent sign without its partner is text, and is written as a tag. -/
theorem exists_parse_not_print :
    ¬ ∀ (source : String) (nodes : List Node), parse Nesting.defaultLimit source = .ok nodes →
      (∀ s ∈ signatures nodes, IsPlainName s.2) →
        ∃ again, print Nesting.defaultLimit nodes = .ok again ∧
          parse Nesting.defaultLimit again = .ok nodes := by
  intro h
  have hsource : parse Nesting.defaultLimit "%<b>" = .ok [.text "%<b>"] := by decide +kernel
  obtain ⟨again, hprint, hparse⟩ := h "%<b>" _ hsource (by decide)
  have hwritten : print Nesting.defaultLimit [.text "%<b>"] = .ok "%%<b>" := by decide +kernel
  obtain rfl : "%%<b>" = again := by simpa [hwritten] using hprint
  exact absurd hparse (by decide +kernel)

end MessageMarkup
