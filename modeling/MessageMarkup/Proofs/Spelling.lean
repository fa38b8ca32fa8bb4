import MessageMarkup.Proofs.Forest
import MessageMarkup.Proofs.Token

/-!
# What tokens spell

Tokens whose tags nest spell a list of nodes. A run of text becomes one node, a tag with the tokens
up to its close tag another.

## Main definitions

- `Token.openAfter` — the labels of the open tags after a token
- `Token.WellNested` — every close tag bears the label of the innermost open tag, and no tag is
  left open
- `Token.mostOpen` — how many tags are open at once, at most
- `Token.Spells` — the nodes that tokens spell

## Main statements

- `Token.wellNested_iff_exists_spells` — just the well nested tokens spell nodes
- `Token.mostOpen_append_of_spells` — as many tags are open at once as nodes are deep
-/

namespace MessageMarkup.Token

/-- The labels of the open tags after a token, innermost first. A close tag must bear the first of
    them. -/
def openAfter (labels : List (List Char)) : Token → Option (List (List Char))
  | opening label => some (label :: labels)
  | closing label =>
    match labels with
    | innermost :: outer => if innermost = label then some outer else none
    | [] => none
  | literal _ | percent | placeholder _ | void _ => some labels

/-- Every close tag bears the label of the innermost tag that is still open, and in the end none
    is. -/
def WellNested (ts : List Token) : Prop :=
  ts.foldlM openAfter [] = some []

/-- The largest number of tags that are open at once, where `n` are open before. -/
def mostOpen (n : Nat) : List Token → Nat
  | [] => n
  | opening _ :: ts => max n (mostOpen (n + 1) ts)
  | closing _ :: ts => max n (mostOpen (n - 1) ts)
  | literal _ :: ts | percent :: ts | placeholder _ :: ts | void _ :: ts => mostOpen n ts

/-- The nodes that tokens spell. -/
inductive Spells : List Token → List Node → Prop
  | nil : Spells [] []
  /-- As much text as there is makes one node. -/
  | text {run rest nodes} : run ≠ [] → (∀ t ∈ run, t.isText = true) →
      (∀ t ∈ rest.head?, t.isText = false) → Spells rest nodes →
      Spells (run ++ rest) (.text (String.ofList (run.flatMap text)) :: nodes)
  | placeholder {name rest nodes} : Spells rest nodes →
      Spells (placeholder name :: rest) (.placeholder (String.ofList name) :: nodes)
  | void {label rest nodes} : Spells rest nodes →
      Spells (void label :: rest) (.voidTag (Text.trim (String.ofList label)) :: nodes)
  | tag {label inner children rest nodes} : Spells inner children → Spells rest nodes →
      Spells (opening label :: (inner ++ closing label :: rest))
        (.tag (Text.trim (String.ofList label)) children :: nodes)

theorem openAfter_of_isText {t : Token} (h : t.isText = true) (labels : List (List Char)) :
    openAfter labels t = some labels := by
  cases t with
  | literal _ | percent => rfl
  | placeholder _ | opening _ | closing _ | void _ => simp [isText] at h

theorem mostOpen_cons_of_isText {t : Token} (h : t.isText = true) (n : Nat) (ts : List Token) :
    mostOpen n (t :: ts) = mostOpen n ts := by
  cases t with
  | literal _ | percent => rfl
  | placeholder _ | opening _ | closing _ | void _ => simp [isText] at h

theorem openAfter_run {run : List Token} (h : ∀ t ∈ run, t.isText = true)
    (labels : List (List Char)) : run.foldlM openAfter labels = some labels := by
  induction run with
  | nil => rfl
  | cons t run ih =>
    rw [List.foldlM_cons, openAfter_of_isText (h t (by simp))]
    exact ih fun u hu => h u (by simp [hu])

theorem mostOpen_run {run : List Token} (h : ∀ t ∈ run, t.isText = true) (n : Nat)
    (rest : List Token) : mostOpen n (run ++ rest) = mostOpen n rest := by
  induction run with
  | nil => rfl
  | cons t run ih =>
    rw [List.cons_append, mostOpen_cons_of_isText (h t (by simp))]
    exact ih fun u hu => h u (by simp [hu])

theorem le_mostOpen (n : Nat) (ts : List Token) : n ≤ mostOpen n ts := by
  induction ts with
  | nil => exact le_rfl
  | cons t ts ih =>
    cases t with
    | opening _ | closing _ => exact le_max_left _ _
    | literal _ | percent | placeholder _ | void _ => exact ih

/-- A run of text is not empty as a text. -/
theorem flatMap_text_ne_nil {run : List Token} (hne : run ≠ []) (h : ∀ t ∈ run, t.isText = true) :
    run.flatMap text ≠ [] := by
  cases run with
  | nil => exact absurd rfl hne
  | cons t run =>
    have ht := h t (by simp)
    cases t with
    | literal _ | percent => simp [text]
    | placeholder _ | opening _ | closing _ | void _ => simp [isText] at ht

/-- Where there are no tokens, there are no nodes. -/
theorem Spells.eq_nil {nodes : List Node} (h : Spells [] nodes) : nodes = [] := by
  generalize hts : [] = ts at h
  cases h with
  | nil => rfl
  | text hne _ _ _ => exact absurd (List.append_eq_nil_iff.1 hts.symm).1 hne
  | placeholder _ | void _ | tag _ _ => cases hts

theorem Spells.eq_nil_of_nodes {ts : List Token} (h : Spells ts []) : ts = [] := by
  cases h
  rfl

/-- Tokens that spell nodes leave the tags open that were so before. -/
theorem openAfter_of_spells {ts : List Token} {nodes : List Node} (h : Spells ts nodes)
    (labels : List (List Char)) : ts.foldlM openAfter labels = some labels := by
  induction h generalizing labels with
  | nil => rfl
  | text _ hrun _ _ ih =>
    rw [List.foldlM_append, openAfter_run hrun]
    exact ih labels
  | placeholder _ ih => exact ih labels
  | void _ ih => exact ih labels
  | @tag label inner children rest nodes _ _ ihInner ihRest =>
    have hclose : openAfter (label :: labels) (closing label) = some labels := by
      simp [openAfter]
    calc (opening label :: (inner ++ closing label :: rest)).foldlM openAfter labels
        = (inner ++ closing label :: rest).foldlM openAfter (label :: labels) := rfl
      _ = (closing label :: rest).foldlM openAfter (label :: labels) := by
          rw [List.foldlM_append, ihInner]
          rfl
      _ = rest.foldlM openAfter labels := by
          rw [List.foldlM_cons, hclose]
          rfl
      _ = some labels := ihRest labels

/-- Where tokens spell nodes, as many tags are open at once as the nodes are deep. -/
theorem mostOpen_append_of_spells {ts : List Token} {nodes : List Node} (h : Spells ts nodes)
    (n : Nat) (rest : List Token) :
    mostOpen n (ts ++ rest) = max (n + Node.depthOf nodes) (mostOpen n rest) := by
  induction h generalizing n rest with
  | nil => simp [Node.depthOf, le_mostOpen]
  | text _ hrun _ _ ih =>
    rw [List.append_assoc, mostOpen_run hrun, ih]
    simp [Node.depthOf, Node.depth]
  | placeholder _ ih =>
    rw [List.cons_append, mostOpen, ih]
    simp [Node.depthOf, Node.depth]
  | void _ ih =>
    rw [List.cons_append, mostOpen, ih]
    simp [Node.depthOf, Node.depth]
  | @tag label inner children rest' nodes _ _ ihInner ihRest =>
    have hinner := ihInner (n + 1) (closing label :: (rest' ++ rest))
    have hrest := ihRest n rest
    have hle := le_mostOpen n rest
    rw [List.cons_append, List.append_assoc, List.cons_append, mostOpen, hinner, mostOpen,
      Nat.add_sub_cancel, hrest]
    simp only [Node.depthOf, Node.depth]
    omega

/-- Where tokens begin with markup, so do the nodes that they spell. -/
theorem Spells.isMarkup_head? {ts : List Token} {nodes : List Node} (h : Spells ts nodes)
    (hts : ∀ t ∈ ts.head?, t.isText = false) : ∀ n ∈ nodes.head?, n.isMarkup = true := by
  cases h with
  | @text run rest nodes hne hrun =>
    obtain ⟨t, run', rfl⟩ := List.exists_cons_of_ne_nil hne
    have := hrun t (by simp)
    simp [hts t rfl] at this
  | nil => simp
  | placeholder _ | void _ | tag _ _ => simp [Node.isMarkup, Node.signature?]

/-- A run of text in front of tokens that spell nodes makes one text with a text that these begin
    with. -/
theorem Spells.run_append {run : List Token} (hne : run ≠ []) (hrun : ∀ t ∈ run, t.isText = true)
    {ts : List Token} {nodes : List Node} (h : Spells ts nodes) :
    Spells (run ++ ts) (Node.fuse [.text (String.ofList (run.flatMap Token.text))] nodes) := by
  have hmarkup (hts : ∀ t ∈ ts.head?, t.isText = false) :
      Spells (run ++ ts) (Node.fuse [.text (String.ofList (run.flatMap Token.text))] nodes) := by
    rw [Node.fuse_cons (.inr (.inr (h.isMarkup_head? hts)))]
    exact .text hne hrun hts h
  cases h with
  | nil => exact hmarkup (by simp)
  | @text run' rest nodes _ hrun' hrest h =>
    have hboth : ∀ t ∈ run ++ run', t.isText = true := List.forall_mem_append.2 ⟨hrun, hrun'⟩
    have := Spells.text (List.append_ne_nil_of_left_ne_nil hne run') hboth hrest h
    rwa [List.append_assoc, List.flatMap_append, String.ofList_append] at this
  | placeholder _ | void _ | tag _ _ => exact hmarkup (by simp [isText])

/-- Tokens that spell nodes, one after the other, spell the nodes one after the other. -/
theorem Spells.append {ts us : List Token} {front back : List Node} (h : Spells ts front)
    (hback : Spells us back) : Spells (ts ++ us) (Node.fuse front back) := by
  induction h with
  | nil => exact hback
  | @text run rest nodes hne hrun hrest hspells ih =>
    cases rest with
    | nil =>
      obtain rfl := hspells.eq_nil
      simpa using hback.run_append hne hrun
    | cons t rest =>
      have hnodes : nodes ≠ [] := by
        rintro rfl
        exact absurd hspells.eq_nil_of_nodes (List.cons_ne_nil t rest)
      rw [Node.fuse_cons (.inr (.inl hnodes)), List.append_assoc]
      exact .text hne hrun hrest ih
  | placeholder _ ih =>
    rw [Node.fuse_cons (.inl rfl)]
    exact .placeholder ih
  | void _ ih =>
    rw [Node.fuse_cons (.inl rfl)]
    exact .void ih
  | tag hinner _ _ ih =>
    rw [Node.fuse_cons (.inl rfl), List.cons_append, List.append_assoc, List.cons_append]
    exact .tag hinner ih

/-- What open tags demand of the tokens to come: for each of them tokens that spell nodes, and then
    its close tag. -/
def Closes : List (List Char) → List Token → Prop
  | [], ts => ∃ nodes, Spells ts nodes
  | label :: outer, ts =>
    ∃ inner nodes rest, ts = inner ++ closing label :: rest ∧ Spells inner nodes ∧ Closes outer rest

/-- Tokens may stand in front of what open tags demand if they may stand in front of any that spell
    nodes. -/
theorem Closes.append_left (front : List Token)
    (hfront : ∀ ts nodes, Spells ts nodes → ∃ nodes', Spells (front ++ ts) nodes')
    {labels : List (List Char)} {ts : List Token} (h : Closes labels ts) :
    Closes labels (front ++ ts) := by
  cases labels with
  | nil =>
    obtain ⟨nodes, h⟩ := h
    exact hfront ts nodes h
  | cons label outer =>
    obtain ⟨inner, nodes, rest, rfl, hinner, hrest⟩ := h
    obtain ⟨nodes', h⟩ := hfront inner nodes hinner
    exact ⟨front ++ inner, nodes', rest, by simp, h, hrest⟩

/-- Tokens that close all open tags are as these demand. -/
theorem closes_of_openAfter {ts : List Token} {labels : List (List Char)}
    (h : ts.foldlM openAfter labels = some []) : Closes labels ts := by
  induction ts generalizing labels with
  | nil =>
    obtain rfl : labels = [] := by simpa using h
    exact ⟨[], .nil⟩
  | cons t ts ih =>
    rw [List.foldlM_cons] at h
    cases t with
    | literal c =>
      exact (ih h).append_left [.literal c] fun _ _ h =>
        ⟨_, h.run_append (List.cons_ne_nil _ []) (by simp [isText])⟩
    | percent =>
      exact (ih h).append_left [.percent] fun _ _ h =>
        ⟨_, h.run_append (List.cons_ne_nil _ []) (by simp [isText])⟩
    | placeholder name =>
      exact (ih h).append_left [.placeholder name] fun _ _ h => ⟨_, .placeholder h⟩
    | void label => exact (ih h).append_left [.void label] fun _ _ h => ⟨_, .void h⟩
    | opening label =>
      obtain ⟨inner, children, rest, rfl, hinner, hrest⟩ := ih h
      have := hrest.append_left (opening label :: (inner ++ [closing label]))
        fun _ _ h => ⟨_, by simpa using Spells.tag hinner h⟩
      simpa using this
    | closing label =>
      cases labels with
      | nil => simp [openAfter] at h
      | cons innermost outer =>
        by_cases heq : innermost = label
        · subst heq
          have hrest : Closes outer ts := ih (by simpa [openAfter] using h)
          exact ⟨[], [], ts, rfl, .nil, hrest⟩
        · simp [openAfter, heq] at h

/-- Just the well nested tokens spell nodes. -/
theorem wellNested_iff_exists_spells {ts : List Token} :
    WellNested ts ↔ ∃ nodes, Spells ts nodes := by
  constructor
  · intro h
    exact closes_of_openAfter h
  · rintro ⟨nodes, h⟩
    exact openAfter_of_spells h []

end MessageMarkup.Token
