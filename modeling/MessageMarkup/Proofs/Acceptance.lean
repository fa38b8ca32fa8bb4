import MessageMarkup.Proofs.Reading

/-!
# What the parser accepts

The parser accepts the messages whose tags nest, no deeper than the limit allows, and makes of them
the nodes that their tokens spell.

## Main statements

- `Parser.State.read_of_spells` — the parser can read what spells nodes
- `parse_eq_ok_iff` — the nodes of a message are those that its tokens spell
- `parse_accepts_grammar` — which messages are accepted, and what is made of them
-/

namespace MessageMarkup

open Outcome

namespace Parser.State

/-- The state with the text read last made a node. -/
def flush (s : State) : State :=
  { s with text := "", nodes := s.siblings }

theorem siblings_flush (s : State) : s.flush.siblings = s.siblings := by
  simp [siblings, flush, textNodes]

/-- Markup makes the text in front of it a node. -/
theorem read_flush {t : Token} (ht : t.isText = false) (s : State) : s.flush.read t = s.read t := by
  have hskip (count : Nat) : (s.flush.skip count).siblings = (s.skip count).siblings :=
    siblings_flush s
  cases t with
  | literal _ | percent => simp [Token.isText] at ht
  | placeholder name | void label =>
    simp only [read, addNode, hskip]
    rfl
  | opening label =>
    simp only [read, openTag, hskip]
    rfl
  | closing label =>
    simp only [read, closeTag, hskip]
    rfl

/-- Where no text comes next, it does not matter whether the text read last is a node yet. -/
theorem foldlM_read_flush {ts : List Token} (hts : ∀ t ∈ ts.head?, t.isText = false) {s s' : State}
    (h : ts.foldlM read s.flush = .ok s') :
    ∃ s'', ts.foldlM read s = .ok s'' ∧ s''.guard = s'.guard ∧ s''.mode = s'.mode ∧
      s''.openTags = s'.openTags ∧ s''.siblings = s'.siblings := by
  cases ts with
  | nil =>
    cases h
    exact ⟨s, rfl, rfl, rfl, rfl, (siblings_flush s).symm⟩
  | cons t ts =>
    rw [List.foldlM_cons, read_flush (hts t rfl)] at h
    exact ⟨s', h, rfl, rfl, rfl, rfl⟩

/-- A run of text is read at once. -/
theorem foldlM_read_run {run : List Token} (hrun : ∀ t ∈ run, t.isText = true) (s : State) :
    ∃ s', run.foldlM read s = .ok s' ∧ s'.guard = s.guard ∧ s'.mode = s.mode ∧
      s'.openTags = s.openTags ∧ s'.nodes = s.nodes ∧
      s'.text = s.text ++ String.ofList (run.flatMap Token.text) := by
  induction run generalizing s with
  | nil => exact ⟨s, rfl, rfl, rfl, rfl, rfl, by simp⟩
  | cons t run ih =>
    have hread : s.read t = .ok ((s.skip t.source.length).addText (String.ofList t.text)) := by
      have ht := hrun t (by simp)
      cases t with
      | literal _ | percent => rfl
      | placeholder _ | opening _ | closing _ | void _ => simp [Token.isText] at ht
    have hrun' : ∀ u ∈ run, u.isText = true := fun u hu => hrun u (by simp [hu])
    obtain ⟨s', hs', hguard, hmode, htags, hnodes, htext⟩ :=
      ih hrun' ((s.skip t.source.length).addText (String.ofList t.text))
    refine ⟨s', ?_, hguard, hmode, htags, hnodes, ?_⟩
    · rw [List.foldlM_cons, hread, ok_bind, hs']
    · rw [htext]
      apply String.toList_inj.1
      simp [addText, skip]

theorem siblings_of_text_eq {s : State} (htext : s.text = "") : s.siblings = s.nodes := by
  simp [siblings, textNodes, htext]

theorem nodes_addNode {s : State} (htext : s.text = "") (count : Nat) (node : Node) :
    ((s.skip count).addNode node).nodes = s.nodes ++ [node] := by
  rw [← siblings_of_text_eq htext]
  rfl

/-- The state inside a tag that has just been opened. -/
def inside (s : State) (label : List Char) : State :=
  { s with
    guard := s.guard.deeper
    offset := s.offset + (Token.opening label).source.length
    text := ""
    nodes := []
    openTags := ⟨String.ofList label, s.siblings⟩ :: s.openTags }

theorem read_opening (label : List Char) {s : State} (hroom : s.guard.level < s.guard.limit) :
    s.read (.opening label) = .ok (s.inside label) := by
  have hexceeded : s.guard.exceeded = false := by
    simpa [DepthGuard.exceeded] using hroom
  simp only [read, openTag, skip, hexceeded]
  rfl

/-- The state behind a tag that has just been closed, with `before` in front of it and `outer`
    around it. -/
def behind (s : State) (label : List Char) (before : List Node) (outer : List OpenTag) : State :=
  { s with
    guard := s.guard.exit
    offset := s.offset + (Token.closing label).source.length
    text := ""
    nodes := before ++ [Node.ofTagLabel (String.ofList label) s.siblings]
    openTags := outer }

theorem read_closing {label : List Char} {before : List Node} {outer : List OpenTag} {s : State}
    (htags : s.openTags = ⟨String.ofList label, before⟩ :: outer) :
    s.read (.closing label) = .ok (s.behind label before outer) := by
  simp only [read, closeTag, skip, htags, if_true]
  rfl

/-- The parser can read what spells nodes, and has then read these, if the limit allows as many
    levels as they have. -/
theorem read_of_spells {ts : List Token} {nodes : List Node} (h : Token.Spells ts nodes)
    {s : State} (htext : s.text = "")
    (hroom : s.guard.level + Node.depthOf nodes ≤ max s.guard.level s.guard.limit) :
    ∃ s', ts.foldlM read s = .ok s' ∧ s'.guard = s.guard ∧ s'.mode = s.mode ∧
      s'.openTags = s.openTags ∧ s'.siblings = s.nodes ++ nodes := by
  -- Between two nodes of a level nothing is pending; text is pending up to the markup behind it.
  induction h generalizing s with
  | nil => exact ⟨s, rfl, rfl, rfl, rfl, by simp [siblings, textNodes, htext]⟩
  | @text run rest nodes hne hrun hrest _ ih =>
    obtain ⟨s₁, hread, hguard, hmode, htags, hnodes, htext₁⟩ := foldlM_read_run hrun s
    have hroom' : s₁.flush.guard.level + Node.depthOf nodes ≤
        max s₁.flush.guard.level s₁.flush.guard.limit := by
      simpa [flush, hguard, Node.depthOf, Node.depth] using hroom
    obtain ⟨s₂, hrest', hguard₂, hmode₂, htags₂, hsiblings⟩ := ih rfl hroom'
    obtain ⟨s₃, hread₃, hguard₃, hmode₃, htags₃, hsiblings₃⟩ := foldlM_read_flush hrest hrest'
    refine ⟨s₃, ?_, hguard₃.trans (hguard₂.trans hguard), hmode₃.trans (hmode₂.trans hmode),
      htags₃.trans (htags₂.trans htags), ?_⟩
    · rw [List.foldlM_append, hread, ok_bind, hread₃]
    · have hrunText : String.ofList (run.flatMap Token.text) ≠ "" := by
        intro h
        exact Token.flatMap_text_ne_nil hne hrun (by simpa using congrArg String.toList h)
      rw [hsiblings₃, hsiblings]
      simp [flush, siblings, hnodes, htext₁, htext, textNodes, hrunText]
  | @placeholder name rest nodes _ ih =>
    have hroom' : s.guard.level + Node.depthOf nodes ≤ max s.guard.level s.guard.limit := by
      simpa [Node.depthOf, Node.depth] using hroom
    let s₁ := (s.skip (Token.placeholder name).source.length).addNode
      (.placeholder (String.ofList name))
    obtain ⟨s', hread, hguard, hmode, htags, hsiblings⟩ := ih (s := s₁) rfl hroom'
    refine ⟨s', hread, hguard, hmode, htags, ?_⟩
    rw [hsiblings, nodes_addNode htext]
    simp
  | @void label rest nodes _ ih =>
    have hroom' : s.guard.level + Node.depthOf nodes ≤ max s.guard.level s.guard.limit := by
      simpa [Node.depthOf, Node.depth] using hroom
    let s₁ := (s.skip (Token.void label).source.length).addNode
      (Node.ofVoidLabel (String.ofList label))
    obtain ⟨s', hread, hguard, hmode, htags, hsiblings⟩ := ih (s := s₁) rfl hroom'
    refine ⟨s', hread, hguard, hmode, htags, ?_⟩
    rw [hsiblings, nodes_addNode htext]
    simp [Node.ofVoidLabel]
  | @tag label inner children rest nodes _ _ ihInner ihRest =>
    simp only [Node.depthOf, Node.depth] at hroom
    -- Inside the tag the level starts without nodes; behind it the guard is as it was.
    have hlevel : (s.inside label).guard = s.guard.deeper := rfl
    have hroom₁ : (s.inside label).guard.level + Node.depthOf children ≤
        max (s.inside label).guard.level (s.inside label).guard.limit := by
      simp only [hlevel, DepthGuard.deeper]
      omega
    obtain ⟨s₁, hinner, hguard₁, hmode₁, htags₁, hsiblings₁⟩ := ihInner rfl hroom₁
    have hguard : (s₁.behind label s.siblings s.openTags).guard = s.guard := by
      simp only [behind, hguard₁, hlevel, DepthGuard.exit_deeper]
    obtain ⟨s₂, hrest, hguard₂, hmode₂, htags₂, hsiblings₂⟩ :=
      ihRest (s := s₁.behind label s.siblings s.openTags) rfl (by rw [hguard]; omega)
    refine ⟨s₂, ?_, hguard₂.trans hguard, hmode₂.trans hmode₁, htags₂, ?_⟩
    · rw [List.foldlM_cons, read_opening label (by omega), ok_bind, List.foldlM_append, hinner,
        ok_bind, List.foldlM_cons, read_closing htags₁, ok_bind, hrest]
    · rw [hsiblings₂]
      simp [behind, hsiblings₁, inside, siblings_of_text_eq htext, Node.ofTagLabel]

end Parser.State

namespace Parser

open State

/-- To read a message is to read its tokens. -/
theorem run_eq (limit : Int) (cs : List Char) :
    run limit cs = ((Token.lex cs).foldlM read (start limit) >>= finish) := by
  rw [← foldlM_next_finish (Token.lexes_lex cs) rfl, run]
  cases cs.foldlM next (start limit) with
  | ok s => rfl
  | error fault => rfl

theorem finish_eq_ok {s : State} {nodes : List Node} (hs : s.finish = .ok nodes) :
    s.openTags = [] := by
  by_contra htags
  simp [finish, htags] at hs

theorem finish_of_mode {s : State} (hmode : s.mode = .text) (htags : s.openTags = []) :
    s.finish = .ok s.siblings := by
  simp [finish, htags, hmode, Mode.pending, addText, siblings]

/-- What spells nodes is read as these, if the limit allows as many levels as they have. -/
theorem run_of_spells {limit : Int} {cs : List Char} {nodes : List Node}
    (h : Token.Spells (Token.lex cs) nodes)
    (hdepth : (Node.depthOf nodes : Int) ≤ max 0 (Nesting.clamp limit)) :
    run limit cs = .ok nodes := by
  obtain ⟨s, hread, _, hmode, htags, hsiblings⟩ :=
    read_of_spells h (s := start limit) rfl (by simpa [start, DepthGuard.ofLimit] using hdepth)
  rw [run_eq, hread, ok_bind, finish_of_mode hmode htags, hsiblings]
  rfl

/-- A message that can be read is well nested, and has no more tags open at once than the limit
    allows. -/
theorem wellNested_of_run {limit : Int} {cs : List Char} {nodes : List Node}
    (h : run limit cs = .ok nodes) :
    Token.WellNested (Token.lex cs) ∧
      (Token.mostOpen 0 (Token.lex cs) : Int) ≤ max 0 (Nesting.clamp limit) := by
  rw [run_eq, bind_eq_ok] at h
  obtain ⟨s, hread, hfinish⟩ := h
  obtain ⟨hlabels, hmost⟩ := foldlM_read_eq_ok hread (counted_start limit)
  refine ⟨?_, hmost⟩
  simpa [Token.WellNested, labels, start, finish_eq_ok hfinish] using hlabels

end Parser

theorem parse_eq_ok_iff_run {limit : Int} {source : String} {nodes : List Node} :
    parse limit source = .ok nodes ↔ Parser.run limit source.toList = .ok nodes := by
  unfold parse
  cases Parser.run limit source.toList with
  | ok _ => simp
  | error _ => simp

theorem parse_eq_error_iff_run {limit : Int} {source : String} {failure : Failure} :
    parse limit source = .error failure ↔
      ∃ fault, Parser.run limit source.toList = .error fault ∧ fault.toFailure source = failure := by
  unfold parse
  cases Parser.run limit source.toList with
  | ok _ => simp
  | error _ => simp

/-- As many tags of a message are open at once as the nodes that it spells are deep. -/
theorem Token.mostOpen_of_spells {ts : List Token} {nodes : List Node} (h : Spells ts nodes) :
    mostOpen 0 ts = Node.depthOf nodes := by
  simpa [mostOpen] using mostOpen_append_of_spells h 0 []

/-- The nodes of a message are those that its tokens spell, if they are no deeper than the limit
    allows. -/
theorem parse_eq_ok_iff {limit : Int} {source : String} {nodes : List Node} :
    parse limit source = .ok nodes ↔
      Token.Spells (Token.lex source.toList) nodes ∧
        (Node.depthOf nodes : Int) ≤ max 0 (Nesting.clamp limit) := by
  rw [parse_eq_ok_iff_run]
  constructor
  · intro h
    obtain ⟨hnested, hmost⟩ := Parser.wellNested_of_run h
    obtain ⟨nodes', hspells⟩ := Token.wellNested_iff_exists_spells.1 hnested
    rw [Token.mostOpen_of_spells hspells] at hmost
    have h' := Parser.run_of_spells hspells hmost
    obtain rfl : nodes' = nodes := by simpa [h'] using h
    exact ⟨hspells, hmost⟩
  · rintro ⟨hspells, hdepth⟩
    exact Parser.run_of_spells hspells hdepth

/-- The tags of an accepted message nest, with no more of them open at once than the limit allows,
    and its nodes are the only ones that its tokens spell. -/
theorem parse_accepts_grammar (limit : Int) (source : String) :
    ((∃ nodes, parse limit source = .ok nodes) ↔
      Token.WellNested (Token.lex source.toList) ∧
        (Token.mostOpen 0 (Token.lex source.toList) : Int) ≤ max 0 (min limit 475)) ∧
      ∀ nodes, parse limit source = .ok nodes →
        Token.Spells (Token.lex source.toList) nodes ∧
          ∀ other, Token.Spells (Token.lex source.toList) other → other = nodes := by
  refine ⟨⟨?_, ?_⟩, ?_⟩
  · rintro ⟨nodes, h⟩
    exact Parser.wellNested_of_run (parse_eq_ok_iff_run.1 h)
  · rintro ⟨hnested, hmost⟩
    obtain ⟨nodes, hspells⟩ := Token.wellNested_iff_exists_spells.1 hnested
    rw [Token.mostOpen_of_spells hspells] at hmost
    exact ⟨nodes, parse_eq_ok_iff.2 ⟨hspells, hmost⟩⟩
  · intro nodes h
    obtain ⟨hspells, hdepth⟩ := parse_eq_ok_iff.1 h
    refine ⟨hspells, fun other hother => ?_⟩
    have hsame : Node.depthOf other = Node.depthOf nodes := by
      rw [← Token.mostOpen_of_spells hspells, Token.mostOpen_of_spells hother]
    have h' := parse_eq_ok_iff.2 ⟨hother, hsame ▸ hdepth⟩
    simpa [h'] using h

end MessageMarkup
