import MessageMarkup.Parser
import MessageMarkup.Proofs.Outcome
import MessageMarkup.Proofs.Spelling

/-!
# Reading token by token

The parser takes one character at a time. Seen from text to text it takes one token at a time, and
then it is a machine that reads the grammar.

## Main definitions

- `Parser.State.read` — the state after one more token
- `Parser.State.labels` — the labels of the open tags
- `Parser.State.Counted` — the invariant on the number of open tags

## Main statements

- `Parser.State.foldlM_next_named`, `Parser.State.foldlM_next_tag`, `Parser.State.foldlM_next_stray` —
  what the characters are read as that a message begins with
- `Parser.State.foldlM_next_finish` — reading characters is reading the tokens that they make
- `Parser.State.read_eq_ok`, `Parser.State.foldlM_read_eq_ok` — what one token that can be read
  does to the open tags, and what that means for many
-/

namespace MessageMarkup.Parser

open Outcome

namespace State

/-- The state some characters further. -/
def skip (s : State) (count : Nat) : State :=
  { s with offset := s.offset + count }

/-- The state after one more token. -/
def read (s : State) (t : Token) : Except Fault State :=
  let after := s.skip t.source.length
  match t with
  | .literal _ | .percent => .ok (after.addText (String.ofList t.text))
  | .placeholder name => .ok (after.addNode (.placeholder (String.ofList name)))
  | .opening label => after.openTag (String.ofList label)
  | .closing label => after.closeTag (String.ofList label) s.offset
  | .void label => .ok (after.addNode (Node.ofVoidLabel (String.ofList label)))

theorem push_append_ofList (s : String) (c : Char) (cs : List Char) :
    s.push c ++ String.ofList cs = s ++ String.ofList (c :: cs) := by
  apply String.toList_inj.1
  simp

/-- The name of a placeholder is taken up as it stands. -/
theorem foldlM_next_name {name : List Char} (h : '%' ∉ name) (s : State) (offset start : Nat)
    (before : String) :
    name.foldlM next { s with offset, mode := .placeholder start before } =
      .ok { s with
        offset := offset + name.length
        mode := .placeholder start (before ++ String.ofList name) } := by
  induction name generalizing offset before with
  | nil => simp; rfl
  | cons c name ih =>
    rw [List.mem_cons, not_or] at h
    have hc : c ≠ '%' := Ne.symm h.1
    have hstep : next { s with offset, mode := .placeholder start before } c =
        .ok { s with offset := offset + 1, mode := .placeholder start (before.push c) } := by
      simp [next, hc, advance]
    rw [List.foldlM_cons, hstep, ok_bind]
    have := ih h.2 (offset + 1) (before.push c)
    rw [push_append_ofList] at this
    simpa [Nat.add_assoc, Nat.add_comm 1] using this

/-- The label of a tag is taken up as it stands. -/
theorem foldlM_next_label {label : List Char} (hopen : '<' ∉ label) (hclose : '>' ∉ label)
    (s : State) (offset start : Nat) (before : String) :
    label.foldlM next { s with offset, mode := .tag start before } =
      .ok { s with
        offset := offset + label.length
        mode := .tag start (before ++ String.ofList label) } := by
  induction label generalizing offset before with
  | nil => simp; rfl
  | cons c label ih =>
    rw [List.mem_cons, not_or] at hopen hclose
    have hstep : next { s with offset, mode := .tag start before } c =
        .ok { s with offset := offset + 1, mode := .tag start (before.push c) } := by
      simp [next, Ne.symm hopen.1, Ne.symm hclose.1, advance]
    rw [List.foldlM_cons, hstep, ok_bind]
    have := ih hopen.2 hclose.2 (offset + 1) (before.push c)
    rw [push_append_ofList] at this
    simpa [Nat.add_assoc, Nat.add_comm 1] using this

/-- A label asks of the parser what the tag of that label does. -/
theorem applyTag_ofLabel (s : State) (label : List Char) :
    (s.skip (label.length + 2)).applyTag s.offset (.ofLabel (String.ofList label)) =
      s.read (Token.ofLabel label) := by
  have hsource : (Token.ofLabel label).source.length = label.length + 2 := by
    simp [Token.source_ofLabel]
  by_cases hhead : label.head? = some '/'
  · obtain ⟨tail, rfl⟩ := List.head?_eq_some_iff.1 hhead
    simp [TagToken.ofLabel, Token.ofLabel_slash_cons, applyTag, read, Token.source]
  by_cases hlast : label.getLast? = some '/'
  · obtain ⟨init, rfl⟩ := List.getLast?_eq_some_iff.1 hlast
    rw [Token.ofLabel_append_slash hhead]
    simp only [TagToken.ofLabel, String.toList_ofList, hhead, if_false]
    simp [applyTag, read, Token.source]
  · rw [Token.ofLabel_opening hhead hlast]
    simp [TagToken.ofLabel, applyTag, read, Token.source, hhead, hlast]

/-- A token leaves the parser between two tokens. -/
theorem mode_of_read {s s' : State} {t : Token} (hs : s.mode = .text) (h : s.read t = .ok s') :
    s'.mode = .text := by
  cases t with
  | literal _ | percent | placeholder _ | void _ =>
    cases h
    exact hs
  | opening label =>
    simp only [read, openTag] at h
    split at h
    · cases h
    · cases h
      exact hs
  | closing label =>
    simp only [read, closeTag] at h
    split at h
    · cases h
    · split at h
      · cases h
        exact hs
      · split at h <;> cases h

theorem next_tagOpen {s : State} (hs : s.mode = .text) :
    s.next '<' = .ok { s with offset := s.offset + 1, mode := .tag s.offset "" } := by
  simp [next, hs, advance, Mark.tagOpen]

theorem next_placeholder {s : State} (hs : s.mode = .text) :
    s.next '%' = .ok { s with offset := s.offset + 1, mode := .placeholder s.offset "" } := by
  simp [next, hs, advance, Mark.tagOpen, Mark.placeholder]

theorem next_plain {s : State} (hs : s.mode = .text) {c : Char} (hpercent : c ≠ '%')
    (hopen : c ≠ '<') : s.next c = s.read (.literal c) := by
  simp only [next, hs, Mark.tagOpen, Mark.placeholder, hpercent, hopen, if_false]
  simp [read, addText, advance, skip, Token.source, Token.text, hs]

/-- The percent sign that ends a name makes a token of it. -/
theorem next_end_of_name {s : State} (hs : s.mode = .text) (name : List Char) :
    next { s with
      offset := s.offset + 1 + name.length
      mode := .placeholder s.offset (String.ofList name) } '%' = s.read (Token.ofName name) := by
  by_cases hname : name = []
  · subst hname
    simp [next, Token.ofName, read, advance, addText, skip, Token.source, Token.text, hs]
  · have hne : String.ofList name ≠ "" := by
      intro h
      exact hname (by simpa using congrArg String.toList h)
    simp only [next, Token.ofName, hname, hne, if_false]
    simp [read, addNode, siblings, advance, skip, Token.source, hs]
    omega

/-- The mark that ends a label makes a token of it. -/
theorem next_end_of_label {s : State} (hs : s.mode = .text) (label : List Char) :
    next { s with
      offset := s.offset + 1 + label.length
      mode := .tag s.offset (String.ofList label) } '>' = s.read (Token.ofLabel label) := by
  rw [← applyTag_ofLabel]
  have hskip : s.skip (label.length + 2) =
      { s with offset := s.offset + 1 + label.length + 1, mode := .text } := by
    simp only [skip, ← hs]
    congr 1
    omega
  rw [hskip]
  simp [next, Mark.tagOpen, advance]

/-- A run of text is read at once. -/
theorem foldlM_read_literal (cs : List Char) (s : State) :
    (cs.map Token.literal).foldlM read s = .ok ((s.skip cs.length).addText (String.ofList cs)) := by
  induction cs generalizing s with
  | nil => simp [skip, addText]; rfl
  | cons c cs ih =>
    have hread : s.read (.literal c) = .ok ((s.skip 1).addText (String.ofList [c])) := rfl
    rw [List.map_cons, List.foldlM_cons, hread, ok_bind, ih]
    simp only [skip, addText, List.length_cons, Except.ok.injEq, State.mk.injEq, true_and, and_true]
    constructor
    · omega
    · apply String.toList_inj.1
      simp

/-- Only the open tags, the nodes and the text with what is pending count in the end. -/
theorem finish_congr {s s' : State} (htags : s.openTags = s'.openTags) (hnodes : s.nodes = s'.nodes)
    (htext : s.text ++ s.mode.pending = s'.text ++ s'.mode.pending) : s.finish = s'.finish := by
  simp only [finish, siblings, addText, htags, hnodes, htext]

/-- A token that both have read leaves the rest of a message to be compared. -/
theorem read_bind_congr {s : State} (hs : s.mode = .text) (t : Token)
    {f g : State → Except Fault (List Node)}
    (h : ∀ s' : State, s'.mode = .text → f s' = g s') : (s.read t >>= f) = (s.read t >>= g) := by
  cases hread : s.read t with
  | error fault => rfl
  | ok s' => exact h s' (mode_of_read hs hread)

/-- The characters of a name are read as its token. -/
theorem foldlM_next_named {name : List Char} (hname : '%' ∉ name) {s : State} (hs : s.mode = .text)
    (rest : List Char) :
    ('%' :: (name ++ '%' :: rest)).foldlM next s =
      (s.read (Token.ofName name) >>= fun s' => rest.foldlM next s') := by
  simp [List.foldlM_append, next_placeholder hs, foldlM_next_name hname, next_end_of_name hs]

/-- The characters of a label are read as its token. -/
theorem foldlM_next_tag {label : List Char} (hopen : '<' ∉ label) (hclose : '>' ∉ label) {s : State}
    (hs : s.mode = .text) (rest : List Char) :
    ('<' :: (label ++ '>' :: rest)).foldlM next s =
      (s.read (Token.ofLabel label) >>= fun s' => rest.foldlM next s') := by
  simp [List.foldlM_append, next_tagOpen hs, foldlM_next_label hopen hclose, next_end_of_label hs]

/-- A name that does not end is still being taken up in the end. -/
theorem foldlM_next_unended {rest : List Char} (hrest : '%' ∉ rest) {s : State}
    (hs : s.mode = .text) :
    ('%' :: rest).foldlM next s =
      .ok { s with
        offset := s.offset + 1 + rest.length
        mode := .placeholder s.offset (String.ofList rest) } := by
  simp [next_placeholder hs, foldlM_next_name hrest]

/-- A label that does not end is still being taken up in the end. -/
theorem foldlM_next_unendedLabel {label : List Char} (hopen : '<' ∉ label) (hclose : '>' ∉ label)
    {s : State} (hs : s.mode = .text) :
    ('<' :: label).foldlM next s =
      .ok { s with
        offset := s.offset + 1 + label.length
        mode := .tag s.offset (String.ofList label) } := by
  simp [next_tagOpen hs, foldlM_next_label hopen hclose]

/-- A label that meets a `<` is text, and the `<` begins anew. -/
theorem foldlM_next_stray {label : List Char} (hopen : '<' ∉ label) (hclose : '>' ∉ label)
    {s : State} (hs : s.mode = .text) (rest : List Char) :
    ('<' :: (label ++ '<' :: rest)).foldlM next s =
      ('<' :: rest).foldlM next
        ((s.skip (label.length + 1)).addText (String.ofList ('<' :: label))) := by
  have hmode : ((s.skip (label.length + 1)).addText (String.ofList ('<' :: label))).mode = .text :=
    hs
  have hnext : next { s with
      offset := s.offset + 1 + label.length
      mode := .tag s.offset (String.ofList label) } '<' =
        next ((s.skip (label.length + 1)).addText (String.ofList ('<' :: label))) '<' := by
    rw [next_tagOpen hmode]
    simp [next, Mark.tagOpen, Mode.pending, addText, skip, advance]
    omega
  rw [← List.cons_append, List.foldlM_append, foldlM_next_unendedLabel hopen hclose hs, ok_bind,
    List.foldlM_cons, List.foldlM_cons, hnext]

/-- Reading the characters of a message gives what reading its tokens gives. -/
theorem foldlM_next_finish {cs : List Char} {ts : List Token} (h : Token.Lexes cs ts) {s : State}
    (hs : s.mode = .text) :
    (cs.foldlM next s >>= finish) = (ts.foldlM read s >>= finish) := by
  induction h generalizing s with
  | nil => rfl
  | named hname _ ih =>
    rw [foldlM_next_named hname hs, bind_assoc, List.foldlM_cons, bind_assoc]
    exact read_bind_congr hs _ fun _ => ih
  | @unended rest hrest =>
    rw [foldlM_read_literal, foldlM_next_unended hrest hs, ok_bind, ok_bind]
    refine finish_congr rfl rfl (String.toList_inj.1 ?_)
    simp [Mode.pending, addText, skip, hs]
  | tag hopen hclose _ ih =>
    rw [foldlM_next_tag hopen hclose hs, bind_assoc, List.foldlM_cons, bind_assoc]
    exact read_bind_congr hs _ fun _ => ih
  | @stray label rest ts hopen hclose hrest _ ih =>
    have hmode :
        ((s.skip ('<' :: label).length).addText (String.ofList ('<' :: label))).mode = .text := hs
    rw [List.foldlM_append, foldlM_read_literal, ok_bind, ← ih hmode]
    cases rest with
    | nil =>
      rw [List.append_nil, foldlM_next_unendedLabel hopen hclose hs]
      refine finish_congr rfl rfl (String.toList_inj.1 ?_)
      simp [Mode.pending, addText, skip, hs]
    | cons c rest =>
      obtain rfl : c = '<' := hrest c rfl
      rw [foldlM_next_stray hopen hclose hs]
      rfl
  | plain hpercent hopen _ ih =>
    rw [List.foldlM_cons, next_plain hs hpercent hopen, bind_assoc, List.foldlM_cons, bind_assoc]
    exact read_bind_congr hs _ fun _ => ih

/-- The labels of the open tags, innermost first. -/
def labels (s : State) : List (List Char) :=
  s.openTags.map fun tag => tag.label.toList

/-- The level counts the open tags, and these are no more than the limit allows. -/
def Counted (s : State) : Prop :=
  s.guard.level = s.openTags.length ∧ (s.openTags.length : Int) ≤ max 0 s.guard.limit

theorem counted_start (limit : Int) : (start limit).Counted := by
  refine ⟨rfl, ?_⟩
  simp only [start, List.length_nil]
  omega

/-- What a tag does to the open tags is what its token does to their labels. -/
theorem openTag_eq_ok {s s' : State} {label : String} (h : s.openTag label = .ok s') :
    s'.labels = label.toList :: s.labels ∧ s'.guard.limit = s.guard.limit ∧
      s'.openTags.length = s.openTags.length + 1 ∧ (s.Counted → s'.Counted) := by
  simp only [openTag] at h
  split at h
  · cases h
  · next hroom =>
    cases h
    refine ⟨rfl, rfl, rfl, fun hs => ?_⟩
    rw [DepthGuard.exceeded_iff, Int.not_le] at hroom
    obtain ⟨hlevel, _⟩ := hs
    simp only [Counted, DepthGuard.deeper, List.length_cons]
    omega

theorem closeTag_eq_ok {s s' : State} {label : String} {position : Nat}
    (h : s.closeTag label position = .ok s') :
    s.labels = label.toList :: s'.labels ∧ s'.guard.limit = s.guard.limit ∧
      s.openTags.length = s'.openTags.length + 1 ∧ (s.Counted → s'.Counted) := by
  simp only [closeTag] at h
  split at h
  · cases h
  · next tag outer htags =>
    split at h
    · next hlabel =>
      cases h
      refine ⟨by simp [labels, htags, hlabel], rfl, by simp [htags], fun hs => ?_⟩
      obtain ⟨hlevel, hle⟩ := hs
      simp only [htags, List.length_cons] at hlevel hle
      simp only [Counted, DepthGuard.exit]
      omega
    · split at h <;> cases h

/-- One token that can be read keeps the count of open tags, and moves their labels as the grammar
    has it. -/
theorem read_eq_ok {s s' : State} {t : Token} (h : s.read t = .ok s') :
    Token.openAfter s.labels t = some s'.labels ∧ s'.guard.limit = s.guard.limit ∧
      (s.Counted → s'.Counted) ∧
      ∀ ts, Token.mostOpen s.openTags.length (t :: ts) ≤
        max s.openTags.length (Token.mostOpen s'.openTags.length ts) := by
  cases t with
  | literal _ | percent | placeholder _ | void _ =>
    cases h
    exact ⟨rfl, rfl, id, fun ts => le_max_right _ _⟩
  | opening label =>
    obtain ⟨hlabels, hlimit, hlength, hcounted⟩ := openTag_eq_ok h
    refine ⟨?_, hlimit, hcounted, fun ts => ?_⟩
    · rw [hlabels, String.toList_ofList]
      rfl
    · rw [hlength]
      exact le_rfl
  | closing label =>
    obtain ⟨hlabels, hlimit, hlength, hcounted⟩ := closeTag_eq_ok h
    refine ⟨?_, hlimit, hcounted, fun ts => ?_⟩
    · rw [String.toList_ofList] at hlabels
      have hlabels : s.labels = label :: s'.labels := hlabels
      simp [hlabels, Token.openAfter]
    · have hlength : s.openTags.length = s'.openTags.length + 1 := hlength
      rw [hlength, Token.mostOpen, Nat.add_sub_cancel]

/-- Tokens that can be read never have more tags open at once than the limit allows. -/
theorem foldlM_read_eq_ok {ts : List Token} {s s' : State} (h : ts.foldlM read s = .ok s')
    (hs : s.Counted) :
    ts.foldlM Token.openAfter s.labels = some s'.labels ∧
      (Token.mostOpen s.openTags.length ts : Int) ≤ max 0 s.guard.limit := by
  induction ts generalizing s with
  | nil =>
    cases h
    exact ⟨rfl, hs.2⟩
  | cons t ts ih =>
    rw [List.foldlM_cons, bind_eq_ok] at h
    obtain ⟨s₁, hread, h⟩ := h
    obtain ⟨hafter, hlimit, hcounted, hmost⟩ := read_eq_ok hread
    obtain ⟨hlabels, hle⟩ := ih h (hcounted hs)
    constructor
    · rw [List.foldlM_cons, hafter]
      exact hlabels
    · have := hmost ts
      have := hs.2
      rw [hlimit] at hle
      omega

end State

end MessageMarkup.Parser
