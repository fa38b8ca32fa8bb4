import MessageMarkup.Proofs.Buffers

/-!
# What the stack holds

Whatever part of a message has been read, the stack of the parser is empty or has an open tag at its
bottom, the guard counts the open tags on it, and nothing is added to the result while a tag is open.

## Main definitions

- `Enclosed` — the stack is empty or has an open tag at its bottom
- `Machine.Adds` — what is added to open tags leaves the result alone
- `Machine.Invariant` — what holds after any part of a message

## Main statements

- `Machine.adds_or_closeTag_of_next` — what one character does to the stack
- `Machine.enclosed_next`, `Machine.result_next`, `State.counted_next` — what it keeps
- `Machine.run_eq` — both parsers read a message as the same nodes, or fail for the same reason
- `Machine.reading_keeps_invariant` — what any part of a message keeps
-/

namespace MessageMarkup.Parser

open Outcome

/-- The stack is empty or has an open tag at its bottom. -/
def Enclosed (stack : List Entry) : Prop :=
  stack = [] ∨ ∃ label, stack.getLast? = some (.pending label)

theorem Enclosed.pending_cons {stack : List Entry} (h : Enclosed stack) (label : String) :
    Enclosed (.pending label :: stack) := by
  obtain rfl | ⟨bottom, hbottom⟩ := h
  · exact .inr ⟨label, rfl⟩
  · exact .inr ⟨bottom, by rw [List.getLast?_cons, hbottom]; rfl⟩

theorem Enclosed.done_cons {stack : List Entry} (h : Enclosed stack) (hne : stack ≠ []) (node : Node) :
    Enclosed (.done node :: stack) := by
  obtain rfl | ⟨bottom, hbottom⟩ := h
  · exact absurd rfl hne
  · exact .inr ⟨bottom, by rw [List.getLast?_cons, hbottom]; rfl⟩

theorem Enclosed.tail {entry : Entry} {stack : List Entry} (h : Enclosed (entry :: stack)) :
    Enclosed stack := by
  cases stack with
  | nil => exact .inl rfl
  | cons entry' stack =>
    obtain h | ⟨bottom, hbottom⟩ := h
    · cases h
    · exact .inr ⟨bottom, by rwa [List.getLast?_cons_cons] at hbottom⟩

/-- A node on the stack has an open tag below it. -/
theorem Enclosed.exists_pending {front back : List Entry} {node : Node}
    (h : Enclosed (front ++ .done node :: back)) : ∃ label, .pending label ∈ back := by
  obtain h | ⟨bottom, hbottom⟩ := h
  · simp at h
  · cases hback : back.getLast? with
    | none => simp [List.getLast?_append, List.getLast?_cons, hback] at hbottom
    | some entry =>
      have hentry : entry = .pending bottom := by
        simpa [List.getLast?_append, List.getLast?_cons, hback] using hbottom
      exact ⟨bottom, hentry ▸ List.mem_of_getLast? hback⟩

/-- Only an empty stack has no tag to pop. -/
theorem Enclosed.eq_nil_of_unwind {children : List Node} {stack : List Entry} (h : Enclosed stack)
    (hunwind : unwind children stack = none) : stack = [] := by
  induction stack generalizing children with
  | nil => rfl
  | cons entry stack ih =>
    cases entry with
    | done node =>
      obtain rfl := ih h.tail hunwind
      obtain h | ⟨label, h⟩ := h <;> cases h
    | pending label => cases hunwind

theorem Enclosed.of_unwind {children children' : List Node} {label : String}
    {stack outer : List Entry} (h : Enclosed stack)
    (hunwind : unwind children stack = some (children', label, outer)) : Enclosed outer := by
  induction stack generalizing children with
  | nil => cases hunwind
  | cons entry stack ih =>
    cases entry with
    | done node => exact ih h.tail hunwind
    | pending _ =>
      cases hunwind
      exact h.tail

/-- There are as many levels as open tags on the stack. -/
theorem length_levels (result : List Node) (stack : List Entry) :
    (levels result stack).2.length = stack.countP Entry.isPending := by
  induction stack with
  | nil => rfl
  | cons entry stack ih =>
    cases entry with
    | done node => simpa [levels, Entry.isPending] using ih
    | pending label => simpa [levels, Entry.isPending, List.countP_cons] using ih

namespace Machine

/-- What is added where tags are open leaves them open and the result alone. -/
def Adds (m m' : Machine) : Prop :=
  (Enclosed m.stack → Enclosed m'.stack) ∧
    (m.stack ≠ [] → m'.stack ≠ [] ∧ m'.result = m.result)

theorem Adds.refl (m : Machine) : m.Adds m :=
  ⟨id, fun h => ⟨h, rfl⟩⟩

theorem Adds.trans {m₁ m₂ m₃ : Machine} (h : m₁.Adds m₂) (h' : m₂.Adds m₃) : m₁.Adds m₃ := by
  refine ⟨fun hm => h'.1 (h.1 hm), fun hm => ?_⟩
  obtain ⟨hm₂, hresult₂⟩ := h.2 hm
  obtain ⟨hm₃, hresult₃⟩ := h'.2 hm₂
  exact ⟨hm₃, hresult₃.trans hresult₂⟩

theorem adds_emit (m : Machine) (node : Node) : m.Adds (m.emit node) := by
  unfold emit
  split
  · next hstack => exact ⟨id, fun hm => absurd hstack hm⟩
  · next hstack => exact ⟨fun hm => hm.done_cons hstack node, fun _ => ⟨List.cons_ne_nil _ _, rfl⟩⟩

theorem adds_flushText (m : Machine) : m.Adds m.flushText := by
  unfold flushText
  split
  · exact .refl m
  · exact m.adds_emit (.text m.text)

theorem adds_flushText_emit (m : Machine) (node : Node) : m.Adds (m.flushText.emit node) :=
  m.adds_flushText.trans (m.flushText.adds_emit node)

/-- A tag adds to the stack, unless it is a close tag. -/
theorem adds_or_closeTag_of_applyTag {m m' : Machine} {t : TagToken} (h : m.applyTag t = .ok m') :
    m.Adds m' ∨ ∃ label, m.closeTag label = .ok m' := by
  cases t with
  | opening label =>
    simp only [applyTag, openTag] at h
    split at h
    · cases h
    · cases h
      obtain ⟨henclosed, hresult⟩ := m.adds_flushText
      exact .inl ⟨fun hm => (henclosed hm).pending_cons label,
        fun hm => ⟨List.cons_ne_nil _ _, (hresult hm).2⟩⟩
  | closing label => exact .inr ⟨label, h⟩
  | void label =>
    cases h
    exact .inl (m.adds_flushText_emit _)

/-- A character adds to the stack, or it ends a close tag. -/
theorem adds_or_closeTag_of_next {source : List Char} {m m' : Machine} {c : Char}
    (h : m.next source c = .ok m') :
    m.Adds m' ∨ ∃ (m₁ : Machine) (label : String), m₁.stack = m.stack ∧ m₁.result = m.result ∧
      m₁.closeTag label = .ok m' := by
  cases step_of_next h with
  | beginTag _ | beginName _ | plain _ | beginAgain _ | label _ | name _ | percent _ _ =>
    exact .inl (.refl m)
  | endTag _ happly =>
    obtain hadds | ⟨label, hclose⟩ := adds_or_closeTag_of_applyTag happly
    · exact .inl hadds
    · exact .inr
        ⟨{ m with offset := m.offset + 1, phase := .text, label := "" }, label, rfl, rfl, hclose⟩
  | endName _ =>
    exact .inl (adds_flushText_emit
      { m with offset := m.offset + 1, phase := .text, name := "" } (.placeholder m.name))

/-- A close tag pops its tag with the nodes inside, and adds it as one node. -/
theorem closeTag_eq_ok {m m' : Machine} {label : String} (h : m.closeTag label = .ok m') :
    ∃ children outer, unwind (textNodes m.text) m.stack = some (children, label, outer) ∧
      m' = { m with guard := m.guard.exit, text := "", stack := outer }.emit
        (Node.ofTagLabel label children) := by
  simp only [closeTag] at h
  split at h
  · cases h
  · next children innermost outer hunwind =>
    split at h
    · next hlabel =>
      subst hlabel
      cases h
      exact ⟨children, outer, hunwind, rfl⟩
    · split at h <;> cases h

theorem enclosed_next {source : List Char} {m m' : Machine} {c : Char}
    (h : m.next source c = .ok m') (hm : Enclosed m.stack) : Enclosed m'.stack := by
  obtain hadds | ⟨m₁, label, hstack, -, hclose⟩ := adds_or_closeTag_of_next h
  · exact hadds.1 hm
  · obtain ⟨children, outer, hunwind, rfl⟩ := closeTag_eq_ok hclose
    rw [hstack] at hunwind
    exact (adds_emit _ _).1 (hm.of_unwind hunwind)

/-- Where a tag is open, a character leaves the result alone, unless it closes the last open tag, which
    is then added as one node. -/
theorem result_next {source : List Char} {m m' : Machine} {c : Char}
    (h : m.next source c = .ok m') (hm : m.stack ≠ []) :
    m'.result = m.result ∨
      m'.stack = [] ∧ ∃ label children, m'.result = m.result ++ [Node.ofTagLabel label children] := by
  obtain hadds | ⟨m₁, label, -, hresult, hclose⟩ := adds_or_closeTag_of_next h
  · exact .inl (hadds.2 hm).2
  · obtain ⟨children, outer, -, rfl⟩ := closeTag_eq_ok hclose
    unfold emit
    split
    · next hstack => exact .inr ⟨hstack, label, children, congrArg (· ++ _) hresult⟩
    · exact .inl hresult

theorem enclosed_after {limit : Int} {source read : List Char} {m : Machine}
    (h : after limit source read = .ok m) : Enclosed m.stack :=
  after_induction (P := fun _ m => Enclosed m.stack) (.inl rfl)
    (fun _ _ _ _ hm h => enclosed_next h hm) h

/-- While tags are open, the result stays as it is. -/
theorem result_after {limit : Int} {source read more : List Char} {m m' : Machine}
    (hread : after limit source read = .ok m) (hmore : after limit source (read ++ more) = .ok m')
    (hopen : ∀ front m₁, front <+: more → after limit source (read ++ front) = .ok m₁ →
      m₁.stack ≠ []) : m'.result = m.result := by
  induction more using List.reverseRecOn generalizing m' with
  | nil =>
    rw [List.append_nil, hread] at hmore
    cases hmore
    rfl
  | append_singleton more c ih =>
    have hmore' := hmore
    rw [← List.append_assoc, after_append_singleton, bind_eq_ok] at hmore
    obtain ⟨m₁, hm₁, hnext⟩ := hmore
    have hresult : m₁.result = m.result :=
      ih hm₁ fun front m₂ hfront => hopen front m₂ (hfront.trans (List.prefix_append more [c]))
    have hstack : m₁.stack ≠ [] := hopen more m₁ (List.prefix_append more [c]) hm₁
    obtain h | ⟨hempty, _⟩ := result_next hnext hstack
    · exact h.trans hresult
    · exact absurd hempty (hopen (more ++ [c]) m' (List.prefix_refl _) hmore')

/-- A stack that is not empty has an open tag. -/
theorem openTags_toState_eq_nil {m : Machine} (hm : Enclosed m.stack) :
    m.toState.openTags = [] ↔ m.stack = [] := by
  have hlength : m.toState.openTags.length = m.openCount := length_levels m.result m.stack
  rw [← List.length_eq_zero_iff, hlength]
  obtain hstack | ⟨label, hbottom⟩ := hm
  · simp [openCount, hstack]
  · have hmem := List.mem_of_getLast? hbottom
    have hpos : 0 < m.openCount := List.countP_pos_iff.2 ⟨_, hmem, rfl⟩
    exact iff_of_false (by omega) (List.ne_nil_of_mem hmem)

/-- At the end, too, both parsers give the same. -/
theorem toState_finish {source : List Char} {m : Machine} (hm : m.Buffered source)
    (hstack : Enclosed m.stack) : m.finish source = m.toState.finish := by
  simp only [finish, State.finish, openTags_toState_eq_nil hstack, ne_eq, ite_not]
  split
  · next hempty =>
    have hnodes : m.toState.nodes = m.result := by rw [toState, hempty, levels]
    rw [State.siblings, State.addText, hnodes]
    split
    · next hphase => simp [toState, mode, hphase, Mode.pending]
    · next hphase =>
      rw [hm.ofList_drop hphase]
      rfl
  · rfl

/-- Both parsers read a message as the same nodes, or fail for the same reason. -/
theorem run_eq (limit : Int) (source : List Char) : run limit source = Parser.run limit source := by
  have hafter := toState_after limit source []
  rw [List.append_nil] at hafter
  rw [run, Parser.run, ← hafter]
  cases hm : after limit source source with
  | error fault => rfl
  | ok m => exact toState_finish (buffered_after hm) (enclosed_after hm)

end Machine

/-- A character keeps the limit, and the count of open tags. -/
theorem State.counted_next {s s' : State} {c : Char} (h : s.next c = .ok s') :
    s'.guard.limit = s.guard.limit ∧ (s.Counted → s'.Counted) := by
  simp only [next] at h
  split at h
  · split at h
    · cases h
      exact ⟨rfl, id⟩
    · split at h <;> cases h <;> exact ⟨rfl, id⟩
  · next label _ =>
    split at h
    · cases h
      exact ⟨rfl, id⟩
    · split at h
      · generalize TagToken.ofLabel label = t at h
        cases t with
        | opening label =>
          obtain ⟨_, hlimit, _, hcounted⟩ := openTag_eq_ok h
          exact ⟨hlimit, hcounted⟩
        | closing label =>
          obtain ⟨_, hlimit, _, hcounted⟩ := closeTag_eq_ok h
          exact ⟨hlimit, hcounted⟩
        | void label =>
          cases h
          exact ⟨rfl, id⟩
      · cases h
        exact ⟨rfl, id⟩
  · split at h
    · cases h
      exact ⟨rfl, id⟩
    · split at h <;> cases h <;> exact ⟨rfl, id⟩

theorem State.counted_foldlM_next {cs : List Char} {s s' : State} (h : cs.foldlM next s = .ok s')
    (hs : s.Counted) : s'.guard.limit = s.guard.limit ∧ s'.Counted := by
  induction cs generalizing s with
  | nil =>
    cases h
    exact ⟨rfl, hs⟩
  | cons c cs ih =>
    rw [List.foldlM_cons, bind_eq_ok] at h
    obtain ⟨s₁, hnext, h⟩ := h
    obtain ⟨hlimit, hcounted⟩ := counted_next hnext
    obtain ⟨hlimit', hs'⟩ := ih h (hcounted hs)
    exact ⟨hlimit'.trans hlimit, hs'⟩

namespace Machine

/-- The character at a place, and what has been read behind it. -/
theorem getElem?_and_extract {read cs : List Char} {i : Nat} {c : Char} (h : read.drop i = c :: cs)
    (rest : List Char) :
    (read ++ rest)[i]? = some c ∧ (read ++ rest).extract (i + 1) read.length = cs := by
  have hget : read[i]? = some c := by rw [← List.head?_drop, h, List.head?_cons]
  have hi : i < read.length := (List.getElem?_eq_some_iff.1 hget).1
  refine ⟨by rw [List.getElem?_append_left hi, hget], ?_⟩
  rw [extract_append, ← List.tail_drop, h, List.tail_cons]

/-- What holds once some characters of a message have been read. -/
structure Invariant (limit : Int) (source : List Char) (count : Nat) (m : Machine) : Prop where
  offset_eq : m.offset = count
  /-- The guard counts the open tags on the stack. -/
  level_eq : m.guard.level = m.openCount
  level_le : m.guard.level ≤ max 0 (min limit 475)
  /-- The stack is empty or has an open tag at its bottom. -/
  bottom : m.stack = [] ∨ ∃ label, m.stack.getLast? = some (.pending label)
  /-- A node on the stack has the tag around it further down. -/
  around : ∀ front node back, m.stack = front ++ .done node :: back → ∃ label, .pending label ∈ back
  /-- No tag is found for a close tag only if the stack was empty. -/
  exhausted : ∀ children, unwind children m.stack = none → m.stack = []
  tag : m.phase = .tag →
    source[m.switched]? = some '<' ∧ m.label.toList = source.extract (m.switched + 1) count
  no_tag : m.phase ≠ .tag → m.label = ""
  placeholder : m.phase = .placeholder →
    source[m.switched]? = some '%' ∧ m.name.toList = source.extract (m.switched + 1) count
  no_placeholder : m.phase ≠ .placeholder → m.name = ""

theorem counted_after {limit : Int} {read rest : List Char} {m : Machine}
    (h : after limit (read ++ rest) read = .ok m) :
    m.guard.limit = Nesting.clamp limit ∧ m.toState.Counted := by
  have hstate := toState_after limit read rest
  rw [h] at hstate
  exact State.counted_foldlM_next hstate.symm (State.counted_start limit)

theorem invariant_after {limit : Int} {read rest : List Char} {m : Machine}
    (h : after limit (read ++ rest) read = .ok m) :
    m.Invariant limit (read ++ rest) read.length := by
  have hbuffered := buffered_after h
  have henclosed := enclosed_after h
  obtain ⟨hlimit, hlevel, hle⟩ := counted_after h
  have hlevel' : m.guard.level = m.openCount := by
    rw [openCount, ← length_levels m.result m.stack]
    exact hlevel
  have hle' : m.guard.level ≤ max 0 (min limit 475) := by
    have hclamp : m.guard.limit = min limit 475 := hlimit
    rw [← hclamp]
    exact hlevel.trans_le hle
  refine {
    offset_eq := hbuffered.1
    level_eq := hlevel'
    level_le := hle'
    bottom := henclosed
    around := fun front node back hstack => (hstack ▸ henclosed).exists_pending
    exhausted := fun children => henclosed.eq_nil_of_unwind
    tag := fun hphase => ?_
    no_tag := hbuffered.label_eq
    placeholder := fun hphase => ?_
    no_placeholder := hbuffered.name_eq }
  · obtain ⟨hget, hextract⟩ := getElem?_and_extract (hbuffered.of_tag hphase).1 rest
    exact ⟨hget, hextract.symm⟩
  · obtain ⟨hget, hextract⟩ := getElem?_and_extract (hbuffered.of_placeholder hphase).1 rest
    exact ⟨hget, hextract.symm⟩

/-- Whatever part of a message has been read, the parser with one stack is in the state of the parser,
    or has failed as it has, and its stack and buffers are as they should be. A character that meets an
    open tag changes the result only by closing the last one, and as long as tags stay open the result
    stays as it is. -/
theorem reading_keeps_invariant (limit : Int) (source : String) (read rest : List Char)
    (hsource : source.toList = read ++ rest) :
    (after limit source.toList read).map toState = read.foldlM State.next (State.start limit) ∧
      run limit source.toList = Parser.run limit source.toList ∧
      ∀ m, after limit source.toList read = .ok m →
        m.Invariant limit source.toList read.length ∧
          (∀ c m', m.next source.toList c = .ok m' → m.stack ≠ [] →
            m'.result = m.result ∨ m'.stack = [] ∧
              ∃ label children, m'.result = m.result ++ [Node.ofTagLabel label children]) ∧
          ∀ more m', after limit source.toList (read ++ more) = .ok m' →
            (∀ front m₁, front <+: more → after limit source.toList (read ++ front) = .ok m₁ →
              m₁.stack ≠ []) → m'.result = m.result := by
  rw [hsource]
  refine ⟨toState_after limit read rest, run_eq limit _, fun m hm => ?_⟩
  exact ⟨invariant_after hm, fun c m' => result_next, fun more m' => result_after hm⟩

/-- Behind a tag that has been opened and a text, a label is being read. -/
theorem reading_keeps_invariant_label :
    "<a>x<b y".toList = "<a>x<b".toList ++ " y".toList ∧
      ∃ m, after 100 "<a>x<b y".toList "<a>x<b".toList = .ok m ∧
        m.stack = [.pending "a"] ∧ m.text = "x" ∧ m.label = "b" ∧
        m.Invariant 100 "<a>x<b y".toList 6 := by
  have hsource : "<a>x<b y".toList = "<a>x<b".toList ++ " y".toList := by decide +kernel
  have hafter : after 100 "<a>x<b y".toList "<a>x<b".toList =
      .ok ⟨⟨100, 1⟩, 6, .tag, [.pending "a"], [], "x", "b", "", 4⟩ := by decide +kernel
  obtain ⟨_, _, hinvariant⟩ := reading_keeps_invariant 100 "<a>x<b y" "<a>x<b".toList " y".toList hsource
  exact ⟨hsource, _, hafter, rfl, rfl, rfl, (hinvariant _ hafter).1⟩

end Machine

end MessageMarkup.Parser
