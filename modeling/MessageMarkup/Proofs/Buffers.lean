import MessageMarkup.Proofs.FlatStack
import Mathlib.Data.List.Induction

/-!
# The buffers of the parser with one stack

While a label or a name is being read, its buffer holds what the message has behind the last mark, and
the other buffer is empty. So what is put back into the text from the message is what the buffer holds,
and the parser with one stack takes the steps of the one with levels.

## Main definitions

- `Machine.Buffered` — the invariant on the buffers

## Main statements

- `Machine.Buffered.next` — one character keeps the invariant
- `Machine.toState_next` — both parsers take the same step
- `Machine.after_induction` — what every character keeps holds after any part of a message
- `Machine.toState_after` — both parsers are in the same state after each part of a message
-/

namespace MessageMarkup.Parser.Machine

open Outcome

/-- The invariant on the buffers, where some characters of a message have been read: the label or name
    that has been begun is in its buffer, behind its mark, and other buffers are empty. -/
def Buffered (read : List Char) (m : Machine) : Prop :=
  m.offset = read.length ∧
    match m.phase with
    | .text => m.label = "" ∧ m.name = ""
    | .tag => read.drop m.switched = Mark.tagOpen :: m.label.toList ∧ m.name = ""
    | .placeholder => read.drop m.switched = Mark.placeholder :: m.name.toList ∧ m.label = ""

theorem buffered_start (limit : Int) : (start limit).Buffered [] :=
  ⟨rfl, rfl, rfl⟩

section

variable {read : List Char} {m : Machine}

theorem Buffered.of_text (hm : m.Buffered read) (hphase : m.phase = .text) :
    m.label = "" ∧ m.name = "" := by
  simp only [Buffered, hphase] at hm
  exact hm.2

theorem Buffered.of_tag (hm : m.Buffered read) (hphase : m.phase = .tag) :
    read.drop m.switched = Mark.tagOpen :: m.label.toList ∧ m.name = "" := by
  simp only [Buffered, hphase] at hm
  exact hm.2

theorem Buffered.of_placeholder (hm : m.Buffered read) (hphase : m.phase = .placeholder) :
    read.drop m.switched = Mark.placeholder :: m.name.toList ∧ m.label = "" := by
  simp only [Buffered, hphase] at hm
  exact hm.2

theorem Buffered.label_eq (hm : m.Buffered read) (hphase : m.phase ≠ .tag) : m.label = "" := by
  cases h : m.phase with
  | text => exact (hm.of_text h).1
  | tag => exact absurd h hphase
  | placeholder => exact (hm.of_placeholder h).2

theorem Buffered.name_eq (hm : m.Buffered read) (hphase : m.phase ≠ .placeholder) : m.name = "" := by
  cases h : m.phase with
  | text => exact (hm.of_text h).2
  | tag => exact (hm.of_tag h).2
  | placeholder => exact absurd h hphase

/-- From the last mark on, what has been read is the markup that has been begun. -/
theorem Buffered.ofList_drop (hm : m.Buffered read) (hphase : m.phase ≠ .text) :
    String.ofList (read.drop m.switched) = m.mode.pending := by
  cases h : m.phase with
  | text => exact absurd h hphase
  | tag => rw [(hm.of_tag h).1, mode, h, Mode.pending]
  | placeholder => rw [(hm.of_placeholder h).1, mode, h, Mode.pending]

end

/-- What is done to the stack leaves the buffers alone. -/
theorem emit_eq (m : Machine) (node : Node) :
    ∃ stack result, m.emit node = { m with stack, result } := by
  unfold emit
  split
  · exact ⟨_, _, rfl⟩
  · exact ⟨_, _, rfl⟩

theorem flushText_eq (m : Machine) :
    ∃ stack result text, m.flushText = { m with stack, result, text } := by
  unfold flushText
  split
  · exact ⟨_, _, _, rfl⟩
  · obtain ⟨stack, result, h⟩ := m.emit_eq (.text m.text)
    exact ⟨stack, result, "", by rw [h]⟩

theorem flushText_emit_eq (m : Machine) (node : Node) :
    ∃ stack result text, m.flushText.emit node = { m with stack, result, text } := by
  obtain ⟨_, _, text, hflush⟩ := m.flushText_eq
  obtain ⟨stack, result, hemit⟩ := m.flushText.emit_eq node
  exact ⟨stack, result, text, by rw [hemit, hflush]⟩

theorem applyTag_eq_ok {m m' : Machine} {t : TagToken} (h : m.applyTag t = .ok m') :
    ∃ guard stack result text, m' = { m with guard, stack, result, text } := by
  cases t with
  | opening label =>
    simp only [applyTag, openTag] at h
    split at h
    · cases h
    · cases h
      obtain ⟨_, result, text, hflush⟩ := m.flushText_eq
      exact ⟨_, _, result, text, by rw [hflush]⟩
  | closing label =>
    simp only [applyTag, closeTag] at h
    split at h
    · cases h
    · split at h
      · cases h
        obtain ⟨stack, result, hemit⟩ := emit_eq _ _
        exact ⟨_, stack, result, _, hemit⟩
      · split at h <;> cases h
  | void label =>
    cases h
    obtain ⟨stack, result, text, hemit⟩ := m.flushText_emit_eq (Node.ofVoidLabel label)
    exact ⟨_, stack, result, text, hemit⟩

/-- The part of a message that has been read, from some place on. -/
theorem extract_append (read rest : List Char) (i : Nat) :
    (read ++ rest).extract i read.length = read.drop i := by
  rw [List.extract_eq_take_drop, ← List.drop_take, List.take_left]

theorem drop_append_singleton {read cs : List Char} {i : Nat} {c : Char} (h : read.drop i = c :: cs)
    (d : Char) : (read ++ [d]).drop i = c :: (cs ++ [d]) := by
  have hi : i ≤ read.length := by
    by_contra hi
    rw [List.drop_eq_nil_of_le (by omega)] at h
    cases h
  rw [List.drop_append_of_le_length hi, h, List.cons_append]

/-- A mark has just been read if nothing is in the buffer behind it. -/
theorem sub_eq_one_iff {read : List Char} {i : Nat} {c : Char} {buffer : String}
    (h : read.drop i = c :: buffer.toList) : read.length - i = 1 ↔ buffer = "" := by
  have hlength := congrArg List.length h
  rw [List.length_drop, List.length_cons, String.length_toList] at hlength
  rw [hlength, Nat.add_eq_right, String.length_eq_zero_iff]

/-- One more character leaves the buffers as they should be. -/
theorem Buffered.next {read source : List Char} {m m' : Machine} {c : Char} (hm : m.Buffered read)
    (h : m.next source c = .ok m') : m'.Buffered (read ++ [c]) := by
  have hoffset : m.offset + 1 = (read ++ [c]).length := by
    rw [hm.1, List.length_append, List.length_singleton]
  have hswitched : (read ++ [c]).drop m.offset = [c] := by rw [hm.1, List.drop_left]
  cases step_of_next h with
  | beginTag hphase =>
    obtain ⟨hlabel, hname⟩ := hm.of_text hphase
    exact ⟨hoffset, by simp [hswitched, hlabel], hname⟩
  | beginName hphase =>
    obtain ⟨hlabel, hname⟩ := hm.of_text hphase
    exact ⟨hoffset, by simp [hswitched, hname], hlabel⟩
  | plain hphase => exact ⟨hoffset, by simpa [hphase] using hm.of_text hphase⟩
  | beginAgain hphase =>
    exact ⟨hoffset, by simpa [hphase, hswitched] using (hm.of_tag hphase).2⟩
  | endTag hphase happly =>
    obtain ⟨_, _, _, _, rfl⟩ := applyTag_eq_ok happly
    exact ⟨hoffset, rfl, (hm.of_tag hphase).2⟩
  | label hphase =>
    obtain ⟨hlabel, hname⟩ := hm.of_tag hphase
    exact ⟨hoffset, by simp [hphase, drop_append_singleton hlabel, hname]⟩
  | name hphase =>
    obtain ⟨hname, hlabel⟩ := hm.of_placeholder hphase
    exact ⟨hoffset, by simp [hphase, drop_append_singleton hname, hlabel]⟩
  | percent hphase hescape =>
    obtain ⟨hname, hlabel⟩ := hm.of_placeholder hphase
    rw [hm.1, sub_eq_one_iff hname] at hescape
    exact ⟨hoffset, hlabel, hescape⟩
  | endName hphase =>
    obtain ⟨_, _, _, hemit⟩ := flushText_emit_eq _ _
    rw [hemit]
    exact ⟨hoffset, (hm.of_placeholder hphase).2, rfl⟩

/-- The parser with one stack takes the step of the one with levels. -/
theorem toState_next {read : List Char} {m : Machine} (hm : m.Buffered read) (rest : List Char)
    (c : Char) : (m.next (read ++ rest) c).map toState = m.toState.next c := by
  have hoffset : m.offset = read.length := hm.1
  cases hphase : m.phase with
  | text =>
    obtain ⟨hlabel, hname⟩ := hm.of_text hphase
    have hmode : m.toState.mode = .text := by simp [toState, mode, hphase]
    simp only [next, State.next, hphase, hmode]
    split
    · simp [Except.map, toState, mode, State.advance, hlabel]
    · split
      · simp [Except.map, toState, mode, State.advance, hname]
      · simp [Except.map, toState, mode, State.advance, State.addText]
  | tag =>
    have hmode : m.toState.mode = .tag m.switched m.label := by simp [toState, mode, hphase]
    -- What is put back into the text is what the buffer says.
    have hpending : String.ofList ((read ++ rest).extract m.switched m.offset) =
        m.toState.mode.pending := by
      rw [hoffset, extract_append, hm.ofList_drop (by simp [hphase])]
      rfl
    simp only [next, State.next, hphase, hpending, hmode]
    split
    · rfl
    · split
      · exact toState_applyTag { m with offset := m.offset + 1, phase := .text, label := "" } _
      · rfl
  | placeholder =>
    have hmode : m.toState.mode = .placeholder m.switched m.name := by simp [toState, mode, hphase]
    have hescape : m.offset - m.switched = 1 ↔ m.name = "" := by
      rw [hoffset, sub_eq_one_iff (hm.of_placeholder hphase).1]
    simp only [next, State.next, hphase, hmode, hescape]
    split
    · rfl
    · split
      · simp [Except.map, toState, mode, State.advance, State.addText]
      · exact congrArg Except.ok (toState_flushText_emit
          { m with offset := m.offset + 1, phase := .text, name := "" } (.placeholder m.name))

theorem after_append_singleton (limit : Int) (source read : List Char) (c : Char) :
    after limit source (read ++ [c]) = (after limit source read >>= fun m => m.next source c) := by
  simp [after, List.foldlM_append]

/-- What holds at the start and is kept by every character holds after a part of a message. -/
theorem after_induction {limit : Int} {source : List Char} {P : List Char → Machine → Prop}
    (hstart : P [] (start limit))
    (hnext : ∀ read m m' c, P read m → m.next source c = .ok m' → P (read ++ [c]) m')
    {read : List Char} {m : Machine} (h : after limit source read = .ok m) : P read m := by
  induction read using List.reverseRecOn generalizing m with
  | nil =>
    cases h
    exact hstart
  | append_singleton read c ih =>
    rw [after_append_singleton, bind_eq_ok] at h
    obtain ⟨m₁, hread, hm⟩ := h
    exact hnext read m₁ m c (ih hread) hm

theorem buffered_after {limit : Int} {source read : List Char} {m : Machine}
    (h : after limit source read = .ok m) : m.Buffered read :=
  after_induction (buffered_start limit) (fun _ _ _ _ hm h => hm.next h) h

/-- After each part of a message both parsers are in the same state, or have failed for the same
    reason. -/
theorem toState_after (limit : Int) (read rest : List Char) :
    (after limit (read ++ rest) read).map toState = read.foldlM State.next (State.start limit) := by
  induction read using List.reverseRecOn generalizing rest with
  | nil => rfl
  | append_singleton read c ih =>
    have hsource : read ++ [c] ++ rest = read ++ (c :: rest) := by simp
    rw [hsource, after_append_singleton, List.foldlM_append, ← ih]
    cases hafter : after limit (read ++ (c :: rest)) read with
    | error fault => rfl
    | ok m =>
      have hstep := toState_next (buffered_after hafter) (c :: rest) c
      simpa [Except.map] using hstep

end MessageMarkup.Parser.Machine
