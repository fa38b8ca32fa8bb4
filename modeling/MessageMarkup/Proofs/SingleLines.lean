import Mathlib.Data.List.Basic
import MessageMarkup.Proofs.Quotation

/-!
# Failures in single lines

The text of a failure is meant to have one line for its header and one for each further fact. Quoted
messages are written without line breaks, but labels, names and keys are put into the header, and a
locale into its line, as they are. So the text has the lines that it should have just if these hold
no line break.

## Main definitions

- `Text.OneLine` — a text without line breaks

## Main statements

- `Text.splitOn_intercalate_iff` — when joined pieces are found again
- `Diagnostic.splitOn_block_iff` — when a diagnostic has the lines that it should have
- `Failure.break_mem_message_iff` — where a line break in the header of a failure comes from
- `Call.single_lines` — when a failure has the lines that it should have
-/

namespace MessageMarkup

open Outcome
open Plural (LocaleData)

namespace Text

/-- A text without line breaks. -/
def OneLine (s : String) : Prop :=
  '\n' ∉ s.toList ∧ '\r' ∉ s.toList

instance (s : String) : Decidable (OneLine s) :=
  inferInstanceAs (Decidable (_ ∧ _))

theorem oneLine_iff {s : String} : OneLine s ↔ ∀ c, c = '\n' ∨ c = '\r' → c ∉ s.toList := by
  simp [OneLine]

/-- A text of characters of a single line is a single line. -/
theorem OneLine.of_subset {s t : String} (h : OneLine t) (hsubset : s.toList ⊆ t.toList) :
    OneLine s :=
  ⟨fun hc => h.1 (hsubset hc), fun hc => h.2 (hsubset hc)⟩

section Lines

variable {α : Type} [BEq α] [LawfulBEq α] {x : α}

/-- No piece of a list that is cut at an element holds it. -/
theorem notMem_of_mem_splitOn {xs piece : List α} (h : piece ∈ xs.splitOn x) : x ∉ piece := by
  induction xs generalizing piece with
  | nil =>
    obtain rfl : piece = [] := by simpa using h
    exact List.not_mem_nil
  | cons y ys ih =>
    rw [List.splitOn_cons_eq_if_modifyHead] at h
    split at h
    · obtain rfl | h := List.mem_cons.1 h
      · exact List.not_mem_nil
      · exact ih h
    · next hy =>
      obtain ⟨first, rest, hsplit⟩ := List.exists_cons_of_ne_nil (List.splitOn_ne_nil x ys)
      rw [hsplit, List.modifyHead_cons] at h
      obtain rfl | h := List.mem_cons.1 h
      · have hfirst : x ∉ first := ih (by simp [hsplit])
        have hne : x ≠ y := fun he => hy (by simp [he])
        simp [hfirst, hne]
      · exact ih (by simp [hsplit, h])

/-- Pieces that are joined by an element are found again by cutting at it just if none holds it. -/
theorem splitOn_intercalate_iff {pieces : List (List α)} (hne : pieces ≠ []) :
    ([x].intercalate pieces).splitOn x = pieces ↔ ∀ piece ∈ pieces, x ∉ piece := by
  constructor
  · intro h piece hpiece
    rw [← h] at hpiece
    exact notMem_of_mem_splitOn hpiece
  · intro h
    exact List.splitOn_intercalate x h hne

end Lines

theorem isDigit_of_mem_toString {n : Nat} {c : Char} (h : c ∈ (toString n).toList) :
    c.isDigit = true := by
  rw [show toString n = String.ofList (Nat.toDigits 10 n) from Nat.repr_eq_ofList_toDigits,
    String.toList_ofList] at h
  exact Nat.isDigit_of_mem_toDigits (by decide) (by decide) h

theorem oneLine_toString_nat (n : Nat) : OneLine (toString n) :=
  ⟨fun h => absurd (isDigit_of_mem_toString h) (by decide),
    fun h => absurd (isDigit_of_mem_toString h) (by decide)⟩

theorem oneLine_repr (n : Int) : OneLine n.repr := by
  rw [Int.repr_eq_if]
  split
  · exact oneLine_toString_nat _
  · have h := oneLine_toString_nat (-n).toNat
    constructor
    · simpa using h.1
    · simpa using h.2

end Text

namespace Diagnostic

theorem break_notMem_escapeBreaks {c : Char} (h : c = '\n' ∨ c = '\r') (cs : List Char) :
    c ∉ escapeBreaks cs := by
  induction cs with
  | nil => exact List.not_mem_nil
  | cons d cs ih =>
    rw [escapeBreaks]
    split
    · obtain rfl | rfl := h <;> simp [ih]
    · split
      · obtain rfl | rfl := h <;> simp [ih]
      · next hr hn =>
        have hne : c ≠ d := by
          rintro rfl
          exact h.elim hn hr
        simp [ih, hne]

/-- A quoted message is a single line, wherever it is cut. -/
theorem oneLine_clip (length : Int) (source : String) : Text.OneLine (clip length source) := by
  rw [Text.oneLine_iff]
  intro c hc
  have hescaped := break_notMem_escapeBreaks hc source.toList
  have htake : c ∉ takeSigned length (escapeBreaks source.toList) := by
    rw [takeSigned]
    split
    · exact fun h => hescaped (List.mem_of_mem_take h)
    · exact fun h => hescaped (List.mem_of_mem_take h)
  have hdots : c ∉ "...".toList := by
    obtain rfl | rfl := hc <;> decide
  simp only [clip]
  split
  · simpa using hescaped
  · simp only [String.toList_append, String.toList_ofList, List.mem_append, htake, hdots, or_self,
      not_false_eq_true]

theorem oneLine_severity (s : Severity) : Text.OneLine s.name := by
  cases s <;> decide

theorem oneLine_code (c : Code) : Text.OneLine c.name := by
  cases c <;> decide

/-- A line of a fact that may be missing is broken just if the fact is. -/
theorem newline_notMem_labelled_iff {label : String} (hlabel : '\n' ∉ label.toList)
    (fact : Option String) :
    (∀ line ∈ ((nonempty fact).map (label ++ ·)).toList, '\n' ∉ line.toList) ↔
      ∀ text ∈ fact.toList, '\n' ∉ text.toList := by
  cases fact with
  | none => simp [nonempty]
  | some text =>
    by_cases hempty : text = ""
    · simp [nonempty, hempty]
    · simp [nonempty, Option.filter, hempty, hlabel]

/-- The block of a diagnostic has a line for its header and one for each further fact just if no line
    is broken in its message, its locale or its hint. -/
theorem splitOn_block_iff (length : Int) (d : Diagnostic) :
    (d.block length).toList.splitOn '\n' = (d.blockLines length).map String.toList ↔
      ∀ text ∈ d.message :: (d.locale.toList ++ d.hint.toList), '\n' ∉ text.toList := by
  have hheader : '\n' ∉ (d.severity.name ++ "[" ++ d.code.name ++ "]: " ++ d.message).toList ↔
      '\n' ∉ d.message.toList := by
    simp [(oneLine_severity d.severity).1, (oneLine_code d.code).1]
  have hspan : ∀ line ∈ (d.span.map fun s => "  --> offset " ++ toString s.start).toList,
      '\n' ∉ line.toList := by
    intro line hline
    obtain ⟨s, _, rfl⟩ := Option.map_eq_some_iff.1 (Option.mem_toList.1 hline)
    simpa using (Text.oneLine_toString_nat s.start).1
  have hsource : ∀ line ∈ (d.source.map fun s => "  = source: " ++ clip length s).toList,
      '\n' ∉ line.toList := by
    intro line hline
    obtain ⟨s, _, rfl⟩ := Option.map_eq_some_iff.1 (Option.mem_toList.1 hline)
    simpa using (oneLine_clip length s).1
  have hlocale := newline_notMem_labelled_iff (show '\n' ∉ "  = locale: ".toList by decide) d.locale
  have hhint := newline_notMem_labelled_iff (show '\n' ∉ "  = help: ".toList by decide) d.hint
  rw [block, String.toList_intercalate, show "\n".toList = ['\n'] from rfl,
    Text.splitOn_intercalate_iff (by simp [blockLines]), List.forall_mem_map]
  simp only [blockLines, List.forall_mem_cons, List.forall_mem_append, hheader, hlocale, hhint]
  exact ⟨fun ⟨hmessage, ⟨⟨_, hlocale⟩, _⟩, hhint⟩ => ⟨hmessage, hlocale, hhint⟩,
    fun ⟨hmessage, hlocale, hhint⟩ => ⟨hmessage, ⟨⟨hspan, hlocale⟩, hsource⟩, hhint⟩⟩

end Diagnostic

namespace Failure

/-- A line break in the header of a failure is one of a text that it quotes. -/
theorem break_mem_message_iff {c : Char} (hc : c = '\n' ∨ c = '\r') (failure : Failure) :
    c ∈ failure.diagnostic.message.toList ↔ ∃ word ∈ failure.words, c ∈ word.toList := by
  have hrepr (n : Int) : c ∉ n.repr.toList := Text.oneLine_iff.1 (Text.oneLine_repr n) c hc
  -- The wording has no line break of its own, and neither have numbers.
  obtain rfl | rfl := hc
  all_goals
    cases failure <;>
      simp [diagnostic, words, Diagnostic.ofMessage, Diagnostic.unbalancedTags,
        Diagnostic.tagHasAttributes, Diagnostic.nestingTooDeep, Diagnostic.valueNotProvided,
        Diagnostic.valueNotText, Diagnostic.invalidPluralForms, Diagnostic.pluralFormNotFound,
        Diagnostic.messageNotFound, hrepr]

/-- A failure is a single line in its header just if all that the header quotes is. -/
theorem oneLine_message_iff (failure : Failure) :
    Text.OneLine failure.diagnostic.message ↔ ∀ word ∈ failure.words, Text.OneLine word := by
  simp only [Text.OneLine, break_mem_message_iff (.inl rfl), break_mem_message_iff (.inr rfl),
    not_exists, not_and]
  exact ⟨fun h word hword => ⟨h.1 word hword, h.2 word hword⟩,
    fun h => ⟨fun word hword => (h word hword).1, fun word hword => (h word hword).2⟩⟩

/-- A hint quotes nothing that the header does not. -/
theorem newline_notMem_hint {failure : Failure} (h : ∀ word ∈ failure.words, '\n' ∉ word.toList) :
    ∀ hint ∈ failure.diagnostic.hint.toList, '\n' ∉ hint.toList := by
  cases failure <;>
    simp [diagnostic, Diagnostic.ofMessage, Diagnostic.unbalancedTags,
      Diagnostic.tagHasAttributes, Diagnostic.nestingTooDeep, Diagnostic.valueNotProvided,
      Diagnostic.valueNotText, Diagnostic.invalidPluralForms, Diagnostic.pluralFormNotFound,
      Diagnostic.messageNotFound]
  · exact h _ (List.mem_singleton_self _)

/-- The text of a failure has the lines that it should have just if nothing that the header quotes has
    a line break, and no locale that is named. -/
theorem splitOn_text_iff (failure : Failure) :
    failure.diagnostic.text.toList.splitOn '\n' =
        (failure.diagnostic.blockLines Diagnostic.defaultSourceLength).map String.toList ↔
      ∀ word ∈ failure.words ++ failure.diagnostic.locale.toList, '\n' ∉ word.toList := by
  have hmessage : '\n' ∉ failure.diagnostic.message.toList ↔
      ∀ word ∈ failure.words, '\n' ∉ word.toList := by
    simp [break_mem_message_iff]
  rw [Diagnostic.text, Diagnostic.splitOn_block_iff, List.forall_mem_cons, List.forall_mem_append,
    List.forall_mem_append, hmessage]
  exact ⟨fun ⟨hwords, hlocale, _⟩ => ⟨hwords, hlocale⟩,
    fun ⟨hwords, hlocale⟩ => ⟨hwords, hlocale, newline_notMem_hint hwords⟩⟩

/-- Of texts in single lines a failure quotes single lines only. -/
theorem DrawsOn.oneLine {failure : Failure} {given : String → Prop} (h : failure.DrawsOn given)
    (hgiven : ∀ text, given text → Text.OneLine text) :
    ∀ word ∈ failure.words ++ failure.diagnostic.locale.toList, Text.OneLine word := by
  intro word hword
  obtain ⟨text, htext, hsubset⟩ := h word hword
  exact (hgiven text htext).of_subset hsubset

end Failure

namespace Call

/-- A failure is a single line in its header just if every label, name, type and key in it is. Its text
    has a line for the header and one for each further fact just if none of them has a line break, and
    no locale that is named. So there are no other lines in what a call fails for that is given single
    lines only. -/
theorem single_lines {data : LocaleData} {call : Call} {failure : Failure}
    (h : call.FailsWith data failure) :
    (Text.OneLine failure.diagnostic.message ↔ ∀ word ∈ failure.words, Text.OneLine word) ∧
      (failure.diagnostic.text.toList.splitOn '\n' =
          (failure.diagnostic.blockLines Diagnostic.defaultSourceLength).map String.toList ↔
        ∀ word ∈ failure.words ++ failure.diagnostic.locale.toList, '\n' ∉ word.toList) ∧
      ((∀ text, call.Given text → Text.OneLine text) →
        Text.OneLine failure.diagnostic.message ∧
          failure.diagnostic.text.toList.splitOn '\n' =
            (failure.diagnostic.blockLines Diagnostic.defaultSourceLength).map String.toList) := by
  refine ⟨failure.oneLine_message_iff, failure.splitOn_text_iff, fun hgiven => ?_⟩
  have hwords := (drawsOn_given h).oneLine hgiven
  rw [failure.oneLine_message_iff, failure.splitOn_text_iff]
  exact ⟨fun word hword => hwords word (List.mem_append_left _ hword),
    fun word hword => (hwords word hword).1⟩

/-- A label with a space, in a message whose line break is outside of it. -/
theorem single_lines_label :
    let failure := Failure.tagHasAttributes "a\n<b c>d</b>" "b c" 8
    (parse 100 "a\n<b c>d</b>").FailsWith Plural.Standard.data failure ∧
      Text.OneLine failure.diagnostic.message ∧
      failure.diagnostic.text.toList.splitOn '\n' =
        (failure.diagnostic.blockLines Diagnostic.defaultSourceLength).map String.toList := by
  intro failure
  have hfails : (parse 100 "a\n<b c>d</b>").FailsWith Plural.Standard.data failure := by
    show MessageMarkup.parse 100 "a\n<b c>d</b>" = .error failure
    decide +kernel
  obtain ⟨hheader, hlines, _⟩ := single_lines hfails
  have hlabel : Text.OneLine "b c" := by decide
  have hwords : failure.words = ["b c"] := rfl
  have hlocale : failure.diagnostic.locale = none := rfl
  refine ⟨hfails, hheader.2 ?_, hlines.2 ?_⟩
  · rw [hwords, List.forall_mem_singleton]
    exact hlabel
  · rw [hwords, hlocale, Option.toList_none, List.append_nil, List.forall_mem_singleton]
    exact hlabel.1

/-- A key with a line break is put into the header as it is, and a locale with one into its line. -/
theorem key_breaks_line :
    let p : Provider := ⟨⟨"en\n", .ofList [("key", some "form")]⟩, ⟨"en", .empty⟩⟩
    let t : Translator := ⟨.standard, .empty, .concat⟩
    let missing := Failure.messageNotFound "a\nb"
    let short := Failure.pluralFormNotFound "key" 2 1 "en\n"
    (message t p "a\nb" .empty).FailsWith Plural.Standard.data missing ∧
      ¬ Text.OneLine missing.diagnostic.message ∧
      (plural t p "key" (.integer 5) .empty).FailsWith Plural.Standard.data short ∧
      short.diagnostic.text.toList.splitOn '\n' ≠
        (short.diagnostic.blockLines Diagnostic.defaultSourceLength).map String.toList := by
  intro p t missing short
  refine ⟨?_, by decide, ?_, ?_⟩
  · show t.message p "a\nb" .empty = .error missing
    rw [← failure?_eq_some]
    decide +kernel
  · show t.plural p "key" (.integer 5) .empty Plural.Standard.data = .error (.message short)
    rw [← failure?_eq_some]
    decide +kernel
  · rw [ne_eq, Failure.splitOn_text_iff]
    decide

end Call

end MessageMarkup
