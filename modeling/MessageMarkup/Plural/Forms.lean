import MessageMarkup.Mark
import MessageMarkup.Text.Blank

/-!
# The forms of a plural message

A plural message lists its forms between pipes. A pipe behind a backslash is part of a form.

## Main definitions

- `Plural.splitForms` — characters cut at every pipe that no backslash precedes
- `Plural.unescape` — a text with every escaped pipe made a plain one
- `Plural.forms` — the forms of a message, trimmed
- `Plural.isPlural` — whether a message has a pipe that no backslash precedes

## Main statements

- `Plural.splitForms_ne_nil`, `Plural.forms_ne_nil` — there is always a first form
-/

namespace MessageMarkup.Plural

/-- Characters cut at every pipe that no backslash precedes. The flag says whether one stands
    before them. -/
def splitForms (afterBackslash : Bool) : List Char → List (List Char)
  | [] => [[]]
  | c :: cs =>
    if c = Mark.delimiter ∧ afterBackslash = false then
      [] :: splitForms false cs
    else
      match splitForms (c = Mark.escape) cs with
      | [] => [[c]]
      | form :: forms => (c :: form) :: forms

/-- Characters with every escaped pipe made a plain one. -/
def unescapeChars : List Char → List Char
  | [] => []
  | [c] => [c]
  | c :: d :: cs =>
    if c = Mark.escape ∧ d = Mark.delimiter then d :: unescapeChars cs else c :: unescapeChars (d :: cs)

/-- A text with every escaped pipe made a plain one. -/
def unescape (s : String) : String :=
  String.ofList (unescapeChars s.toList)

/-- The forms of a message, trimmed and then freed of escapes. -/
def forms (message : String) : List String :=
  (splitForms false message.toList).map fun form =>
    String.ofList (unescapeChars (Text.trimBlanks form))

/-- Whether characters hold a pipe that no backslash precedes. The flag says whether one stands
    before them. -/
def hasPipe (afterBackslash : Bool) : List Char → Bool
  | [] => false
  | c :: cs => (c = Mark.delimiter && !afterBackslash) || hasPipe (c = Mark.escape) cs

/-- Whether a message has a pipe that no backslash precedes. -/
def isPlural (message : String) : Bool :=
  hasPipe false message.toList

theorem splitForms_ne_nil (afterBackslash : Bool) (cs : List Char) :
    splitForms afterBackslash cs ≠ [] := by
  cases cs with
  | nil => simp [splitForms]
  | cons c cs =>
    rw [splitForms]
    split
    · simp
    · split <;> simp

/-- A character that is not cut at joins the first form of the rest. -/
theorem splitForms_cons {afterBackslash : Bool} {c : Char} {cs : List Char}
    (h : ¬ (c = Mark.delimiter ∧ afterBackslash = false)) :
    splitForms afterBackslash (c :: cs) = (splitForms (c = Mark.escape) cs).modifyHead (c :: ·) := by
  rw [splitForms, if_neg h]
  cases hrest : splitForms (c = Mark.escape) cs with
  | nil => exact absurd hrest (splitForms_ne_nil _ cs)
  | cons form forms => rfl

theorem forms_ne_nil (message : String) : forms message ≠ [] := by
  simpa [forms] using splitForms_ne_nil false message.toList

end MessageMarkup.Plural
