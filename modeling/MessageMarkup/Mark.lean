/-!
# The marks of the language

The characters that mean something in a message, and the few ways in which they enclose a text.

## Main definitions

- `Mark.tagOpen`, `Mark.tagClose`, `Mark.closing`, `Mark.placeholder` — the marks of tags and
  placeholders
- `Mark.delimiter`, `Mark.escape` — the mark between plural forms, and the one that takes its
  meaning away
- `Mark.tag`, `Mark.closingTag`, `Mark.voidTag`, `Mark.named` — a name between marks

## Design notes

The marks are abbreviations, so that a proof sees the character and a reader its meaning.
-/

namespace MessageMarkup.Mark

abbrev tagOpen : Char := '<'

abbrev tagClose : Char := '>'

/-- Makes a tag close another one if it comes first in the label, and a void one if it comes
    last. -/
abbrev closing : Char := '/'

/-- Begins and ends a placeholder; written twice it is itself. -/
abbrev placeholder : Char := '%'

/-- Stands between two forms of a plural message. -/
abbrev delimiter : Char := '|'

/-- Makes a delimiter behind it a part of the form. -/
abbrev escape : Char := '\\'

/-- A delimiter that is part of a form, as it is written. -/
def escapedDelimiter : String :=
  String.ofList [escape, delimiter]

/-- A label between the marks of a tag. -/
def tag (label : String) : String :=
  String.ofList (tagOpen :: label.toList ++ [tagClose])

def closingTag (name : String) : String :=
  tag (String.ofList (closing :: name.toList))

def voidTag (name : String) : String :=
  tag (name.push closing)

/-- A name between the marks of a placeholder. -/
def named (name : String) : String :=
  String.ofList (placeholder :: name.toList ++ [placeholder])

@[simp]
theorem toList_tag (label : String) : (tag label).toList = '<' :: label.toList ++ ['>'] := by
  simp [tag]

@[simp]
theorem toList_closingTag (name : String) :
    (closingTag name).toList = '<' :: '/' :: name.toList ++ ['>'] := by
  simp [closingTag]

@[simp]
theorem toList_voidTag (name : String) :
    (voidTag name).toList = '<' :: name.toList ++ ['/', '>'] := by
  simp [voidTag]

@[simp]
theorem toList_named (name : String) : (named name).toList = '%' :: name.toList ++ ['%'] := by
  simp [named]

end MessageMarkup.Mark
