/-!
# Diagnostics

A diagnostic says what went wrong, where, and how to mend it.

## Main definitions

- `Diagnostic.Code` — what went wrong, with a stable number
- `Span` — a range of characters of a message
- `Diagnostic` — a code with its message and what is known besides

## Design notes

Positions count characters. A span carries the proof that it does not end before it starts, so the
one check is made where bounds become a span.
-/

namespace MessageMarkup

inductive Diagnostic.Code where
  | messageNotFound
  | valueNotProvided
  | valueNotText
  | unbalancedTags
  | tagHasAttributes
  | nestingTooDeep
  | invalidPluralForms
  | pluralFormNotFound
  | structureMismatch
  deriving DecidableEq, Repr

namespace Diagnostic.Code

/-- All codes, in the order of their numbers. -/
def all : List Code :=
  [.messageNotFound, .valueNotProvided, .valueNotText, .unbalancedTags, .tagHasAttributes,
    .nestingTooDeep, .invalidPluralForms, .pluralFormNotFound, .structureMismatch]

def name : Code → String
  | messageNotFound => "MESSAGE_NOT_FOUND"
  | valueNotProvided => "VALUE_NOT_PROVIDED"
  | valueNotText => "VALUE_NOT_STRING"
  | unbalancedTags => "UNBALANCED_TAGS"
  | tagHasAttributes => "TAG_HAS_ATTRIBUTES"
  | nestingTooDeep => "NESTING_TOO_DEEP"
  | invalidPluralForms => "INVALID_PLURAL_FORMS"
  | pluralFormNotFound => "PLURAL_FORM_NOT_FOUND"
  | structureMismatch => "STRUCTURE_MISMATCH"

/-- The number of a code. Its thousands tell the area: lookup, values, markup, plural forms,
    validation. -/
def number : Code → Nat
  | messageNotFound => 1001
  | valueNotProvided => 2001
  | valueNotText => 2002
  | unbalancedTags => 3001
  | tagHasAttributes => 3002
  | nestingTooDeep => 3003
  | invalidPluralForms => 4001
  | pluralFormNotFound => 4002
  | structureMismatch => 5001

def ofName? (name : String) : Option Code :=
  all.find? (·.name = name)

end Diagnostic.Code

/-- A range of characters: from `start` up to but not including `stop`. -/
structure Span where
  start : Nat
  stop : Nat
  start_le_stop : start ≤ stop
  deriving DecidableEq, Repr

/-- Why two numbers are not the bounds of a span. -/
inductive SpanFault where
  | negativeStart (start : Int)
  | stopBeforeStart (start stop : Int)
  deriving DecidableEq, Repr

def SpanFault.message : SpanFault → String
  | negativeStart start => "span start must be >= 0, got " ++ toString start
  | stopBeforeStart start stop =>
    "span end " ++ toString stop ++ " must be >= start " ++ toString start

namespace Span

def point (position : Nat) : Span :=
  ⟨position, position, Nat.le_refl _⟩

/-- The span of two bounds. The start is checked first. -/
def ofBounds (start stop : Int) : Except SpanFault Span :=
  if start < 0 then .error (.negativeStart start)
  else if h : stop < start then .error (.stopBeforeStart start stop)
  else .ok ⟨start.toNat, stop.toNat, by omega⟩

end Span

inductive Severity where
  | error
  | warning
  deriving DecidableEq, Repr

def Severity.name : Severity → String
  | error => "error"
  | warning => "warning"

/-- What went wrong, where, and how to mend it. -/
structure Diagnostic where
  code : Diagnostic.Code
  message : String
  span : Option Span
  hint : Option String
  /-- The message that the diagnostic is about. -/
  source : Option String
  locale : Option String
  severity : Severity
  deriving DecidableEq, Repr

/-- An error of a code and message, of which nothing else is known. -/
def Diagnostic.ofMessage (code : Diagnostic.Code) (message : String) : Diagnostic where
  code
  message
  span := none
  hint := none
  source := none
  locale := none
  severity := .error

end MessageMarkup
