/-!
# Failures

Everything that can go wrong with a message, as a closed list of causes. How a cause is worded is
decided elsewhere, by the diagnostic it gives rise to.

## Main definitions

- `Failure` — the causes, each with what is known about it
-/

namespace MessageMarkup

/-- Why a message could not be read, written, formatted or found. -/
inductive Failure where
  /-- A tag was left open, or the close tag at `position` closes no open tag. -/
  | unbalancedTags (source : String) (position : Option Nat)
  /-- The close tag at `position` meets an open tag whose label holds a space. -/
  | tagHasAttributes (source label : String) (position : Nat)
  /-- One more level of tags than `limit` allows. -/
  | nestingTooDeep (limit : Int)
  /-- No value has this name. -/
  | valueNotProvided (name : String)
  /-- The value of this name is a function where a text is needed. -/
  | valueNotText (name typeName : String)
  /-- A translated plural message has another number of forms than its locale requires. -/
  | invalidPluralForms (source locale : String) (expected actual : Nat)
  /-- The form that a quantity selects is not among the `count` forms of the message. -/
  | pluralFormNotFound (key : String) (index count : Nat) (locale : String)
  /-- Neither the current nor the base locale has a message of this key. -/
  | messageNotFound (key : String)
  deriving DecidableEq, Repr

end MessageMarkup
