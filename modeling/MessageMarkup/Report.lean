import MessageMarkup.Diagnostic.Catalog
import MessageMarkup.Diagnostic.Layout

/-!
# Reports

What a caller is handed when something fails: a category, the facts that callers of that category
ask for by name, and a text or a diagnostic.

## Main definitions

- `Failure.Category` — the kinds of failure, from general to particular
- `Failure.Category.lineage` — a category and the more general ones it belongs to
- `Report` — a category with its facts and what is said
- `Report.ofGiven` — a report of facts as far as they are given
- `Failure.report` — the report of a failure
-/

namespace MessageMarkup

inductive Failure.Category where
  | general
  | markup
  | unbalancedTags
  | tagHasAttributes
  | nestingTooDeep
  | formatting
  | missingValue
  /-- A plural message does not fit its locale. -/
  | plural
  | invalidPluralForms
  | formResolution
  /-- A message is referred to that is not there. -/
  | reference
  | messageNotFound
  deriving DecidableEq, Repr

/-- A fact that a report states under a name. -/
inductive Fact where
  | text (value : String)
  | number (value : Int)
  deriving DecidableEq, Repr

namespace Failure.Category

/-- A category and the more general ones it belongs to, from the particular to the general. -/
def lineage : Category → List Category
  | general => [.general]
  | markup => [.markup, .general]
  | unbalancedTags => [.unbalancedTags, .markup, .general]
  | tagHasAttributes => [.tagHasAttributes, .markup, .general]
  | nestingTooDeep => [.nestingTooDeep, .general]
  | formatting => [.formatting, .general]
  | missingValue => [.missingValue, .formatting, .general]
  | plural => [.plural, .general]
  | invalidPluralForms => [.invalidPluralForms, .plural, .general]
  | formResolution => [.formResolution, .plural, .general]
  | reference => [.reference, .general]
  | messageNotFound => [.messageNotFound, .reference, .general]

/-- The facts that reports of a category state, with what is stated where nothing is given. -/
def blankFacts : Category → List (String × Fact)
  | markup | unbalancedTags | tagHasAttributes => [("source", .text "")]
  | nestingTooDeep => [("max_depth", .number 0)]
  | missingValue => [("name", .text "")]
  | invalidPluralForms => [("locale", .text ""), ("expected", .number 0), ("actual", .number 0)]
  | formResolution => [("key", .text ""), ("index", .number 0)]
  | messageNotFound => [("key", .text "")]
  | general | formatting | plural | reference => []

end Failure.Category

inductive Content where
  | plain (text : String)
  | diagnosed (diagnostic : Diagnostic)
  deriving DecidableEq, Repr

/-- What a caller is handed when something fails. -/
structure Report where
  category : Failure.Category
  facts : List (String × Fact)
  content : Content
  deriving DecidableEq, Repr

namespace Report

def message (r : Report) : String :=
  match r.content with
  | .plain text => text
  | .diagnosed d => d.text

/-- The diagnostic of a report, unless it says a plain text. -/
def diagnostic? (r : Report) : Option Diagnostic :=
  match r.content with
  | .plain _ => none
  | .diagnosed d => some d

/-- A report of the facts of its category, as far as they are given. -/
def ofGiven (category : Failure.Category) (given : List (String × Fact)) (content : Content) : Report where
  category
  facts := category.blankFacts.map fun f => (f.1, (given.lookup f.1).getD f.2)
  content

end Report

namespace Failure

def category : Failure → Category
  | unbalancedTags .. => .unbalancedTags
  | tagHasAttributes .. => .tagHasAttributes
  | nestingTooDeep .. => .nestingTooDeep
  | valueNotProvided .. | valueNotText .. => .missingValue
  | invalidPluralForms .. => .invalidPluralForms
  | pluralFormNotFound .. => .formResolution
  | messageNotFound .. => .messageNotFound

/-- The facts of a failure that callers ask for by name. -/
def facts : Failure → List (String × Fact)
  | unbalancedTags source _ | tagHasAttributes source _ _ => [("source", .text source)]
  | nestingTooDeep limit => [("max_depth", .number limit)]
  | valueNotProvided name | valueNotText name _ => [("name", .text name)]
  | invalidPluralForms _ locale expected actual =>
    [("locale", .text locale), ("expected", .number expected), ("actual", .number actual)]
  | pluralFormNotFound key index _ _ => [("key", .text key), ("index", .number index)]
  | messageNotFound key => [("key", .text key)]

def report (f : Failure) : Report where
  category := f.category
  facts := f.facts
  content := .diagnosed f.diagnostic

end Failure

end MessageMarkup
