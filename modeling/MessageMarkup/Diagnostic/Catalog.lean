import MessageMarkup.Diagnostic
import MessageMarkup.Failure
import MessageMarkup.Text.Quoted

/-!
# The catalog of diagnostics

The wording of everything the library reports, one function for each code, and the diagnostic of
every failure.

## Main definitions

- `Diagnostic.unbalancedTags` and its siblings — the diagnostic of each code
- `Failure.diagnostic` — the diagnostic that a failure gives rise to
-/

namespace MessageMarkup

namespace Diagnostic

def messageNotFound (key : String) : Diagnostic :=
  { ofMessage .messageNotFound ("Was unable to find message for key: '" ++ key ++ "'") with
    hint := some "Add the key to the base locale messages" }

def valueNotProvided (name : String) : Diagnostic :=
  { ofMessage .valueNotProvided ("Value '" ++ name ++ "' wasn't provided") with
    hint := some ("Pass '" ++ name ++ "' in the values mapping") }

def valueNotText (name typeName : String) : Diagnostic :=
  { ofMessage .valueNotText
      ("Value '" ++ name ++ "' wasn't provided as a string (got " ++ typeName ++ ")") with
    hint := some "Only paired tags accept functions; placeholders and void tags need strings" }

/-- A tag is not paired; `span` is that of a close tag, if one is to blame. -/
def unbalancedTags (source : String) (span : Option Span) : Diagnostic :=
  { ofMessage .unbalancedTags "String has unbalanced tags" with
    span
    hint := some "Close every opened tag with a matching </tag>"
    source := some source }

/-- An open tag has a space in its label; `span` is that of the close tag that met it. -/
def tagHasAttributes (source label : String) (span : Span) : Diagnostic :=
  { ofMessage .tagHasAttributes
      ("Tags in string should not have attributes: <" ++ label ++ ">") with
    span := some span
    hint := some "Move attributes into the value supplied for the tag"
    source := some source }

def nestingTooDeep (limit : Int) : Diagnostic :=
  { ofMessage .nestingTooDeep ("Maximum nesting depth (" ++ toString limit ++ ") exceeded") with
    hint := some "Reduce the number of nested tags" }

def invalidPluralForms (source locale : String) (expected actual : Int) : Diagnostic :=
  { ofMessage .invalidPluralForms
      ("Invalid plural forms: expected " ++ toString expected ++ ", got " ++ toString actual) with
    hint := some "Separate forms with '|'; the first form is used for zero"
    source := some source
    locale := some locale }

def pluralFormNotFound (key : String) (index count : Int) (locale : String) : Diagnostic :=
  { ofMessage .pluralFormNotFound
      ("No plural form " ++ toString index ++ " for key '" ++ key ++ "' (message has "
        ++ toString count ++ " forms)") with
    hint := some "Provide every plural form the locale requires"
    locale := some locale }

/-- A translation has not the tags and placeholders of its base message. -/
def structureMismatch (base translated : String) : Diagnostic :=
  { ofMessage .structureMismatch
      ("Translation structure differs from base message: " ++ Text.quoted base) with
    hint := some "Keep every tag and placeholder of the base message"
    source := some translated }

end Diagnostic

namespace Failure

/-- The diagnostic that a failure gives rise to. -/
def diagnostic : Failure → Diagnostic
  | unbalancedTags source position => .unbalancedTags source (position.map Span.point)
  | tagHasAttributes source label position => .tagHasAttributes source label (.point position)
  | nestingTooDeep limit => .nestingTooDeep limit
  | valueNotProvided name => .valueNotProvided name
  | valueNotText name typeName => .valueNotText name typeName
  | invalidPluralForms source locale expected actual =>
    .invalidPluralForms source locale expected actual
  | pluralFormNotFound key index count locale => .pluralFormNotFound key index count locale
  | messageNotFound key => .messageNotFound key

end Failure

end MessageMarkup
