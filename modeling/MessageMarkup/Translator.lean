import MessageMarkup.Formatter
import MessageMarkup.Plural.Selection

/-!
# Translators

A translator formats messages by key. A message is looked for in the current locale and then in the
base locale.

## Main definitions

- `Catalog`, `Provider` — the messages of one locale, and of the current and the base locale
- `Provider.find` — the message of a key with the locale it belongs to
- `Translator` — a formatter, values of its own, and what is made of the chunks
- `Translator.message`, `Translator.plural` — the message of a key, or its form for a quantity
-/

namespace MessageMarkup

/-- The messages of one locale; some keys may be known to have none. -/
structure Catalog where
  locale : String
  messages : Table (Option String)

namespace Catalog

/-- The message of a key. An empty message counts as none. -/
def message? (c : Catalog) (key : String) : Option String :=
  ((c.messages.get? key).join).filter (· ≠ "")

/-- The catalog with the message of a key set, or taken away. -/
def setMessage (c : Catalog) (key : String) (message : Option String) : Catalog :=
  { c with messages := c.messages.put key message }

end Catalog

/-- The messages of the current and of the base locale. -/
structure Provider where
  current : Catalog
  base : Catalog

/-- The message of a key and the locale it belongs to: the current one if it has the key, or else
    the base locale. -/
def Provider.find (p : Provider) (key : String) : Except Failure (String × String) :=
  match p.current.message? key with
  | some message => .ok (message, p.current.locale)
  | none =>
    match p.base.message? key with
    | some message => .ok (message, p.base.locale)
    | none => .error (.messageNotFound key)

/-- The value of a quantity itself. -/
def Quantity.toValue : Quantity → Value
  | integer value => .integer value
  | truth value => .truth value
  | real value => .real value

/-- Why there is no message for a quantity. -/
inductive PluralFailure where
  | quantity (fault : QuantityFault)
  | message (failure : Failure)
  deriving DecidableEq, Repr

/-- Formats messages by key. -/
structure Translator where
  formatter : Formatter
  /-- Values for the names that a call gives none for. -/
  values : Table Value
  /-- What is made of the chunks of a message. -/
  construct : Join

namespace Translator

open Plural (LocaleData)

/-- The name under which a plural message finds the quantity it is formatted for. -/
def countName : String := "count"

/-- The formatted message of a key. An escaped pipe in it is a plain one. -/
def message (t : Translator) (p : Provider) (key : String) (params : Table Value) :
    Except Failure Chunk := do
  let (message, _) ← p.find key
  let chunks ← t.formatter.format (Plural.unescape message) (t.values.override params)
  return t.construct chunks

/-- The values that a form for a quantity is formatted with: those of the call, over those of the
    translator, over the quantity itself. -/
def pluralValues (t : Translator) (count : Value) (params : Table Value) : Table Value :=
  ((Table.ofList [(countName, count)]).override t.values).override params

/-- The formatted form of a message for a number that is shown as `count`. -/
def pluralForm (t : Translator) (message locale key : String) (number : Int) (count : Value)
    (params : Table Value) (data : LocaleData := Plural.Standard.data) : Except Failure Chunk := do
  let form ← Plural.form message number locale key data
  let chunks ← t.formatter.format form (t.pluralValues count params)
  return t.construct chunks

/-- The formatted form of the message of a key for a quantity. -/
def plural (t : Translator) (p : Provider) (key : String) (quantity : Quantity)
    (params : Table Value) (data : LocaleData := Plural.Standard.data) :
    Except PluralFailure Chunk :=
  match p.find key with
  | .error failure => .error (.message failure)
  | .ok (message, locale) =>
    match quantity.toInt with
    | .error fault => .error (.quantity fault)
    | .ok number =>
      match t.pluralForm message locale key number quantity.toValue params data with
      | .ok chunk => .ok chunk
      | .error failure => .error (.message failure)

end Translator

end MessageMarkup
