import MessageMarkup.Locale
import MessageMarkup.Plural.Family
import MessageMarkup.Plural.Standard

/-!
# The plural rule of a locale

## Main definitions

- `Plural.Rule` — how many categories a locale has, and which one a quantity falls into
- `Plural.Rule.resolve` — the rule of a locale code, for any locale data
- `Plural.Rule.forLocale` — that which the standard rules give

## Main statements

- `Plural.Rule.select_resolve_lt` — every quantity falls into one of the categories

## Design notes

A code is resolved by the built-in family of the longest part of it that has one, then by locale
data, and then by the rule of the fallback locale. So every code has a rule.
-/

namespace MessageMarkup.Plural

/-- Where a rule comes from. -/
inductive RuleSource where
  | builtIn
  | standard
  /-- The rule of the fallback locale, for want of another. -/
  | fallback
  deriving DecidableEq, Repr

/-- How many categories a locale has, and which one a quantity falls into, counted from zero. -/
structure Rule where
  categories : Nat
  select : Nat → Nat
  source : RuleSource

namespace Rule

def ofFamily (f : Family) (source : RuleSource) : Rule :=
  ⟨f.categories, f.select, source⟩

def ofClassifier (c : Classifier) : Rule :=
  ⟨c.categories.length, c.select, .standard⟩

/-- The forms that a plural message needs: one for zero, and one for each category. -/
def formCount (r : Rule) : Nat :=
  r.categories + 1

/-- The built-in family of a locale code: that of its longest part that has one. -/
def family? (locale : String) : Option Family :=
  (Locale.lookupKeys locale).findSome? Family.ofCode?

/-- The family of the fallback locale. -/
def fallbackFamily : Family :=
  .oneOther

example : Family.ofCode? Locale.fallback = some fallbackFamily := by decide

/-- The rule of a locale code: that of its built-in family, or of locale data, or else the
    fallback. -/
@[irreducible]
def resolve (data : LocaleData) (locale : String) : Rule :=
  match family? locale with
  | some f => ofFamily f .builtIn
  | none =>
    match data (Locale.normalize locale) with
    | some c => ofClassifier c
    | none => ofFamily fallbackFamily .fallback

/-- The rule of a locale code with the standard rules as locale data. -/
def forLocale (locale : String) : Rule :=
  resolve Standard.data locale

/-- Every quantity falls into one of the categories of a locale. -/
theorem select_resolve_lt (data : LocaleData) (locale : String) (n : Nat) :
    (resolve data locale).select n < (resolve data locale).categories := by
  unfold resolve
  split
  · next f _ => exact f.select_lt n
  · split
    · next c _ => exact c.select_lt n
    · exact fallbackFamily.select_lt n

/-- A rule that does not come from locale data is that of a family. -/
theorem resolve_of_source_ne {data : LocaleData} {locale : String}
    (h : (resolve data locale).source ≠ .standard) :
    ∃ f source, resolve data locale = ofFamily f source := by
  revert h
  unfold resolve
  split
  · next f _ => exact fun _ => ⟨f, _, rfl⟩
  · split
    · exact fun h => absurd rfl h
    · exact fun _ => ⟨fallbackFamily, _, rfl⟩

end Rule

end MessageMarkup.Plural
