import MessageMarkup.Proofs.ValueLayers

/-!
# Absent values

A value that is absent counts as not given when values are prepared for formatting. In a call of a
translator it has by then been laid over the translator's own value of its name, and hides it. So
absent values may be left out of a call where there is nothing below them to be hidden.

## Main definitions

- `Table.given` — a table without its absent values
- `Table.HidesNothing` — no absent value of a table lies over a value of another one

## Main statements

- `Formatter.get?_effective_override_given` — what formatting finds where nothing is hidden
- `Translator.absent_params_dropped` — when absent values may be left out of a call
-/

namespace MessageMarkup

open Plural (LocaleData)

/-- A value, unless it is absent. -/
def Value.given? : Value → Option Value
  | absent => none
  | value => some value

namespace Table

/-- The table without its absent values. -/
def given (values : Table Value) : Table Value :=
  values.filterMap Value.given?

/-- Where a name has an absent value in one table, it has none in another that is fit for use. -/
def HidesNothing (values lower : Table Value) : Prop :=
  ∀ name, values.get? name = some .absent → (lower.get? name).bind Value.prepare? = none

end Table

namespace Formatter

/-- Over a table in which it hides nothing, a table without its absent values gives every name what the
    whole table gives it. -/
theorem get?_effective_override_given (f : Formatter) {lower values : Table Value}
    (h : values.HidesNothing lower) (name : String) :
    (f.effective (lower.override values.given)).get? name =
      (f.effective (lower.override values)).get? name := by
  simp only [get?_effective, Table.get?_override, Table.given, Table.get?_filterMap]
  cases hvalue : values.get? name with
  | none => rfl
  | some value =>
    cases value with
    | absent => simp [Value.given?, h name hvalue]
    | _ => rfl

end Formatter

namespace Translator

/-- Whatever locale data knows, absent values may be left out of a call for a message if they hide no
    value of the translator, and out of one for a plural form if they do not hide the quantity
    either. -/
theorem absent_params_dropped (t : Translator) (p : Provider) (key : String)
    (params : Table Value) (data : LocaleData) :
    (params.HidesNothing t.values → t.message p key params.given = t.message p key params) ∧
      ∀ quantity : Quantity,
        params.HidesNothing (t.pluralValues quantity.toValue .empty) →
          t.plural p key quantity params.given data = t.plural p key quantity params data := by
  constructor
  · intro h
    have hformat := Formatter.format_eq_of_effective (t.formatter.get?_effective_override_given h)
    simp only [message, hformat]
  · intro quantity h
    have hlayers (values : Table Value) :
        (t.pluralValues quantity.toValue .empty).override values =
          t.pluralValues quantity.toValue values := rfl
    have hformat := Formatter.format_eq_of_effective (t.formatter.get?_effective_override_given h)
    simp only [hlayers] at hformat
    simp only [plural, pluralForm, hformat]

/-- An absent value over a default of the formatter, in calls that give every other name a value. -/
theorem absent_params_dropped_default :
    let p : Provider :=
      ⟨⟨"en", .ofList [("hi", some "<b>Hello</b> %name%"), ("files", some "|%count% <b>file</b>|")]⟩,
        ⟨"en", .empty⟩⟩
    let t : Translator := ⟨.standard, .ofList [("name", .text "guest")], .concat⟩
    let params := Table.ofList [("b", Value.absent), ("name", .text "Ann")]
    let data := Plural.Standard.data
    params.HidesNothing t.values ∧ params.HidesNothing (t.pluralValues (.integer 1) .empty) ∧
      t.message p "hi" params.given = t.message p "hi" params ∧
      t.plural p "files" (.integer 1) params.given data =
        t.plural p "files" (.integer 1) params data := by
  intro p t params data
  have hb (name : String) (h : params.get? name = some .absent) : name = "b" := by
    have hget : params.get? name = if name = "name" then some (.text "Ann") else
        if name = "b" then some .absent else none := by
      show ((Table.empty.put "b" Value.absent).put "name" (Value.text "Ann")).get? name = _
      rw [Table.get?_put, Table.get?_put, Table.get?_empty]
    rw [hget] at h
    split at h
    · cases h
    · exact (Option.ite_none_right_eq_some.1 h).1
  have hvalues : params.HidesNothing t.values := by
    intro name h
    rw [hb name h]
    rfl
  have hplural : params.HidesNothing (t.pluralValues (.integer 1) .empty) := by
    intro name h
    rw [hb name h]
    rfl
  exact ⟨hvalues, hplural, (absent_params_dropped t p "hi" params data).1 hvalues,
    (absent_params_dropped t p "files" params data).2 (.integer 1) hplural⟩

/-- An absent value of a call hides the value that the translator has for its name, and the quantity
    that a form is asked for. -/
theorem absent_param_hides :
    let p : Provider :=
      ⟨⟨"en", .ofList [("hi", some "Hello %name%"), ("files", some "none|%count% file|%count% files")]⟩,
        ⟨"en", .empty⟩⟩
    let t : Translator := ⟨.standard, .ofList [("name", .text "guest")], .concat⟩
    let params := Table.ofList [("name", Value.absent), ("count", .absent)]
    let data := Plural.Standard.data
    t.message p "hi" params.given ≠ t.message p "hi" params ∧
      t.plural p "files" (.integer 5) params.given data ≠
        t.plural p "files" (.integer 5) params data := by
  intro p t params data
  have hmessage : (t.message p "hi" params.given).map Chunk.toText = .ok "Hello guest" := by
    decide +kernel
  have hmissing : t.message p "hi" params = .error (.valueNotProvided "name") := by
    rw [← Outcome.failure?_eq_some]
    decide +kernel
  have hplural : (t.plural p "files" (.integer 5) params.given data).map Chunk.toText =
      .ok "5 files" := by
    decide +kernel
  have hcount : t.plural p "files" (.integer 5) params data =
      .error (.message (.valueNotProvided "count")) := by
    rw [← Outcome.failure?_eq_some]
    decide +kernel
  constructor
  · intro h
    rw [h, hmissing] at hmessage
    cases hmessage
  · intro h
    rw [h, hcount] at hplural
    cases hplural

end Translator

end MessageMarkup
