import MessageMarkup.Proofs.Formatting
import MessageMarkup.Translator

/-!
# Layers of values

A plural form is formatted with values in layers: those of the call lie over those of the
translator, these over the quantity under the name of the count, and all of them over the defaults
of the formatter. What is formatted depends on nothing but the value that each name has in the end.

## Main statements

- `Formatter.chunks_congr`, `Formatter.format_congr` — formatting depends on nothing but the values
  of names
- `Translator.get?_pluralValues` — the layer that a name has its value from
- `Translator.plural_put_count` — the count that a form is formatted with
-/

namespace MessageMarkup

open Node Outcome
open Plural (LocaleData)

namespace Formatter

/-- Tables that give the names in nodes the same values give the same chunks. -/
theorem chunks_congr {join : Join} {values others : Table Prepared} {ns : List Node}
    (h : ∀ s ∈ signatures ns, values.get? s.2 = others.get? s.2) (guard : DepthGuard) :
    chunks join values guard ns = chunks join others guard ns := by
  induction ns using forest_induction generalizing guard with
  | nil => rfl
  | text value ns ih =>
    rw [chunks, chunks, ih h]
    rfl
  | tag name children ns ihChildren ih =>
    rw [signatures_tag, List.forall_mem_cons, List.forall_mem_append] at h
    obtain ⟨hname, hchildren, hns⟩ := h
    have htag : chunk join values guard (.tag name children) =
        chunk join others guard (.tag name children) := by
      simp only [chunk, renderTag, ihChildren hchildren, hname]
    rw [chunks, chunks, htag, ih hns]
  | voidTag name ns ih | placeholder name ns ih =>
    obtain ⟨hname, hns⟩ := List.forall_mem_cons.1 h
    rw [chunks, chunks, chunk, chunk, renderName, renderName, hname, ih hns]

/-- Calls in which every name comes to the same value are formatted alike. -/
theorem format_eq_of_effective {f : Formatter} {values others : Table Value}
    (h : ∀ name, (f.effective values).get? name = (f.effective others).get? name) (source : String) :
    f.format source values = f.format source others := by
  simp only [format, formatNodes, chunks_congr fun s _ => h s.2]

/-- Calls in which every name has the same value are formatted alike. -/
theorem format_congr {f : Formatter} {values others : Table Value}
    (h : ∀ name, values.get? name = others.get? name) (source : String) :
    f.format source values = f.format source others := by
  apply format_eq_of_effective
  intro name
  rw [get?_effective, get?_effective, h]

end Formatter

namespace Translator

/-- A name has the value that the call gives it, or else that of the translator; a count without
    either is the quantity itself. -/
theorem get?_pluralValues (t : Translator) (count : Value) (params : Table Value) (name : String) :
    (t.pluralValues count params).get? name =
      (params.get? name).or
        ((t.values.get? name).or (if name = countName then some count else none)) := by
  have hcount : (Table.ofList [(countName, count)]).get? name =
      if name = countName then some count else none := Table.get?_put _ _ _ _
  rw [pluralValues, Table.get?_override, Table.get?_override, hcount]

/-- Calls whose values agree once they are laid over the others have the same result or failure. -/
theorem plural_congr {t : Translator} {quantity : Quantity} {params others : Table Value}
    (h : ∀ name, (t.pluralValues quantity.toValue params).get? name =
      (t.pluralValues quantity.toValue others).get? name) (p : Provider) (key : String)
    (data : LocaleData) :
    t.plural p key quantity params data = t.plural p key quantity others data := by
  simp only [plural, pluralForm, Formatter.format_congr h]

/-- Whatever locale data knows, a call without a count is one with the count of the translator, or
    with the quantity itself if the translator has none. -/
theorem plural_put_count (t : Translator) (p : Provider) (key : String) (quantity : Quantity)
    (data : LocaleData) {params : Table Value} (hparams : params.get? countName = none) :
    t.plural p key quantity params data =
        t.plural p key quantity
          (params.put countName ((t.values.get? countName).getD quantity.toValue)) data ∧
      (t.values.get? countName = none →
        t.plural p key quantity params data =
          t.plural p key quantity (params.put countName quantity.toValue) data) := by
  have hcount : t.plural p key quantity params data = t.plural p key quantity
      (params.put countName ((t.values.get? countName).getD quantity.toValue)) data := by
    apply plural_congr
    intro name
    rw [get?_pluralValues, get?_pluralValues, Table.get?_put]
    by_cases hname : name = countName
    · subst hname
      rw [hparams]
      cases t.values.get? countName <;> simp
    · simp [hname]
  refine ⟨hcount, fun hvalues => ?_⟩
  rw [hcount, hvalues, Option.getD_none]

/-- A translator with a count of its own, and one without. -/
theorem plural_put_count_files :
    let p : Provider :=
      ⟨⟨"en", .ofList [("files", some "none|%count% file|%count% files")]⟩, ⟨"en", .empty⟩⟩
    let t : Translator := ⟨.standard, .ofList [("count", .text "many")], .concat⟩
    let plain : Translator := ⟨.standard, .ofList [("size", .text "big")], .concat⟩
    let data := Plural.Standard.data
    (Table.empty : Table Value).get? countName = none ∧ plain.values.get? countName = none ∧
      t.plural p "files" (.integer 5) .empty data =
        t.plural p "files" (.integer 5) (Table.empty.put countName (.text "many")) data ∧
      plain.plural p "files" (.integer 5) .empty data =
        plain.plural p "files" (.integer 5) (Table.empty.put countName (.integer 5)) data := by
  intro p t plain data
  have hnone : plain.values.get? countName = none := rfl
  exact ⟨rfl, hnone, (plural_put_count t p "files" (.integer 5) data rfl).1,
    (plural_put_count plain p "files" (.integer 5) data rfl).2 hnone⟩

/-- The count of a translator hides the quantity that a form is asked for, and only a count that
    comes with the call is laid over it. -/
theorem plural_count_hidden :
    let p : Provider :=
      ⟨⟨"en", .ofList [("files", some "none|%count% file|%count% files")]⟩, ⟨"en", .empty⟩⟩
    let t : Translator := ⟨.standard, .ofList [("count", .text "many")], .concat⟩
    let data := Plural.Standard.data
    (Table.empty : Table Value).get? countName = none ∧
      t.plural p "files" (.integer 5) .empty data ≠
        t.plural p "files" (.integer 5) (Table.empty.put countName (.integer 5)) data := by
  intro p t data
  refine ⟨rfl, fun h => ?_⟩
  have hmany : (t.plural p "files" (.integer 5) .empty data).map Chunk.toText =
      .ok "many files" := by
    decide +kernel
  have hfive : (t.plural p "files" (.integer 5)
      (Table.empty.put countName (.integer 5)) data).map Chunk.toText = .ok "5 files" := by
    decide +kernel
  rw [h, hfive] at hmany
  exact absurd hmany (by decide)

end Translator

end MessageMarkup
