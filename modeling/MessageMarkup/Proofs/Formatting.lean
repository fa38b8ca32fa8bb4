import Mathlib.Data.List.Basic
import MessageMarkup.Formatter
import MessageMarkup.Proofs.Acceptance
import MessageMarkup.Proofs.Forest

/-!
# When formatting succeeds

Below the nesting limit formatting fails only for want of a value, and then for the first one in
the order in which values are looked up.

## Main definitions

- `Node.lookups` — kind and name of all markup in the order in which values are looked up
- `Formatter.missing?` — why markup cannot be formatted with some values
- `Formatter.Formats` — a message can be formatted with some values
- `Formatter.Replaces` — a message can be formatted wherever another one can

## Main statements

- `Formatter.failure?_chunks`, `Formatter.failure?_format` — why nodes, or a message, cannot be
  formatted
- `Formatter.replaces_of_signatures` — messages with the same markup replace each other
-/

namespace MessageMarkup

open Node Outcome

namespace Node

mutual

/-- Kind and name of a node, if it is markup, behind those of all that it encloses. -/
def lookupsIn : Node → List (Kind × String)
  | .text _ => []
  | .tag name children => lookups children ++ [(.tag, name)]
  | .voidTag name => [(.voidTag, name)]
  | .placeholder name => [(.placeholder, name)]

/-- Kind and name of all markup, what a tag encloses in front of the tag. -/
def lookups : List Node → List (Kind × String)
  | [] => []
  | n :: ns => n.lookupsIn ++ lookups ns

end

/-- Values are looked up for all markup. -/
theorem mem_lookups {ns : List Node} {s : Kind × String} : s ∈ lookups ns ↔ s ∈ signatures ns := by
  induction ns using forest_induction with
  | nil => rfl
  | text value ns ih => simpa [lookups, lookupsIn, signatures_text] using ih
  | tag name children ns ihChildren ih =>
    simp only [lookups, lookupsIn, List.mem_append, ihChildren, ih, signatures_tag, List.mem_cons,
      List.not_mem_nil, or_false]
    tauto
  | voidTag name ns ih => simp [lookups, lookupsIn, signatures_voidTag, ih]
  | placeholder name ns ih => simp [lookups, lookupsIn, signatures_placeholder, ih]

end Node

/-- What can be read under a limit is no deeper than a guard of that limit allows. -/
theorem DepthGuard.admits_of_parse {limit : Int} {source : String} {nodes : List Node}
    (h : parse limit source = .ok nodes) : (ofLimit limit).Admits nodes :=
  admits_ofLimit.2 (parse_eq_ok_iff.1 h).2

/-- A failure for want of a value. -/
def Failure.IsMissingValue : Failure → Prop
  | valueNotProvided _ | valueNotText _ _ => True
  | _ => False

namespace Formatter

/-- Why markup cannot be formatted with some values: its name has none, or a void tag or a
    placeholder has one that is not a text. -/
def missing? (values : Table Prepared) : Kind × String → Option Failure
  | (kind, name) =>
    match values.get? name with
    | none => some (.valueNotProvided name)
    | some (.text _) => none
    | some (.function renderer) =>
      if kind = .tag then none else some (.valueNotText name renderer.typeName)

theorem isMissingValue_of_missing? {values : Table Prepared} {s : Kind × String} {failure : Failure}
    (h : missing? values s = some failure) : failure.IsMissingValue := by
  simp only [missing?] at h
  split at h
  · obtain rfl := Option.some.inj h
    trivial
  · cases h
  · split at h
    · cases h
    · obtain rfl := Option.some.inj h
      trivial

theorem failure?_renderTag (join : Join) (values : Table Prepared) (name : String)
    (content : List Chunk) :
    failure? (renderTag join values name content) = missing? values (.tag, name) := by
  simp only [renderTag, missing?]
  cases values.get? name with
  | none => rfl
  | some value => cases value <;> rfl

theorem failure?_renderName (values : Table Prepared) (name : String) {kind : Kind}
    (hkind : kind ≠ .tag) : failure? (renderName values name) = missing? values (kind, name) := by
  simp only [renderName, missing?, hkind, if_false]
  cases values.get? name with
  | none => rfl
  | some value => cases value <;> rfl

theorem failure?_chunks_cons (join : Join) (values : Table Prepared) (guard : DepthGuard) (n : Node)
    (ns : List Node) :
    failure? (chunks join values guard (n :: ns)) =
      (failure? (chunk join values guard n)).or (failure? (chunks join values guard ns)) := by
  rw [chunks]
  exact failure?_both

/-- Below a guard that admits them, nodes cannot be formatted for the first reason that there is. -/
theorem failure?_chunks {join : Join} {values : Table Prepared} {ns : List Node}
    {guard : DepthGuard} (h : guard.Admits ns) :
    failure? (chunks join values guard ns) = (lookups ns).findSome? (missing? values) := by
  induction ns using forest_induction generalizing guard with
  | nil => rfl
  | text value ns ih =>
    rw [failure?_chunks_cons, ih h.tail]
    rfl
  | tag name children ns ihChildren ih =>
    obtain ⟨henter, hchildren⟩ := h.tag
    have htag : failure? (chunk join values guard (.tag name children)) =
        ((lookups children).findSome? (missing? values)).or (missing? values (.tag, name)) := by
      rw [chunk, henter, ok_bind, failure?_bind (failure?_renderTag join values name),
        ihChildren hchildren]
    rw [failure?_chunks_cons, htag, ih h.tail]
    simp only [lookups, lookupsIn, List.findSome?_append, List.findSome?_singleton]
  | voidTag name ns ih | placeholder name ns ih =>
    rw [failure?_chunks_cons, ih h.tail, chunk, lookups, lookupsIn, List.findSome?_append,
      List.findSome?_singleton, failure?_renderName]
    decide

/-- Why a message that can be read cannot be formatted. -/
theorem failure?_format {f : Formatter} {source : String} {nodes : List Node}
    (h : parse f.limit source = .ok nodes) (values : Table Value) :
    failure? (f.format source values) =
      (lookups nodes).findSome? (missing? (f.effective values)) := by
  rw [format, h, ok_bind, formatNodes]
  exact failure?_chunks (DepthGuard.admits_of_parse h)

/-- A message can be formatted with some values. -/
def Formats (f : Formatter) (source : String) (values : Table Value) : Prop :=
  ∃ chunks, f.format source values = .ok chunks

/-- A message can be formatted with just the values that another one can, and fails for want of a
    value only. -/
def Replaces (f : Formatter) (source other : String) : Prop :=
  ∀ values, (f.Formats source values ↔ f.Formats other values) ∧
    ∀ failure, f.format source values = .error failure → failure.IsMissingValue

/-- A message can be formatted just if no value is missing for its markup. -/
theorem formats_iff {f : Formatter} {source : String} {nodes : List Node}
    (h : parse f.limit source = .ok nodes) (values : Table Value) :
    f.Formats source values ↔ ∀ s ∈ signatures nodes, missing? (f.effective values) s = none := by
  rw [Formats, ← failure?_eq_none, failure?_format h, List.findSome?_eq_none_iff]
  simp only [mem_lookups]

/-- Messages with the same markup replace each other. -/
theorem replaces_of_signatures {f : Formatter} {source other : String} {nodes others : List Node}
    (hsource : parse f.limit source = .ok nodes) (hother : parse f.limit other = .ok others)
    (hsame : ∀ s, s ∈ signatures nodes ↔ s ∈ signatures others) : f.Replaces source other := by
  intro values
  constructor
  · rw [formats_iff hsource, formats_iff hother]
    simp only [hsame]
  · intro failure hfailure
    rw [← failure?_eq_some, failure?_format hsource] at hfailure
    obtain ⟨s, _, hmissing⟩ := List.exists_of_findSome?_eq_some hfailure
    exact isMissingValue_of_missing? hmissing

end Formatter

end MessageMarkup
