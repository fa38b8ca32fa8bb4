import MessageMarkup.Names
import MessageMarkup.Proofs.Formatting
import MessageMarkup.Report

/-!
# What introspection tells about formatting

The names that introspection collects are those that formatting looks up. So they tell beforehand
whether a table of values is enough, and which name is reported if it is not.

## Main definitions

- `Names.ofSignatures` — the names of markup, by the kind that asks for them
- `Failure.Misses` — a failure that is reported as a missing value of some name
- `Formatter.valueFor?` — the value that a name has in a call
- `Formatter.Supplies` — a call has a usable value for some markup

## Main statements

- `Names.collect_eq_ok` — the names in nodes are those of their markup
- `Formatter.length_of_chunks_eq_ok` — every node becomes one chunk
- `Formatter.formatNodes_iff_names_supplied` — when nodes can be formatted, and what is missing
  where they cannot
-/

namespace MessageMarkup

open Node Outcome

namespace Names

/-- The names of the markup of one kind. -/
def ofKind (kind : Kind) (signatures : List (Kind × String)) : List String :=
  signatures.filterMap fun s => if s.1 = kind then some s.2 else none

def ofSignatures (signatures : List (Kind × String)) : Names where
  placeholders := ofKind .placeholder signatures
  tags := ofKind .tag signatures
  voidTags := ofKind .voidTag signatures

theorem mem_ofKind {kind : Kind} {signatures : List (Kind × String)} {name : String} :
    name ∈ ofKind kind signatures ↔ (kind, name) ∈ signatures := by
  simp only [ofKind, List.mem_filterMap, Option.ite_none_right_eq_some, Option.some.injEq]
  constructor
  · rintro ⟨⟨_, _⟩, hmem, rfl, rfl⟩
    exact hmem
  · intro hmem
    exact ⟨(kind, name), hmem, rfl, rfl⟩

theorem mem_all_ofSignatures {signatures : List (Kind × String)} {name : String} :
    name ∈ (ofSignatures signatures).all ↔ ∃ kind, (kind, name) ∈ signatures := by
  simp only [all, ofSignatures, List.mem_append, mem_ofKind]
  constructor
  · rintro ((h | h) | h)
    · exact ⟨.placeholder, h⟩
    · exact ⟨.tag, h⟩
    · exact ⟨.voidTag, h⟩
  · rintro ⟨kind, h⟩
    cases kind with
    | placeholder => exact .inl (.inl h)
    | tag => exact .inl (.inr h)
    | voidTag => exact .inr h

theorem ofSignatures_append (l₁ l₂ : List (Kind × String)) :
    ofSignatures (l₁ ++ l₂) = ofSignatures l₁ ++ ofSignatures l₂ := by
  have hkind (kind : Kind) : ofKind kind (l₁ ++ l₂) = ofKind kind l₁ ++ ofKind kind l₂ :=
    List.filterMap_append
  simp only [ofSignatures, hkind]
  rfl

/-- The names of one piece of markup, whatever it encloses. -/
theorem ofSignatures_cons (s : Kind × String) (l : List (Kind × String)) :
    ofSignatures (s :: l) = ofSignatures [s] ++ ofSignatures l :=
  ofSignatures_append [s] l

theorem collect_cons_of_ok {guard : DepthGuard} {n : Node} {ns : List Node} {first rest : Names}
    (hfirst : ofNode guard n = .ok first) (hrest : collect guard ns = .ok rest) :
    collect guard (n :: ns) = .ok (first ++ rest) := by
  rw [collect, hfirst, ok_bind, hrest]
  rfl

/-- Below a guard that admits them, the names in nodes are those of their markup, whatever the
    depth at which it stands. -/
theorem collect_eq_ok {ns : List Node} {guard : DepthGuard} (h : guard.Admits ns) :
    collect guard ns = .ok (ofSignatures (signatures ns)) := by
  induction ns using forest_induction generalizing guard with
  | nil => rfl
  | text value ns ih =>
    have htext : ofNode guard (.text value) = .ok (ofSignatures []) := rfl
    rw [collect_cons_of_ok htext (ih h.tail), ← ofSignatures_append]
    rfl
  | tag name children ns ihChildren ih =>
    obtain ⟨henter, hchildren⟩ := h.tag
    have htag : ofNode guard (.tag name children) =
        .ok (ofSignatures [(.tag, name)] ++ ofSignatures (signatures children)) := by
      rw [ofNode, henter, ok_bind, ihChildren hchildren]
      rfl
    rw [collect_cons_of_ok htag (ih h.tail), ← ofSignatures_append, ← ofSignatures_append]
    rfl
  | voidTag name ns ih =>
    rw [signatures_voidTag, ofSignatures_cons]
    exact collect_cons_of_ok rfl (ih h.tail)
  | placeholder name ns ih =>
    rw [signatures_placeholder, ofSignatures_cons]
    exact collect_cons_of_ok rfl (ih h.tail)

end Names

/-- The failure is reported as a missing value of this name. -/
def Failure.Misses (failure : Failure) (name : String) : Prop :=
  failure.report.category = .missingValue ∧ failure.report.facts = [("name", .text name)]

namespace Formatter

theorem misses_of_missing? {values : Table Prepared} {s : Kind × String} {failure : Failure}
    (h : missing? values s = some failure) : failure.Misses s.2 := by
  simp only [missing?] at h
  split at h
  · cases h
    exact ⟨rfl, rfl⟩
  · cases h
  · split at h
    · cases h
    · cases h
      exact ⟨rfl, rfl⟩

/-- Formatting makes one chunk of every node. -/
theorem length_of_chunks_eq_ok {join : Join} {values : Table Prepared} {guard : DepthGuard}
    {ns : List Node} {cs : List Chunk} (h : chunks join values guard ns = .ok cs) :
    cs.length = ns.length := by
  induction ns generalizing cs with
  | nil =>
    cases h
    rfl
  | cons n ns ih =>
    simp only [chunks, bind_eq_ok] at h
    obtain ⟨first, _, rest, hrest, h⟩ := h
    cases h
    rw [List.length_cons, List.length_cons, ih hrest]

/-- The value that a name has in a call: the one given with the call unless that is absent, and
    else the default. -/
def valueFor? (f : Formatter) (values : Table Value) (name : String) : Option Prepared :=
  match values.get? name with
  | none | some .absent => (f.defaults.get? name).bind Value.prepare?
  | some value => value.prepare?

theorem get?_effective_eq (f : Formatter) (values : Table Value) (name : String) :
    (f.effective values).get? name = f.valueFor? values name := by
  rw [get?_effective, valueFor?]
  cases values.get? name with
  | none => rfl
  | some value => cases value <;> rfl

/-- The call has a usable value for some markup: any for a tag, a text for a void tag or a
    placeholder. -/
def Supplies (f : Formatter) (values : Table Value) : Kind × String → Prop
  | (.tag, name) => ∃ value, f.valueFor? values name = some value
  | (.voidTag, name) | (.placeholder, name) => ∃ text, f.valueFor? values name = some (.text text)

theorem missing?_eq_none_iff {f : Formatter} {values : Table Value} {s : Kind × String} :
    missing? (f.effective values) s = none ↔ f.Supplies values s := by
  obtain ⟨kind, name⟩ := s
  simp only [missing?, get?_effective_eq]
  cases hvalue : f.valueFor? values name with
  | none => cases kind <;> simp [Supplies, hvalue]
  | some value =>
    cases value <;> cases kind <;> simp [Supplies, hvalue]

theorem failure?_formatNodes {f : Formatter} {nodes : List Node}
    (h : (DepthGuard.ofLimit f.limit).Admits nodes) (values : Table Value) :
    failure? (f.formatNodes nodes values) =
      (lookups nodes).findSome? (missing? (f.effective values)) :=
  failure?_chunks h

/-- Nodes that cannot be formatted miss the value of the first markup, in the order of lookups, that
    has no usable one. -/
theorem exists_first_of_formatNodes_eq_error {f : Formatter} {nodes : List Node}
    (h : (DepthGuard.ofLimit f.limit).Admits nodes) {values : Table Value} {failure : Failure}
    (hfails : f.formatNodes nodes values = .error failure) :
    ∃ front s back, lookups nodes = front ++ s :: back ∧ (∀ e ∈ front, f.Supplies values e) ∧
      ¬ f.Supplies values s ∧ failure.Misses s.2 := by
  rw [← failure?_eq_some, failure?_formatNodes h, List.findSome?_eq_some_iff] at hfails
  obtain ⟨front, s, back, hsplit, hmissing, hfront⟩ := hfails
  refine ⟨front, s, back, hsplit, ?_, ?_, misses_of_missing? hmissing⟩
  · intro e he
    exact missing?_eq_none_iff.1 (hfront e he)
  · rw [← missing?_eq_none_iff, hmissing]
    simp

/-- Introspection and formatting agree on nodes that are within the limits of both. The nodes can be
    formatted just if there is a value for every name of a tag, and a text for every name of a
    placeholder and of a void tag; they then become one chunk each. Otherwise the value is missing
    that is the first to be looked up in vain, where what a tag encloses comes before the tag. -/
theorem formatNodes_iff_names_supplied (f : Formatter) (limit : Int) (nodes : List Node)
    (values : Table Value)
    (hdepth : (depthOf nodes : Int) ≤ max 0 (min (min f.limit limit) 475)) :
    ∃ names, Names.ofNodes limit nodes = .ok names ∧
      ((∃ cs, f.formatNodes nodes values = .ok cs) ↔
        (∀ name ∈ names.tags, ∃ value, f.valueFor? values name = some value) ∧
          (∀ name ∈ names.placeholders, ∃ text, f.valueFor? values name = some (.text text)) ∧
          ∀ name ∈ names.voidTags, ∃ text, f.valueFor? values name = some (.text text)) ∧
      (∀ cs, f.formatNodes nodes values = .ok cs → cs.length = nodes.length) ∧
      ∀ failure, f.formatNodes nodes values = .error failure →
        ∃ front s back, lookups nodes = front ++ s :: back ∧
          (∀ e ∈ front, f.Supplies values e) ∧ ¬ f.Supplies values s ∧ failure.Misses s.2 := by
  have hformat : (DepthGuard.ofLimit f.limit).Admits nodes := by
    rw [DepthGuard.admits_ofLimit, Nesting.clamp_eq_min, Nesting.largestLimit]
    omega
  have hcollect : (DepthGuard.ofLimit limit).Admits nodes := by
    rw [DepthGuard.admits_ofLimit, Nesting.clamp_eq_min, Nesting.largestLimit]
    omega
  refine ⟨_, Names.collect_eq_ok hcollect, ?_, fun cs => length_of_chunks_eq_ok,
    fun failure => exists_first_of_formatNodes_eq_error hformat⟩
  rw [← failure?_eq_none, failure?_formatNodes hformat, List.findSome?_eq_none_iff]
  simp only [mem_lookups, missing?_eq_none_iff, Names.ofSignatures, Names.mem_ofKind]
  constructor
  · intro h
    exact ⟨fun name hname => h _ hname, fun name hname => h _ hname, fun name hname => h _ hname⟩
  · rintro ⟨htags, hplaceholders, hvoidTags⟩ ⟨kind, name⟩ hmem
    cases kind with
    | tag => exact htags name hmem
    | placeholder => exact hplaceholders name hmem
    | voidTag => exact hvoidTags name hmem

/-- A name that is both a tag and a placeholder, around one whose absent value leaves the default in
    force. The default renders a tag, so the placeholder inside is what is missing. -/
theorem formatNodes_iff_names_supplied_nested :
    let nodes := [Node.tag "link" [.placeholder "b"], .placeholder "link"]
    let values := Table.ofList [("b", Value.absent), ("link", .text "x")]
    (depthOf nodes : Int) ≤ max 0 (min (min standard.limit 3) 475) ∧
      Names.ofNodes 3 nodes = .ok ⟨["b", "link"], ["link"], []⟩ ∧
      ¬ (∃ cs, standard.formatNodes nodes values = .ok cs) ∧
      ∃ failure, standard.formatNodes nodes values = .error failure ∧ failure.Misses "b" := by
  intro nodes values
  have hdepth : (depthOf nodes : Int) ≤ max 0 (min (min standard.limit 3) 475) := by decide
  obtain ⟨names, hnames, hformats, _, hfails⟩ :=
    formatNodes_iff_names_supplied standard 3 nodes values hdepth
  have hcollected : Names.ofNodes 3 nodes = .ok ⟨["b", "link"], ["link"], []⟩ := rfl
  obtain rfl : ⟨["b", "link"], ["link"], []⟩ = names := by
    simpa [hcollected] using hnames
  have hdefault : ¬ ∃ text, standard.valueFor? values "b" = some (.text text) := by
    rintro ⟨text, h⟩
    cases h
  have hnone : ¬ ∃ cs, standard.formatNodes nodes values = .ok cs := fun h =>
    hdefault ((hformats.1 h).2.1 "b" (by simp))
  refine ⟨hdepth, hcollected, hnone, ?_⟩
  cases hresult : standard.formatNodes nodes values with
  | ok cs => exact absurd ⟨cs, hresult⟩ hnone
  | error failure =>
    refine ⟨failure, rfl, ?_⟩
    obtain ⟨front, s, back, hsplit, hfront, _, hmisses⟩ := hfails failure hresult
    -- The placeholder is looked up first, so nothing can stand in front of what is missing.
    obtain rfl : front = [] := by
      cases front with
      | nil => rfl
      | cons e front =>
        obtain rfl : (Kind.placeholder, "b") = e := (List.cons.inj hsplit).1
        exact absurd (hfront _ List.mem_cons_self) hdefault
    obtain rfl : (Kind.placeholder, "b") = s := (List.cons.inj hsplit).1
    exact hmisses

end Formatter

end MessageMarkup
