import MessageMarkup.Printer
import MessageMarkup.Proofs.Introspection
import MessageMarkup.Proofs.Likeness

/-!
# One nesting limit

Printing, introspection and formatting walk into tags, each below a guard of its own. Whatever else
such a walk does, it goes one level down for what a tag encloses, and that alone decides where the
limit ends it. The parser makes nothing that is deeper.

## Main definitions

- `DepthGuard.Descends` — a walk over nodes goes one level down for what a tag encloses
- `DepthGuard.EndsBeyond` — a walk fails just for nodes that are deeper than a limit allows

## Main statements

- `DepthGuard.Descends.failure?_eq` — such a walk fails where its guard does not admit the nodes
- `Printer.descends`, `Names.descends`, `Formatter.descends` — the three walks are such walks
- `nesting_limit_exact` — all of them end beyond the same depth, which the parser never exceeds
-/

namespace MessageMarkup

open Node Outcome

namespace DepthGuard

theorem failure?_enter (g : DepthGuard) :
    failure? g.enter = if g.level < g.limit then none else some (.nestingTooDeep g.limit) := by
  split
  · next h => rw [enter_eq_ok h, failure?]
  · next h => rw [enter_eq_error (Int.not_lt.1 h), failure?]

/-- What follows a step down is done one level deeper. -/
theorem failure?_enter_bind {β : Type} (g : DepthGuard) (f : DepthGuard → Except Failure β) :
    failure? (g.enter >>= f) = (failure? g.enter).or (failure? (f g.deeper)) := by
  by_cases h : g.level < g.limit
  · rw [enter_eq_ok h]
    rfl
  · rw [enter_eq_error (Int.not_lt.1 h)]
    rfl

variable {α : Type}

/-- A walk over nodes goes one level down for what a tag encloses. What else it may fail for at some
    markup is told by `flaw?`; at a tag that comes after what the tag encloses. -/
structure Descends (walk : DepthGuard → List Node → Except Failure α)
    (flaw? : Kind × String → Option Failure) : Prop where
  nil : ∀ g, failure? (walk g []) = none
  leaf : ∀ g n ns, n.depth = 0 →
    failure? (walk g (n :: ns)) = (n.signature?.bind flaw?).or (failure? (walk g ns))
  tag : ∀ g name children ns,
    failure? (walk g (.tag name children :: ns)) =
      (((failure? g.enter).or (failure? (walk g.deeper children))).or (flaw? (.tag, name))).or
        (failure? (walk g ns))

/-- Markup that encloses nothing and has no flaw does not make the walk fail. -/
theorem Descends.failure?_cons {walk : DepthGuard → List Node → Except Failure α}
    {flaw? : Kind × String → Option Failure} (h : Descends walk flaw?) {n : Node} {ns : List Node}
    (hn : n.depth = 0) (hflaw : ∀ s ∈ signatures (n :: ns), flaw? s = none) (g : DepthGuard) :
    failure? (walk g (n :: ns)) = failure? (walk g ns) := by
  have hnone : n.signature?.bind flaw? = none := by
    cases n with
    | text value => rfl
    | tag name children => simp [depth] at hn
    | voidTag name => exact hflaw (.voidTag, name) List.mem_cons_self
    | placeholder name => exact hflaw (.placeholder, name) List.mem_cons_self
  rw [h.leaf g n ns hn, hnone, Option.none_or]

/-- Over markup without flaws a walk fails just where its guard does not admit the nodes. -/
theorem Descends.failure?_eq {walk : DepthGuard → List Node → Except Failure α}
    {flaw? : Kind × String → Option Failure} (h : Descends walk flaw?) {ns : List Node}
    (hflaw : ∀ s ∈ signatures ns, flaw? s = none) (g : DepthGuard) :
    failure? (walk g ns) = if g.Admits ns then none else some (.nestingTooDeep g.limit) := by
  induction ns using forest_induction generalizing g with
  | nil => rw [h.nil, if_pos g.admits_nil]
  | text value ns ih =>
    have hns : ∀ s ∈ signatures ns, flaw? s = none := hflaw
    rw [h.failure?_cons rfl hflaw, ih hns]
    simp only [admits_cons_of_depth_eq_zero (show depth (.text value) = 0 from rfl)]
  | tag name children ns ihChildren ih =>
    rw [signatures_tag, List.forall_mem_cons, List.forall_mem_append] at hflaw
    obtain ⟨hname, hchildren, hns⟩ := hflaw
    rw [h.tag, hname, ihChildren hchildren, ih hns, failure?_enter]
    simp only [admits_tag_cons_iff]
    -- The limit is the same at every level, so it does not matter which part goes beyond it.
    have hlimit : g.deeper.limit = g.limit := rfl
    by_cases hroom : g.level < g.limit <;> by_cases hinside : g.deeper.Admits children <;>
      simp [hroom, hinside, hlimit]
  | voidTag name ns ih =>
    have hns : ∀ s ∈ signatures ns, flaw? s = none := (List.forall_mem_cons.1 hflaw).2
    rw [h.failure?_cons rfl hflaw, ih hns]
    simp only [admits_cons_of_depth_eq_zero (show depth (.voidTag name) = 0 from rfl)]
  | placeholder name ns ih =>
    have hns : ∀ s ∈ signatures ns, flaw? s = none := (List.forall_mem_cons.1 hflaw).2
    rw [h.failure?_cons rfl hflaw, ih hns]
    simp only [admits_cons_of_depth_eq_zero (show depth (.placeholder name) = 0 from rfl)]

/-- A walk fails just for nodes that are deeper than the limit allows, and then for that reason. -/
def EndsBeyond (limit : Int) (nodes : List Node) (outcome : Except Failure α) : Prop :=
  ∀ failure, outcome = .error failure ↔
    max 0 (min limit 475) < (depthOf nodes : Int) ∧ failure = .nestingTooDeep (min limit 475)

theorem Descends.endsBeyond {walk : DepthGuard → List Node → Except Failure α}
    {flaw? : Kind × String → Option Failure} (h : Descends walk flaw?) {nodes : List Node}
    (hflaw : ∀ s ∈ signatures nodes, flaw? s = none) (limit : Int) :
    EndsBeyond limit nodes (walk (.ofLimit limit) nodes) := by
  intro failure
  have hclamp : (ofLimit limit).limit = min limit 475 := rfl
  rw [← failure?_eq_some, h.failure?_eq hflaw, hclamp]
  by_cases hadmits : (ofLimit limit).Admits nodes
  · have hdepth : (depthOf nodes : Int) ≤ max 0 (min limit 475) := admits_ofLimit.1 hadmits
    simp only [hadmits, if_true, reduceCtorEq, false_iff, not_and]
    omega
  · have hdepth : ¬ (depthOf nodes : Int) ≤ max 0 (min limit 475) := mt admits_ofLimit.2 hadmits
    rw [if_neg hadmits, Option.some_inj, eq_comm]
    exact ⟨fun h => ⟨Int.not_le.1 hdepth, h⟩, And.right⟩

theorem EndsBeyond.exists_ok {limit : Int} {nodes : List Node} {outcome : Except Failure α}
    (h : EndsBeyond limit nodes outcome) (hdepth : (depthOf nodes : Int) ≤ max 0 (min limit 475)) :
    ∃ result, outcome = .ok result := by
  cases outcome with
  | ok result => exact ⟨result, rfl⟩
  | error failure => exact absurd ((h failure).1 rfl).1 (Int.not_lt.2 hdepth)

end DepthGuard

open DepthGuard

/-- The printer goes one level down for what a tag encloses. -/
theorem Printer.descends : Descends Printer.nodes fun _ => none where
  nil _ := rfl
  leaf g n ns hn := by
    rw [Printer.nodes, failure?_both]
    cases n with
    | tag name children => simp [depth] at hn
    | text _ | voidTag _ | placeholder _ => rfl
  tag g name children ns := by
    rw [Printer.nodes, failure?_both, Printer.node, failure?_enter_bind,
      failure?_bind (o := none) fun _ => rfl]
    simp only [Option.or_none]

/-- Introspection goes one level down for what a tag encloses. -/
theorem Names.descends : Descends Names.collect fun _ => none where
  nil _ := rfl
  leaf g n ns hn := by
    rw [Names.collect, failure?_both]
    cases n with
    | tag name children => simp [depth] at hn
    | text _ | voidTag _ | placeholder _ => rfl
  tag g name children ns := by
    rw [Names.collect, failure?_both, Names.ofNode, failure?_enter_bind,
      failure?_bind (o := none) fun _ => rfl]
    simp only [Option.or_none]

/-- Formatting goes one level down for what a tag encloses, and may fail besides for want of a
    value. -/
theorem Formatter.descends (join : Join) (values : Table Prepared) :
    Descends (Formatter.chunks join values) (missing? values) where
  nil _ := rfl
  leaf g n ns hn := by
    rw [failure?_chunks_cons]
    cases n with
    | tag name children => simp [depth] at hn
    | text value => rfl
    | voidTag name | placeholder name =>
      rw [Formatter.chunk, failure?_renderName]
      · rfl
      · decide
  tag g name children ns := by
    rw [failure?_chunks_cons, Formatter.chunk, failure?_enter_bind,
      failure?_bind (failure?_renderTag join values name)]
    simp only [Option.or_assoc]

/-- Nodes that a limit admits are formatted below it, or else miss a value. -/
theorem Formatter.isMissingValue_of_formatNodes {f : Formatter} {nodes : List Node}
    {values : Table Value} {failure : Failure} (h : (ofLimit f.limit).Admits nodes)
    (hfails : f.formatNodes nodes values = .error failure) : failure.IsMissingValue := by
  rw [← failure?_eq_some, failure?_formatNodes h] at hfails
  obtain ⟨s, _, hmissing⟩ := List.exists_of_findSome?_eq_some hfails
  exact isMissingValue_of_missing? hmissing

/-- Printing and introspection fail just for nodes that are deeper than the limit allows, and so
    does formatting if no value is missing. The parser makes no such nodes, so whatever it has read
    under a limit is never too deep for printing, introspection, formatting or comparison under that
    limit. -/
theorem nesting_limit_exact (limit : Int) (nodes : List Node) :
    EndsBeyond limit nodes (print limit nodes) ∧
      EndsBeyond limit nodes (Names.ofNodes limit nodes) ∧
      (∀ f : Formatter, f.limit = limit → ∀ values, (∀ s ∈ signatures nodes, f.Supplies values s) →
        EndsBeyond limit nodes (f.formatNodes nodes values)) ∧
      ∀ source, parse limit source = .ok nodes →
        (depthOf nodes : Int) ≤ max 0 (min limit 475) ∧
          (∃ written, print limit nodes = .ok written) ∧
          (∃ names, Names.ofNodes limit nodes = .ok names) ∧
          (∀ f : Formatter, f.limit = limit → ∀ values failure,
            f.formatNodes nodes values = .error failure → failure.IsMissingValue) ∧
          ∀ target, ∃ agree, Structure.same (.ofLimit limit) nodes target = .ok agree := by
  have hprint : EndsBeyond limit nodes (print limit nodes) :=
    Printer.descends.endsBeyond (fun _ _ => rfl) limit
  have hnames : EndsBeyond limit nodes (Names.ofNodes limit nodes) :=
    Names.descends.endsBeyond (fun _ _ => rfl) limit
  refine ⟨hprint, hnames, ?_, fun source hparse => ?_⟩
  · rintro f rfl values hsupplies
    apply (Formatter.descends f.join (f.effective values)).endsBeyond
    intro s hs
    exact Formatter.missing?_eq_none_iff.2 (hsupplies s hs)
  · have hadmits : (ofLimit limit).Admits nodes := admits_of_parse hparse
    have hdepth : (depthOf nodes : Int) ≤ max 0 (min limit 475) := admits_ofLimit.1 hadmits
    refine ⟨hdepth, hprint.exists_ok hdepth, hnames.exists_ok hdepth, ?_, fun target => ?_⟩
    · rintro f rfl values failure hfails
      exact Formatter.isMissingValue_of_formatNodes hadmits hfails
    · obtain ⟨agree, hsame, _⟩ := Structure.same_answers hadmits target
      exact ⟨agree, hsame⟩

/-- Two nested tags, of which the inner one encloses nothing, are too deep for the limit one. Where
    they can be read, under the limit two, they can be written. -/
theorem nesting_limit_exact_childless :
    let nodes := [Node.text "x", .tag "p" [.placeholder "n", .tag "b" []]]
    let values := Table.ofList [("n", Value.text "y")]
    let f : Formatter := { Formatter.standard with limit := 1 }
    (∀ s ∈ signatures nodes, f.Supplies values s) ∧
      f.formatNodes nodes values = .error (.nestingTooDeep 1) ∧
      print 1 nodes = .error (.nestingTooDeep 1) ∧
      parse 2 "x<p>%n%<b></b></p>" = .ok nodes ∧ ∃ written, print 2 nodes = .ok written := by
  intro nodes values f
  have hsupplies : ∀ s ∈ signatures nodes, f.Supplies values s := by
    have hmarkup : signatures nodes = [(.tag, "p"), (.placeholder, "n"), (.tag, "b")] := rfl
    simp only [hmarkup, List.forall_mem_cons]
    exact ⟨⟨_, rfl⟩, ⟨_, rfl⟩, ⟨_, rfl⟩, by simp⟩
  have hparse : parse 2 "x<p>%n%<b></b></p>" = .ok nodes := by decide +kernel
  obtain ⟨hprint, _, hformat, _⟩ := nesting_limit_exact 1 nodes
  obtain ⟨_, _, _, hparsed⟩ := nesting_limit_exact 2 nodes
  have hdeep : max 0 (min 1 475) < (depthOf nodes : Int) := by decide
  exact ⟨hsupplies, (hformat f rfl values hsupplies _).2 ⟨hdeep, rfl⟩, (hprint _).2 ⟨hdeep, rfl⟩,
    hparse, (hparsed _ hparse).2.1⟩

end MessageMarkup
