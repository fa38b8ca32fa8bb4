import Mathlib.Data.List.Forall2
import MessageMarkup.Proofs.Comparison

/-!
# Alike structures

The comparison takes partners greedily. What it decides can be said without that: of each kind and
name both sides have as many nodes, and these are alike one by one, in their order.

## Main definitions

- `Structure.bearing` — the nodes of one kind and name
- `Structure.AlikeNode`, `Structure.Alike` — nodes, or lists of them, of the same structure

## Main statements

- `Structure.alike_cons_iff` — a node is alike to the first of its kind and name, or to none
- `Structure.same_answers` — the comparison tells whether two lists are alike, and does not fail
  below a guard that admits the first one
-/

namespace MessageMarkup.Structure

open Node Outcome

/-- The nodes of one kind and name, in their order. -/
def bearing (signature : Kind × String) (ns : List Node) : List Node :=
  ns.filter fun n => n.signature? = some signature

/-- Two nodes of one kind and name that enclose as many nodes of each kind and name, alike one by
    one. -/
inductive AlikeNode : Node → Node → Prop
  | tag {name : String} {children others : List Node} :
      (∀ signature, List.Forall₂ AlikeNode (bearing signature children) (bearing signature others)) →
      AlikeNode (.tag name children) (.tag name others)
  | voidTag (name : String) : AlikeNode (.voidTag name) (.voidTag name)
  | placeholder (name : String) : AlikeNode (.placeholder name) (.placeholder name)

/-- Two lists that hold as many nodes of each kind and name, alike one by one. -/
def Alike (base target : List Node) : Prop :=
  ∀ signature, List.Forall₂ AlikeNode (bearing signature base) (bearing signature target)

theorem alikeNode_tag_iff {name : String} {children others : List Node} :
    AlikeNode (.tag name children) (.tag name others) ↔ Alike children others := by
  constructor
  · intro h
    cases h with
    | tag h => exact h
  · exact .tag

theorem bearing_cons_of_eq {signature : Kind × String} {n : Node}
    (h : n.signature? = some signature) (ns : List Node) :
    bearing signature (n :: ns) = n :: bearing signature ns := by
  simp [bearing, h]

theorem bearing_cons_of_ne {signature : Kind × String} {n : Node}
    (h : n.signature? ≠ some signature) (ns : List Node) :
    bearing signature (n :: ns) = bearing signature ns := by
  simp [bearing, h]

theorem bearing_append (signature : Kind × String) (as bs : List Node) :
    bearing signature (as ++ bs) = bearing signature as ++ bearing signature bs :=
  List.filter_append as bs

theorem bearing_eq_nil {signature : Kind × String} {ns : List Node}
    (h : ∀ n ∈ ns, n.signature? ≠ some signature) : bearing signature ns = [] := by
  rw [bearing, List.filter_eq_nil_iff]
  intro n hn
  simpa using h n hn

theorem bearing_filter_isMarkup (signature : Kind × String) (ns : List Node) :
    bearing signature (ns.filter isMarkup) = bearing signature ns := by
  rw [bearing, List.filter_filter]
  apply List.filter_congr
  intro n _
  cases h : n.signature? with
  | none => simp
  | some s => simp [isMarkup, h]

theorem takeFirst?_eq_none {signature : Kind × String} {ns : List Node}
    (h : takeFirst? signature ns = none) : bearing signature ns = [] := by
  induction ns with
  | nil => rfl
  | cons n ns ih =>
    rw [takeFirst?] at h
    by_cases hn : n.signature? = some signature
    · simp [hn] at h
    · rw [if_neg hn, Option.map_eq_none_iff] at h
      rw [bearing_cons_of_ne hn, ih h]

/-- The partner that is taken is the first of its kind and name; of all others none is touched. -/
theorem bearing_of_takeFirst? {signature : Kind × String} {ns others : List Node} {n : Node}
    (h : takeFirst? signature ns = some (n, others)) :
    bearing signature ns = n :: bearing signature others ∧
      (∀ s, s ≠ signature → bearing s ns = bearing s others) ∧ ns.length = others.length + 1 := by
  obtain ⟨hn, front, back, rfl, rfl, hfront⟩ := takeFirst?_eq_some h
  refine ⟨?_, ?_, ?_⟩
  · rw [bearing_append, bearing_append, bearing_cons_of_eq hn, bearing_eq_nil hfront]
    rfl
  · intro s hs
    have hne : n.signature? ≠ some s := by
      rw [hn]
      simpa using hs.symm
    rw [bearing_append, bearing_append, bearing_cons_of_ne hne]
  · simp only [List.length_append, List.length_cons]
    omega

theorem not_alike_of_takeFirst? {signature : Kind × String} {n : Node} {ns unmatched : List Node}
    (hn : n.signature? = some signature) (h : takeFirst? signature unmatched = none) :
    ¬ Alike (n :: ns) unmatched := by
  intro halike
  have hfirst := halike signature
  rw [bearing_cons_of_eq hn, takeFirst?_eq_none h] at hfirst
  cases hfirst

/-- A node that leads a list is alike to the partner it takes, or to none. -/
theorem alike_cons_iff {signature : Kind × String} {n partner : Node}
    {ns unmatched others : List Node} (hn : n.signature? = some signature)
    (h : takeFirst? signature unmatched = some (partner, others)) :
    Alike (n :: ns) unmatched ↔ AlikeNode n partner ∧ Alike ns others := by
  obtain ⟨hfirst, hothers, _⟩ := bearing_of_takeFirst? h
  constructor
  · intro halike
    have hpair := halike signature
    rw [bearing_cons_of_eq hn, hfirst, List.forall₂_cons] at hpair
    refine ⟨hpair.1, fun s => ?_⟩
    by_cases hs : s = signature
    · rw [hs]
      exact hpair.2
    · have hne : n.signature? ≠ some s := by
        rw [hn]
        simpa using Ne.symm hs
      rw [← hothers s hs, ← bearing_cons_of_ne hne ns]
      exact halike s
  · rintro ⟨hpartner, halike⟩ s
    by_cases hs : s = signature
    · rw [hs, bearing_cons_of_eq hn, hfirst]
      exact .cons hpartner (halike signature)
    · have hne : n.signature? ≠ some s := by
        rw [hn]
        simpa using Ne.symm hs
      rw [bearing_cons_of_ne hne, hothers s hs]
      exact halike s

/-- A text that leads a list counts for nothing. -/
theorem alike_text_cons_iff {value : String} {ns target : List Node} :
    Alike (.text value :: ns) target ↔ Alike ns target := by
  have hskip (s : Kind × String) : bearing s (.text value :: ns) = bearing s ns :=
    bearing_cons_of_ne (by simp [signature?]) ns
  simp only [Alike, hskip]

theorem length_bearing (signature : Kind × String) (ns : List Node) :
    (bearing signature ns).length = (ns.filterMap signature?).count signature := by
  rw [List.count, List.countP_filterMap, bearing, ← List.countP_eq_length_filter]
  apply List.countP_congr
  intro n _
  cases n.signature? <;> simp

/-- Lists that are alike hold the same number of nodes that are not text. -/
theorem length_eq_of_alike {base target : List Node} (h : Alike base target) :
    (base.filter isMarkup).length = (target.filter isMarkup).length := by
  have hlength (ns : List Node) : (ns.filter isMarkup).length = (ns.filterMap signature?).length := by
    rw [List.length_filterMap_eq_countP, List.countP_eq_length_filter]
    rfl
  have hperm : (base.filterMap signature?).Perm (target.filterMap signature?) := by
    rw [List.perm_iff_count]
    intro signature
    rw [← length_bearing, ← length_bearing]
    exact (h signature).length_eq
  rw [hlength, hlength, hperm.length_eq]

/-- A node takes its partner, and the answer for the two is followed by that for the others. -/
theorem pairUp_cons_answers {guard : DepthGuard} {n : Node} {signature : Kind × String}
    {ns unmatched : List Node} (hn : n.signature? = some signature)
    (hlength : ((n :: ns).filter isMarkup).length = unmatched.length)
    (hinside : ∀ partner, partner.signature? = some signature →
      Answers (sameInside guard n partner) (AlikeNode n partner))
    (hrest : ∀ others : List Node, (ns.filter isMarkup).length = others.length →
      Answers (pairUp guard ns others) (Alike ns others)) :
    Answers (pairUp guard (n :: ns) unmatched) (Alike (n :: ns) unmatched) := by
  simp only [pairUp, hn]
  cases hfound : takeFirst? signature unmatched with
  | none => exact answers_false (not_alike_of_takeFirst? hn hfound)
  | some found =>
    obtain ⟨partner, others⟩ := found
    obtain ⟨hpartner, _⟩ := takeFirst?_eq_some hfound
    have hothers : (ns.filter isMarkup).length = others.length := by
      have hmarkup : n.isMarkup = true := by simp [isMarkup, hn]
      rw [List.filter_cons_of_pos hmarkup, List.length_cons,
        (bearing_of_takeFirst? hfound).2.2] at hlength
      omega
    exact ((hinside partner hpartner).and (hrest others hothers)).congr
      (alike_cons_iff hn hfound).symm

/-- Two lists are compared by pairing them up, once they are known to hold as much markup. -/
theorem same_answers_of_pairUp {guard : DepthGuard} {base target : List Node}
    (h : ∀ unmatched : List Node, (base.filter isMarkup).length = unmatched.length →
      Answers (pairUp guard base unmatched) (Alike base unmatched)) :
    Answers (same guard base target) (Alike base target) := by
  unfold same
  split
  · next hlength => exact answers_false fun halike => hlength (length_eq_of_alike halike)
  · next hlength =>
    refine (h _ (not_not.1 hlength)).congr ?_
    simp only [Alike, bearing_filter_isMarkup]

theorem sameInside_tag {guard inner : DepthGuard} (h : guard.enter = .ok inner)
    (name other : String) (children others : List Node) :
    sameInside guard (.tag name children) (.tag other others) = same inner children others := by
  rw [sameInside, h, ok_bind]
  rfl

/-- Markup that encloses nothing is alike to any of its kind and name. -/
theorem sameInside_answers_of_ne_tag {guard : DepthGuard} {n partner : Node}
    {signature : Kind × String} (hn : n.signature? = some signature)
    (hpartner : partner.signature? = some signature) (hkind : signature.1 ≠ .tag) :
    Answers (sameInside guard n partner) (AlikeNode n partner) := by
  cases n with
  | text _ => cases hn
  | tag _ _ =>
    cases hn
    exact absurd rfl hkind
  | voidTag name =>
    cases hn
    cases partner with
    | voidTag _ =>
      cases hpartner
      exact answers_true (.voidTag name)
    | text _ | tag _ _ | placeholder _ => cases hpartner
  | placeholder name =>
    cases hn
    cases partner with
    | placeholder _ =>
      cases hpartner
      exact answers_true (.placeholder name)
    | text _ | tag _ _ | voidTag _ => cases hpartner

/-- Below a guard that admits the first list, nodes of it are paired up without failure. -/
theorem pairUp_answers {ns : List Node} {guard : DepthGuard} (h : guard.Admits ns)
    {unmatched : List Node} (hlength : (ns.filter isMarkup).length = unmatched.length) :
    Answers (pairUp guard ns unmatched) (Alike ns unmatched) := by
  induction ns using forest_induction generalizing guard unmatched with
  | nil =>
    obtain rfl : unmatched = [] := by simpa using hlength.symm
    exact answers_true fun _ => .nil
  | text value ns ih =>
    exact (ih h.tail hlength).congr alike_text_cons_iff.symm
  | tag name children ns ihChildren ih =>
    obtain ⟨henter, hchildren⟩ := h.tag
    refine pairUp_cons_answers rfl hlength ?_ fun others hothers => ih h.tail hothers
    intro partner hpartner
    obtain ⟨partners, rfl⟩ := eq_tag_of_signature? hpartner
    rw [sameInside_tag henter]
    exact (same_answers_of_pairUp fun _ => ihChildren hchildren).congr alikeNode_tag_iff.symm
  | voidTag name ns ih | placeholder name ns ih =>
    refine pairUp_cons_answers rfl hlength ?_ fun others hothers => ih h.tail hothers
    intro partner hpartner
    exact sameInside_answers_of_ne_tag rfl hpartner (by simp)

/-- Below a guard that admits the first list, the comparison tells whether two lists are alike. -/
theorem same_answers {guard : DepthGuard} {base : List Node} (h : guard.Admits base)
    (target : List Node) : Answers (same guard base target) (Alike base target) :=
  same_answers_of_pairUp fun _ => pairUp_answers h

end MessageMarkup.Structure
