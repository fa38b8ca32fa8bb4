import MessageMarkup.Proofs.Likeness

/-!
# The comparison is an equivalence

The comparison walks through its first list and takes partners out of the second. What it decides
does not show this: it is an equivalence of lists of nodes, for which text counts for nothing and
siblings of different kinds or names may change places.

## Main definitions

- `Structure.withoutTexts` — nodes without the texts among them, at every level
- `Structure.Rearranged` — siblings have changed places, those of one kind and name excepted

## Main statements

- `Structure.Alike.refl`, `Structure.Alike.symm`, `Structure.Alike.trans` — being alike is an
  equivalence
- `Structure.alike_withoutTexts`, `Structure.Rearranged.alike` — what it leaves out of account
- `Structure.same_congr` — lists that are alike have the same outcome
- `Structure.same_equivalence` — the comparison is an equivalence of the lists it admits
-/

namespace MessageMarkup

open Node Outcome

/-- Steps that answer the same question have the same outcome. -/
theorem Outcome.Answers.eq {ε : Type} {x y : Except ε Bool} {p q : Prop} (hx : Answers x p)
    (hy : Answers y q) (hpq : p ↔ q) : x = y := by
  obtain ⟨b, rfl, hb⟩ := hx
  obtain ⟨c, rfl, hc⟩ := hy
  have : b = c := Bool.eq_iff_iff.2 (hb.trans (hpq.trans hc.symm))
  rw [this]

namespace Structure

section Pairs

variable {α : Type} {R : α → α → Prop} {as bs cs : List α}

/-- Lists paired by a relation are also paired the other way round, if it is symmetric on the
    members of the first. -/
theorem forall₂_symm_of_mem (h : List.Forall₂ R as bs) (hsymm : ∀ a ∈ as, ∀ b, R a b → R b a) :
    List.Forall₂ R bs as := by
  have hboth := (List.forall₂_and_left as bs).2 ⟨hsymm, h⟩
  exact .flip (hboth.imp fun _ b hab => hab.1 b hab.2)

theorem forall₂_trans_of_mem (h : List.Forall₂ R as bs) (h' : List.Forall₂ R bs cs)
    (htrans : ∀ a ∈ as, ∀ b c, R a b → R b c → R a c) : List.Forall₂ R as cs := by
  induction h generalizing cs with
  | nil => exact h'
  | @cons a b as bs hab _ ih =>
    obtain ⟨c, cs, hbc, hbs, rfl⟩ := List.forall₂_cons_left_iff.1 h'
    obtain ⟨ha, has⟩ := List.forall_mem_cons.1 htrans
    exact .cons (ha b c hab hbc) (ih hbs has)

end Pairs

theorem mem_bearing {signature : Kind × String} {n : Node} {ns : List Node} :
    n ∈ bearing signature ns ↔ n ∈ ns ∧ n.signature? = some signature := by
  simp [bearing]

theorem AlikeNode.refl {n : Node} {signature : Kind × String} (hn : n.signature? = some signature) :
    AlikeNode n n := by
  induction n using node_induction generalizing signature with
  | text value => cases hn
  | tag name children ih =>
    refine .tag fun inner => List.forall₂_same.2 fun n hn => ?_
    obtain ⟨hmem, hn⟩ := mem_bearing.1 hn
    exact ih n hmem hn
  | voidTag name => exact .voidTag name
  | placeholder name => exact .placeholder name

theorem AlikeNode.symm {m n : Node} (h : AlikeNode m n) : AlikeNode n m := by
  induction m using node_induction generalizing n with
  | text value => cases h
  | tag name children ih =>
    cases h with
    | tag hinside =>
      refine .tag fun signature => forall₂_symm_of_mem (hinside signature) ?_
      intro m hm n
      exact ih m (mem_bearing.1 hm).1
  | voidTag name | placeholder name =>
    cases h
    constructor

theorem AlikeNode.trans {m n k : Node} (h : AlikeNode m n) (h' : AlikeNode n k) :
    AlikeNode m k := by
  induction m using node_induction generalizing n k with
  | text value => cases h
  | tag name children ih =>
    cases h with
    | tag hinside =>
      cases h' with
      | tag hinside' =>
        refine .tag fun signature =>
          forall₂_trans_of_mem (hinside signature) (hinside' signature) ?_
        intro m hm n k
        exact ih m (mem_bearing.1 hm).1
  | voidTag name | placeholder name =>
    cases h
    exact h'

theorem AlikeNode.signature?_eq {m n : Node} (h : AlikeNode m n) : m.signature? = n.signature? := by
  cases h <;> rfl

theorem Alike.refl (ns : List Node) : Alike ns ns := by
  intro signature
  apply List.forall₂_same.2
  intro n hn
  exact .refl (mem_bearing.1 hn).2

theorem Alike.symm {as bs : List Node} (h : Alike as bs) : Alike bs as :=
  fun signature => forall₂_symm_of_mem (h signature) fun _ _ _ => AlikeNode.symm

theorem Alike.trans {as bs cs : List Node} (h : Alike as bs) (h' : Alike bs cs) : Alike as cs :=
  fun signature => forall₂_trans_of_mem (h signature) (h' signature) fun _ _ _ _ => AlikeNode.trans

theorem Alike.cons {m n : Node} {as bs : List Node} (hmn : AlikeNode m n) (h : Alike as bs) :
    Alike (m :: as) (n :: bs) := by
  intro signature
  by_cases hm : m.signature? = some signature
  · rw [bearing_cons_of_eq hm, bearing_cons_of_eq (hmn.signature?_eq ▸ hm)]
    exact .cons hmn (h signature)
  · rw [bearing_cons_of_ne hm, bearing_cons_of_ne (hmn.signature?_eq ▸ hm)]
    exact h signature

theorem Alike.append {as bs as' bs' : List Node} (h : Alike as bs) (h' : Alike as' bs') :
    Alike (as ++ as') (bs ++ bs') := by
  intro signature
  rw [bearing_append, bearing_append]
  exact List.rel_append (h signature) (h' signature)

mutual

/-- A node with no text left in what it encloses. -/
def withoutTextsIn : Node → Node
  | .tag name children => .tag name (withoutTexts children)
  | .text value => .text value
  | .voidTag name => .voidTag name
  | .placeholder name => .placeholder name

/-- Nodes without the texts among them and in what they enclose. -/
def withoutTexts : List Node → List Node
  | [] => []
  | n :: ns => if n.isMarkup then withoutTextsIn n :: withoutTexts ns else withoutTexts ns

end

theorem depthOf_withoutTexts (ns : List Node) : depthOf (withoutTexts ns) = depthOf ns := by
  induction ns using forest_induction with
  | nil => rfl
  | text value ns ih => simpa [withoutTexts, isMarkup, signature?, depthOf, depth] using ih
  | tag name children ns ihChildren ih =>
    simp [withoutTexts, withoutTextsIn, isMarkup, signature?, depthOf, depth, ihChildren, ih]
  | voidTag name ns ih | placeholder name ns ih =>
    simp [withoutTexts, withoutTextsIn, isMarkup, signature?, depthOf, depth, ih]

/-- Text has no part in being alike. -/
theorem alike_withoutTexts (ns : List Node) : Alike ns (withoutTexts ns) := by
  induction ns using forest_induction with
  | nil => exact fun _ => .nil
  | text value ns ih => exact alike_text_cons_iff.2 ih
  | tag name children ns ihChildren ih => exact .cons (.tag ihChildren) ih
  | voidTag name ns ih => exact .cons (.voidTag name) ih
  | placeholder name ns ih => exact .cons (.placeholder name) ih

/-- Siblings at some levels have changed places, but those of one kind and name keep their order. -/
inductive Rearranged : List Node → List Node → Prop
  | siblings {as bs : List Node} :
      as.Perm bs → (∀ signature, bearing signature as = bearing signature bs) → Rearranged as bs
  | inside (front back : List Node) {children others : List Node} {name : String} :
      Rearranged children others →
      Rearranged (front ++ .tag name children :: back) (front ++ .tag name others :: back)
  | trans {as bs cs : List Node} : Rearranged as bs → Rearranged bs cs → Rearranged as cs

/-- Neighbours of different kinds or names may change places. -/
theorem Rearranged.swap {m n : Node} (h : m.signature? ≠ n.signature?) (front back : List Node) :
    Rearranged (front ++ m :: n :: back) (front ++ n :: m :: back) := by
  refine .siblings ((List.Perm.swap n m back).append_left front) fun signature => ?_
  rw [bearing_append, bearing_append]
  congr 1
  by_cases hm : m.signature? = some signature
  · have hn : n.signature? ≠ some signature := by
      intro hn
      exact h (hm.trans hn.symm)
    rw [bearing_cons_of_eq hm, bearing_cons_of_ne hn, bearing_cons_of_ne hn, bearing_cons_of_eq hm]
  · rw [bearing_cons_of_ne hm]
    by_cases hn : n.signature? = some signature
    · rw [bearing_cons_of_eq hn, bearing_cons_of_eq hn, bearing_cons_of_ne hm]
    · rw [bearing_cons_of_ne hn, bearing_cons_of_ne hn, bearing_cons_of_ne hm]

theorem depthOf_perm {as bs : List Node} (h : as.Perm bs) : depthOf as = depthOf bs := by
  induction h with
  | nil => rfl
  | cons n _ ih => simp only [depthOf, ih]
  | swap m n ns => simp only [depthOf, Nat.max_left_comm]
  | trans _ _ ih ih' => exact ih.trans ih'

theorem Rearranged.depthOf_eq {as bs : List Node} (h : Rearranged as bs) :
    depthOf as = depthOf bs := by
  induction h with
  | siblings hperm _ => exact depthOf_perm hperm
  | inside _ _ _ ih => simp [depthOf, depth, ih]
  | trans _ _ ih ih' => exact ih.trans ih'

/-- Lists that differ in the order of siblings only are alike. -/
theorem Rearranged.alike {as bs : List Node} (h : Rearranged as bs) : Alike as bs := by
  induction h with
  | @siblings as bs _ hbearing =>
    intro signature
    rw [← hbearing signature]
    exact Alike.refl as signature
  | inside front back _ ih => exact (Alike.refl front).append (.cons (.tag ih) (.refl back))
  | trans _ _ ih ih' => exact ih.trans ih'

/-- Below a guard that admits them, lists that are alike have the same outcome in a comparison. -/
theorem same_congr {guard : DepthGuard} {base base' target target' : List Node}
    (hbase : guard.Admits base) (hdepth : depthOf base' = depthOf base) (h : Alike base base')
    (h' : Alike target target') : same guard base' target' = same guard base target := by
  have hbase' : guard.Admits base' := by rwa [DepthGuard.Admits, hdepth]
  refine (same_answers hbase' target').eq (same_answers hbase target) ?_
  constructor
  · intro halike
    exact h.trans (halike.trans h'.symm)
  · intro halike
    exact h.symm.trans (halike.trans h')

theorem same_eq_true_iff {guard : DepthGuard} {base : List Node} (h : guard.Admits base)
    (target : List Node) : same guard base target = .ok true ↔ Alike base target := by
  obtain ⟨b, hb, halike⟩ := same_answers h target
  simp [hb, halike]

/-- Below a guard that admits both lists, the comparison tells whether they are alike. So it is an
    equivalence of such lists; no text has a part in it, and the order of siblings only as far as
    they are of one kind and name. -/
theorem same_equivalence (guard : DepthGuard) :
    (∀ base target, guard.Admits base → guard.Admits target →
        Answers (same guard base target) (Alike base target)) ∧
      Equivalence (fun a b : { ns : List Node // guard.Admits ns } =>
        same guard a.1 b.1 = .ok true) ∧
      (∀ base target, guard.Admits base → guard.Admits target →
        same guard (withoutTexts base) (withoutTexts target) = same guard base target) ∧
      ∀ base base' target target', guard.Admits base → guard.Admits target →
        Rearranged base base' → Rearranged target target' →
          same guard base' target' = same guard base target := by
  refine ⟨fun base target h _ => same_answers h target, ⟨?_, ?_, ?_⟩, ?_, ?_⟩
  · intro a
    exact (same_eq_true_iff a.2 _).2 (.refl _)
  · intro a b hab
    rw [same_eq_true_iff a.2] at hab
    exact (same_eq_true_iff b.2 _).2 hab.symm
  · intro a b c hab hbc
    rw [same_eq_true_iff a.2] at hab ⊢
    rw [same_eq_true_iff b.2] at hbc
    exact hab.trans hbc
  · intro base target h _
    exact same_congr h (depthOf_withoutTexts base) (alike_withoutTexts base)
      (alike_withoutTexts target)
  · intro base base' target target' h _ hbase htarget
    exact same_congr h hbase.depthOf_eq.symm hbase.alike htarget.alike

/-- Siblings that change places at two levels, and texts that one side has only. -/
theorem same_equivalence_places :
    let guard := DepthGuard.ofLimit 1
    let base : List Node :=
      [.voidTag "br", .tag "b" [.text "!", .placeholder "n", .voidTag "i"], .tag "b" []]
    let moved : List Node :=
      [.tag "b" [.text "!", .voidTag "i", .placeholder "n"], .voidTag "br", .tag "b" []]
    let target : List Node :=
      [.tag "b" [.placeholder "n", .voidTag "i"], .text "?", .tag "b" [], .voidTag "br"]
    (guard.Admits base ∧ guard.Admits target ∧ Rearranged base moved ∧ Rearranged target target) ∧
      Answers (same guard base target) (Alike base target) ∧
      (same guard base target = .ok true → same guard target base = .ok true) ∧
      same guard (withoutTexts base) (withoutTexts target) = same guard base target ∧
      same guard moved target = same guard base target := by
  intro guard base moved target
  have hbase : guard.Admits base := by decide
  have htarget : guard.Admits target := by decide
  have hinside : Rearranged [.text "!", .placeholder "n", .voidTag "i"]
      [.text "!", .voidTag "i", .placeholder "n"] := .swap (by decide) [.text "!"] []
  have hmoved : Rearranged base moved :=
    .trans (.swap (by decide) [] [.tag "b" []]) (.inside [] _ hinside)
  have hself : Rearranged target target := .siblings (.refl target) fun _ => rfl
  obtain ⟨hanswers, hequivalence, htexts, hrearranged⟩ := same_equivalence guard
  refine ⟨⟨hbase, htarget, hmoved, hself⟩, hanswers base target hbase htarget, ?_,
    htexts base target hbase htarget, hrearranged _ _ _ _ hbase htarget hmoved hself⟩
  intro h
  exact @hequivalence.symm ⟨base, hbase⟩ ⟨target, htarget⟩ h

end Structure

end MessageMarkup
