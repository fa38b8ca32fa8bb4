import Mathlib.Data.List.Basic
import MessageMarkup.Proofs.Forest
import MessageMarkup.Proofs.Outcome
import MessageMarkup.Validation.Structure

/-!
# What the comparison of structures shows

Each node takes a partner out of those that are left, so in the end two lists that agree have the
same markup, with the same multiplicities.

## Main statements

- `Structure.takeFirst?_eq_some` — the partner that is taken, and what is left
- `Structure.signatures_perm_of_same` — lists of the same structure have the same markup
-/

namespace MessageMarkup.Structure

open Node Outcome

/-- The partner that is taken has the signature asked for, and is the first one that has. -/
theorem takeFirst?_eq_some {signature : Kind × String} {ns others : List Node} {n : Node}
    (h : takeFirst? signature ns = some (n, others)) :
    n.signature? = some signature ∧ ∃ front back, ns = front ++ n :: back ∧ others = front ++ back ∧
      ∀ m ∈ front, m.signature? ≠ some signature := by
  induction ns generalizing others with
  | nil => cases h
  | cons m ns ih =>
    rw [takeFirst?] at h
    by_cases hm : m.signature? = some signature
    · rw [if_pos hm] at h
      cases h
      exact ⟨hm, [], ns, rfl, rfl, by simp⟩
    · rw [if_neg hm, Option.map_eq_some_iff] at h
      obtain ⟨⟨n', rest⟩, hfound, heq⟩ := h
      cases heq
      obtain ⟨hn, front, back, rfl, rfl, hfront⟩ := ih hfound
      exact ⟨hn, m :: front, back, rfl, rfl, List.forall_mem_cons.2 ⟨hm, hfront⟩⟩

/-- A node takes its partner out of those that are left, and leaves as many as it should. -/
theorem exists_partner_of_pairUp {guard : DepthGuard} {n : Node} {ns unmatched : List Node}
    {signature : Kind × String} (hn : n.signature? = some signature)
    (h : pairUp guard (n :: ns) unmatched = .ok true)
    (hlength : ((n :: ns).filter isMarkup).length = unmatched.length) :
    ∃ partner others, partner.signature? = some signature ∧
      sameInside guard n partner = .ok true ∧ pairUp guard ns others = .ok true ∧
      (ns.filter isMarkup).length = others.length ∧
      (signatures unmatched).Perm (partner.signaturesIn ++ signatures others) := by
  simp only [pairUp, hn] at h
  cases hfound : takeFirst? signature unmatched with
  | none => simp [hfound] at h
  | some found =>
    obtain ⟨partner, others⟩ := found
    simp only [hfound, bind_eq_ok] at h
    obtain ⟨same, hsame, h⟩ := h
    cases same with
    | false => cases h
    | true =>
      obtain ⟨hpartner, front, back, rfl, rfl, _⟩ := takeFirst?_eq_some hfound
      have hmarkup : n.isMarkup = true := by simp [isMarkup, hn]
      refine ⟨partner, front ++ back, hpartner, hsame, by simpa using h, ?_, ?_⟩
      · rw [List.filter_cons_of_pos hmarkup] at hlength
        simp only [List.length_cons, List.length_append] at hlength ⊢
        omega
      · simp only [signatures_append, signatures]
        exact List.perm_append_comm_assoc _ _ _

/-- Tags of the same structure inside enclose as much markup, which can be paired. -/
theorem sameInside_tag_eq_ok {guard : DepthGuard} {name other : String}
    {children others : List Node}
    (h : sameInside guard (.tag name children) (.tag other others) = .ok true) :
    ∃ inner, (children.filter isMarkup).length = (others.filter isMarkup).length ∧
      pairUp inner children (others.filter isMarkup) = .ok true := by
  rw [sameInside, bind_eq_ok] at h
  obtain ⟨inner, _, h⟩ := h
  by_cases hlength : (children.filter isMarkup).length = (others.filter isMarkup).length
  · rw [if_neg (not_not.2 hlength)] at h
    exact ⟨inner, hlength, h⟩
  · rw [if_pos hlength] at h
    cases h

/-- Text has no part in the markup of a list. -/
theorem signatures_filter_isMarkup (ns : List Node) :
    signatures (ns.filter isMarkup) = signatures ns := by
  induction ns with
  | nil => rfl
  | cons n ns ih =>
    cases n with
    | text value => exact ih
    | tag _ _ | voidTag _ | placeholder _ =>
      rw [List.filter_cons_of_pos rfl, signatures, signatures, ih]

theorem eq_tag_of_signature? {n : Node} {name : String} (h : n.signature? = some (.tag, name)) :
    ∃ children, n = .tag name children := by
  cases n with
  | tag name' children =>
    cases h
    exact ⟨children, rfl⟩
  | text _ | voidTag _ | placeholder _ => cases h

/-- Markup that encloses nothing is alone with its signature. -/
theorem signaturesIn_of_ne_tag {n : Node} {kind : Kind} {name : String}
    (h : n.signature? = some (kind, name)) (hkind : kind ≠ .tag) :
    n.signaturesIn = [(kind, name)] := by
  cases n with
  | voidTag _ | placeholder _ =>
    cases h
    rfl
  | tag _ _ =>
    cases h
    exact absurd rfl hkind
  | text _ => cases h

/-- If all nodes find a partner and none is left over, both sides have the same markup. -/
theorem signatures_perm_of_pairUp {ns unmatched : List Node} {guard : DepthGuard}
    (h : pairUp guard ns unmatched = .ok true)
    (hlength : (ns.filter isMarkup).length = unmatched.length) :
    (signatures ns).Perm (signatures unmatched) := by
  -- Each node and its partner leave lists of equal length, which is how none is left over.
  induction ns using forest_induction generalizing guard unmatched with
  | nil =>
    obtain rfl : unmatched = [] := by simpa using hlength.symm
    exact .refl _
  | text value ns ih => exact ih h hlength
  | tag name children ns ihChildren ih =>
    obtain ⟨partner, others, hpartner, hinside, hrest, hlength, hperm⟩ :=
      exists_partner_of_pairUp rfl h hlength
    obtain ⟨partners, rfl⟩ := eq_tag_of_signature? hpartner
    obtain ⟨inner, hlengthInside, hchildren⟩ := sameInside_tag_eq_ok hinside
    have hinner := ihChildren hchildren hlengthInside
    rw [signatures_filter_isMarkup] at hinner
    exact ((hinner.append (ih hrest hlength)).cons _).trans hperm.symm
  | voidTag name ns ih | placeholder name ns ih =>
    obtain ⟨partner, others, hpartner, _, hrest, hlength, hperm⟩ :=
      exists_partner_of_pairUp rfl h hlength
    rw [signaturesIn_of_ne_tag hpartner (by simp)] at hperm
    exact ((ih hrest hlength).cons _).trans hperm.symm

/-- Lists of the same structure have the same markup, with the same multiplicities. -/
theorem signatures_perm_of_same {guard : DepthGuard} {base target : List Node}
    (h : same guard base target = .ok true) : (signatures base).Perm (signatures target) := by
  unfold same at h
  split at h
  · cases h
  · next hlength =>
    have := signatures_perm_of_pairUp h (not_not.1 hlength)
    rwa [signatures_filter_isMarkup] at this

end MessageMarkup.Structure
