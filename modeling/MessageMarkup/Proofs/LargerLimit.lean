import MessageMarkup.Proofs.Blame
import MessageMarkup.Proofs.NestingLimit
import MessageMarkup.Proofs.Writing

/-!
# Larger nesting limits

A larger limit takes nothing back. What a smaller one lets through it lets through unchanged, and a
message that cannot be read for another reason than its depth still cannot, and for that reason.

## Main definitions

- `Nesting.TooDeep` — an outcome is a failure for tags that nest too deep

## Main statements

- `Token.Leaves.of_le`, `Token.Offends.of_le`, `Token.Blames.of_le` — under a larger limit as many
  tokens can be read, and the same one is to blame unless it opens a tag too many
- `larger_limit_keeps_outcome` — reading and printing under a smaller and under a larger limit
-/

namespace MessageMarkup

namespace Nesting

/-- The outcome is a failure for tags that nest deeper than a limit allows. -/
def TooDeep {α : Type} (outcome : Except Failure α) : Prop :=
  ∃ limit, outcome = .error (.nestingTooDeep limit)

theorem clamp_le_clamp {limit limit' : Int} (h : limit ≤ limit') : clamp limit ≤ clamp limit' := by
  rw [clamp_eq_min, clamp_eq_min]
  omega

end Nesting

open Nesting

variable {limit limit' : Int}

namespace Token

/-- Tokens that can be read under a limit can be read under a larger one, and leave the same tags
    open. -/
theorem Leaves.of_le {ts : List Token} {labels : List (List Char)} (h : Leaves limit ts labels)
    (hle : limit ≤ limit') : Leaves limit' ts labels := by
  obtain ⟨hopen, hmost⟩ := h
  exact ⟨hopen, by omega⟩

/-- A token that offends otherwise than by opening a tag too many offends under every limit. -/
theorem Offends.of_le {source : String} {position : Nat} {labels : List (List Char)} {t : Token}
    {failure : Failure} (h : Offends limit source position labels t failure)
    (hfailure : ∀ l, failure ≠ .nestingTooDeep l) :
    Offends limit' source position labels t failure := by
  cases h with
  | tooDeep _ => exact absurd rfl (hfailure limit)
  | unopened => exact .unopened
  | attributes hne hspace => exact .attributes hne hspace
  | mismatch hne hspace => exact .mismatch hne hspace

/-- What is to blame under a limit is so under a larger one, unless tags nest too deep. -/
theorem Blames.of_le {source : String} {failure : Failure} (h : Blames limit source failure)
    (hle : limit ≤ limit') (hfailure : ∀ l, failure ≠ .nestingTooDeep l) :
    Blames limit' source failure := by
  cases h with
  | token hlex hleaves hoffends =>
    exact .token hlex (hleaves.of_le hle) (hoffends.of_le hfailure)
  | leftOpen hleaves hopen => exact .leftOpen (hleaves.of_le hle) hopen

end Token

/-- A message that does not nest too deep for a limit is read in the same way under a larger one. -/
theorem parse_of_le (hle : limit ≤ limit') {source : String} (h : ¬ TooDeep (parse limit source)) :
    parse limit' source = parse limit source := by
  have hclamp := clamp_le_clamp hle
  cases hparse : parse limit source with
  | ok nodes =>
    obtain ⟨hspells, hdepth⟩ := parse_eq_ok_iff.1 hparse
    exact parse_eq_ok_iff.2 ⟨hspells, by omega⟩
  | error failure =>
    have hfailure : ∀ l, failure ≠ .nestingTooDeep l := by
      rintro l rfl
      exact h ⟨l, hparse⟩
    exact blames_iff.1 ((blames_iff.2 hparse).of_le hclamp hfailure)

/-- Nodes that do not nest too deep for a limit are written in the same way under a larger one. -/
theorem print_of_le (hle : limit ≤ limit') {nodes : List Node} (h : ¬ TooDeep (print limit nodes)) :
    print limit' nodes = print limit nodes := by
  have hclamp := clamp_le_clamp hle
  have hdepth : (Node.depthOf nodes : Int) ≤ max 0 (clamp limit) := by
    by_contra hdeep
    have hends : DepthGuard.EndsBeyond limit nodes (print limit nodes) :=
      Printer.descends.endsBeyond (fun _ _ => rfl) limit
    exact h ⟨_, (hends _).2 ⟨Int.not_le.1 hdeep, rfl⟩⟩
  rw [print_eq_ok hdepth, print_eq_ok (by omega)]

/-- Where a smaller limit does not end the reading of a message or the writing of nodes, a larger one
    changes nothing: neither what is read or written nor why it cannot be. So what nests too deep for
    the larger limit nests too deep for the smaller one. -/
theorem larger_limit_keeps_outcome (hle : limit ≤ limit') :
    (∀ source,
        (¬ TooDeep (parse limit source) → parse limit' source = parse limit source) ∧
          (TooDeep (parse limit' source) → TooDeep (parse limit source))) ∧
      ∀ nodes,
        (¬ TooDeep (print limit nodes) → print limit' nodes = print limit nodes) ∧
          (TooDeep (print limit' nodes) → TooDeep (print limit nodes)) := by
  refine ⟨fun source => ⟨parse_of_le hle, fun hdeep => ?_⟩,
    fun nodes => ⟨print_of_le hle, fun hdeep => ?_⟩⟩
  · by_contra h
    exact h (parse_of_le hle h ▸ hdeep)
  · by_contra h
    exact h (print_of_le hle h ▸ hdeep)

/-- A close tag without its open tag is the failure under every limit, also under one that admits no
    tag at all, although a tag is opened behind it. -/
theorem larger_limit_keeps_outcome_unopened :
    (-1 : Int) ≤ 1000 ∧ ¬ TooDeep (parse (-1) "x</b><b>") ∧
      parse 1000 "x</b><b>" = .error (.unbalancedTags "x</b><b>" (some 1)) := by
  have hparse : parse (-1) "x</b><b>" = .error (.unbalancedTags "x</b><b>" (some 1)) := by
    decide +kernel
  have hdeep : ¬ TooDeep (parse (-1) "x</b><b>") := by
    rintro ⟨l, h⟩
    simp [hparse] at h
  exact ⟨by decide, hdeep,
    (((larger_limit_keeps_outcome (by decide)).1 "x</b><b>").1 hdeep).trans hparse⟩

end MessageMarkup
