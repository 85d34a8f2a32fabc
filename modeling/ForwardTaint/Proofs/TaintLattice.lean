import ForwardTaint.Proofs.TaintOrder
import Mathlib.Order.BoundedOrder.Basic
import Mathlib.Order.Lattice

/-!
Taint values as a lattice.  The values in canonical form are ordered with the clean one at the bottom,
two values have their join as least upper bound, and badness counts how far a value is above the
bottom: what is strictly higher is strictly worse, and nothing is worse than the greatest badness.
-/

namespace ForwardTaint

/-- A value in canonical form: if it is clean, it has no history. -/
@[ext] structure CanonicalValue where
  value : TaintValue
  canonical : value.IsCanonical

namespace CanonicalValue

instance : PartialOrder CanonicalValue where
  le first second := first.value.leq second.value = true
  le_refl value := TaintValue.leq_refl value.value
  le_trans _ _ _ := TaintValue.leq_trans
  le_antisymm first second left right :=
    CanonicalValue.ext (TaintValue.leq_antisymm first.canonical second.canonical left right)

instance : OrderBot CanonicalValue where
  bot := ⟨.clean, TaintValue.canonical_clean⟩
  bot_le _ := TaintValue.leq_of_clean TaintValue.isClean_clean

instance : SemilatticeSup CanonicalValue where
  sup first second :=
    ⟨first.value.join second.value, TaintValue.canonical_join second.canonical⟩
  le_sup_left first second := TaintValue.leq_join_left first.value second.value
  le_sup_right first second := TaintValue.leq_join_right first.value second.value
  sup_le _ _ _ := TaintValue.join_leq

end CanonicalValue

namespace TaintValue

variable {first second third : TaintValue}

/-- The order in which values are joined does not matter. -/
theorem join_comm (canonical : first.IsCanonical) (canonical' : second.IsCanonical) :
    first.join second = second.join first :=
  congrArg CanonicalValue.value
    (sup_comm (CanonicalValue.mk first canonical) (CanonicalValue.mk second canonical'))

/-- Nor does it matter how joins of several values are grouped. -/
theorem join_assoc (canonical : first.IsCanonical) (canonical' : second.IsCanonical)
    (canonical'' : third.IsCanonical) :
    (first.join second).join third = first.join (second.join third) :=
  congrArg CanonicalValue.value (sup_assoc (CanonicalValue.mk first canonical)
    (CanonicalValue.mk second canonical') (CanonicalValue.mk third canonical''))

theorem join_self (canonical : first.IsCanonical) : first.join first = first :=
  congrArg CanonicalValue.value (sup_idem (CanonicalValue.mk first canonical))

/-- The greatest badness is that of all faults together, without any check. -/
theorem maxBadness_eq {capacity : Nat} (fits : capacity + 8 < UInt32.size) :
    maxBadness capacity = 8 + capacity := by
  rw [maxBadness, badness_eq fits rfl]
  rfl

theorem badness_le_maxBadness {value : TaintValue} {capacity : Nat}
    (fits : capacity + 8 < UInt32.size) : value.badness capacity ≤ maxBadness capacity := by
  rw [maxBadness_eq fits]
  exact badness_le fits

/-- Values in canonical form are a lattice as far as propagation needs one.  Their order is partial
with the clean value at the bottom, and their join is canonical and the least upper bound, so that
it does not depend on the order, the grouping or the repetition of what is joined.  A value that
climbs strictly gains in badness, up to the greatest badness. -/
theorem canonical_isLattice :
    (∀ value : TaintValue, value.leq value = true) ∧
    (∀ first second third : TaintValue,
      first.leq second = true → second.leq third = true → first.leq third = true) ∧
    (∀ first second : TaintValue, first.IsCanonical → second.IsCanonical →
      first.leq second = true → second.leq first = true → first = second) ∧
    (clean.IsCanonical ∧ ∀ value : TaintValue, clean.leq value = true) ∧
    (∀ first second : TaintValue, first.IsCanonical → second.IsCanonical →
      (first.join second).IsCanonical ∧
      first.leq (first.join second) = true ∧ second.leq (first.join second) = true ∧
      ∀ bound : TaintValue, first.leq bound = true → second.leq bound = true →
        (first.join second).leq bound = true) ∧
    (∀ first second : TaintValue, first.IsCanonical → second.IsCanonical →
      first.join second = second.join first) ∧
    (∀ first second third : TaintValue,
      first.IsCanonical → second.IsCanonical → third.IsCanonical →
      (first.join second).join third = first.join (second.join third)) ∧
    (∀ value : TaintValue, value.IsCanonical → value.join value = value) ∧
    ∀ capacity, capacity + 8 < UInt32.size → ∀ first second : TaintValue,
      first.IsCanonical → second.IsCanonical →
      first.checks.size ≤ capacity → second.checks.size ≤ capacity →
      first.leq second = true → first ≠ second →
      first.badness capacity < second.badness capacity ∧
        second.badness capacity ≤ maxBadness capacity := by
  refine ⟨leq_refl, fun _ _ _ => leq_trans, fun _ _ => leq_antisymm,
    ⟨canonical_clean, fun _ => leq_of_clean isClean_clean⟩, ?_, fun _ _ => join_comm,
    fun _ _ _ => join_assoc, fun _ => join_self, ?_⟩
  · intro first second canonical canonical'
    exact ⟨canonical_join canonical', leq_join_left first second, leq_join_right first second,
      fun _ => join_leq⟩
  · intro capacity fits first second canonical canonical' held _ below different
    exact ⟨badness_lt fits held canonical canonical' below different, badness_le_maxBadness fits⟩

end TaintValue

namespace DecodedPath

/-- A path that is fully decoded and known to be without escapes. -/
def decoded : TaintValue :=
  ⟨.tainted, { Processing.fresh with decode := .canonical }, CheckSet.empty.insert .noEncoding⟩

/-- The decoded path stands below raw input, which has neither its decoding nor its check and is
strictly worse for it. -/
theorem decoded_below_raw :
    decoded.leq .tainted = true ∧ decoded.join .tainted = .tainted ∧
      decoded.badness 4 < TaintValue.tainted.badness 4 ∧
      TaintValue.tainted.badness 4 ≤ TaintValue.maxBadness 4 := by
  have canonical : decoded.IsCanonical := TaintValue.canonical_of_not_clean rfl
  have canonical' : TaintValue.tainted.IsCanonical := TaintValue.canonical_of_not_clean rfl
  obtain ⟨-, -, antisymm, -, join, -, -, -, climbs⟩ := TaintValue.canonical_isLattice
  have below : decoded.leq .tainted = true := by decide
  obtain ⟨joined, -, above, least⟩ := join decoded .tainted canonical canonical'
  refine ⟨below, ?_, ?_⟩
  · exact antisymm _ _ joined canonical' (least _ below (by decide)) above
  · exact climbs 4 (by decide) _ _ canonical canonical' (by decide) (by decide) below (by decide)

end DecodedPath

end ForwardTaint
