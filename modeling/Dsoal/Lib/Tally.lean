import Mathlib.Algebra.BigOperators.Group.Finset.Basic
import Mathlib.Algebra.BigOperators.Group.Finset.Piecewise
import Mathlib.Algebra.Order.BigOperators.Group.Finset
import Mathlib.Data.Fintype.BigOperators

/-!
# Tallies

A counter that is supposed to be the number of individuals in some condition is
a sum over the individuals of a weight their state has.  A step changes the state
of one individual; the lemmas here say by how much the sum moves.  They are
stated without subtraction, so that `omega` can use them.
-/

universe u v

namespace Tally

variable {θ : Type u} {κ : Type v} [DecidableEq θ]

/-- Changing the state of one individual replaces its weight in the sum. -/
theorem sum_update_add {S : Finset θ} {t : θ} (ht : t ∈ S) (g : θ → κ) (x : κ) (f : κ → ℕ) :
    ∑ u ∈ S, f (Function.update g t x u) + f (g t) = ∑ u ∈ S, f (g u) + f x := by
  rw [← Finset.add_sum_erase S _ ht, ← Finset.add_sum_erase S (fun u ↦ f (g u)) ht,
    Function.update_self]
  have hrest : ∑ u ∈ S.erase t, f (Function.update g t x u) = ∑ u ∈ S.erase t, f (g u) := by
    refine Finset.sum_congr rfl fun u hu ↦ ?_
    rw [Function.update_of_ne (Finset.ne_of_mem_erase hu)]
  rw [hrest]
  omega

/-! ## Counters of a machine word -/

variable {n : UInt32}

theorem toNat_add_one_le (n : UInt32) : (n + 1).toNat ≤ n.toNat + 1 := by
  rw [UInt32.toNat_add]
  exact Nat.mod_le _ _

/-- Counting up, other than from the greatest number. -/
theorem toNat_add_one (h : n + 1 ≠ 0) : (n + 1).toNat = n.toNat + 1 := by
  rw [UInt32.toNat_add]
  refine Nat.mod_eq_of_lt (Nat.lt_of_le_of_ne n.toNat_lt fun heq ↦ h ?_)
  rw [← UInt32.toNat_inj, UInt32.toNat_add]
  exact (congrArg (· % 2 ^ 32) heq).trans (Nat.mod_self _)

theorem toNat_add_one_of_lt (h : n.toNat + 1 < 2 ^ 32) : (n + 1).toNat = n.toNat + 1 := by
  rw [UInt32.toNat_add]
  exact Nat.mod_eq_of_lt h

theorem sub_one_ne_zero (h : n ≠ 1) : n - 1 ≠ 0 := fun h0 ↦ h (by
  rw [← UInt32.sub_add_cancel n 1, h0]
  rfl)

/-- Counting down, other than from zero. -/
theorem toNat_sub_one (h : n ≠ 0) : (n - 1).toNat + 1 = n.toNat := by
  have hpos : 0 < n.toNat := Nat.pos_of_ne_zero fun h0 ↦ h (UInt32.toNat_inj.mp h0)
  have hle : (1 : UInt32) ≤ n := UInt32.le_iff_toNat_le.mpr hpos
  rw [UInt32.toNat_sub_of_le _ _ hle]
  exact Nat.sub_add_cancel hpos

end Tally
