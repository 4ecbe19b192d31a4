import Mathlib.Logic.Function.Basic

/-!
# Mutual exclusion

A lock with an owner, and individuals that are each somewhere in their own code:
`Guarded owner inside pc` says that those whose position is inside the critical
section are exactly the owner.  The lemmas are the three ways a step of one
individual can go about it: in, along or out.
-/

universe u v

namespace Mutex

variable {θ : Type u} {κ : Type v} [DecidableEq θ] {owner : Option θ} {inside : κ → Prop}
  {pc : θ → κ} {t t' : θ} {x : κ}

/-- Exactly the owner of the lock is inside the critical section. -/
def Guarded (owner : Option θ) (inside : κ → Prop) (pc : θ → κ) : Prop :=
  ∀ t, inside (pc t) ↔ owner = some t

omit [DecidableEq θ] in
/-- Nobody is inside while the lock is free. -/
theorem guarded_none (h : ∀ t, ¬ inside (pc t)) : Guarded none inside pc :=
  fun t ↦ iff_of_false (h t) nofun

namespace Guarded

omit [DecidableEq θ] in
/-- There is one individual in the critical section at most. -/
theorem unique (h : Guarded owner inside pc) (ht : inside (pc t)) (ht' : inside (pc t')) :
    t = t' := Option.some.inj (((h t).mp ht).symm.trans ((h t').mp ht'))

/-- Taking the free lock and going inside. -/
theorem acquire (h : Guarded none inside pc) (hx : inside x) :
    Guarded (some t) inside (Function.update pc t x) := by
  intro u
  by_cases hu : u = t
  · rw [hu, Function.update_self]
    exact iff_of_true hx rfl
  · rw [Function.update_of_ne hu, h u]
    exact iff_of_false nofun fun he ↦ hu (Option.some.inj he).symm

/-- Staying on the same side. -/
theorem keep (h : Guarded owner inside pc) (hx : inside x ↔ inside (pc t)) :
    Guarded owner inside (Function.update pc t x) := by
  intro u
  by_cases hu : u = t
  · rw [hu, Function.update_self, hx, h t]
  · rw [Function.update_of_ne hu, h u]

/-- Leaving and giving the lock back. -/
theorem release (h : Guarded owner inside pc) (ht : inside (pc t)) (hx : ¬ inside x) :
    Guarded none inside (Function.update pc t x) := by
  refine guarded_none fun u hu ↦ ?_
  by_cases hut : u = t
  · rw [hut, Function.update_self] at hu
    exact hx hu
  · rw [Function.update_of_ne hut] at hu
    exact hut (h.unique hu ht)

end Guarded

end Mutex
