import Dsoal.Lib.Transition

/-!
# Histories

A run with the list of its labels.  A state that follows its history is a fold over it
(`Run.follows`).  A part of it that only some labels change is a fold over these
(`foldl_filterMap`); and if they replace it, it is what was written last (`foldl_eq_getLastD`).
-/

universe u v w

namespace TransitionSystem

variable {σ : Type u} {ι : Type v} {τ : Type w} {step : σ → ι → σ → Prop} {init : σ → Prop}
  {s s' s'' : σ} {i : ι} {is : List ι}

/-- `is` are the labels of a run from `s` to `s'`. -/
inductive Run (step : σ → ι → σ → Prop) : σ → List ι → σ → Prop
  | nil (s : σ) : Run step s [] s
  | cons {s s' s'' : σ} {i : ι} {is : List ι} : step s i s' → Run step s' is s'' →
    Run step s (i :: is) s''

namespace Run

/-- **A state that follows the labels of a run.**  The invariant `R` says what the state is of;
the labels of the run are those in `C`. -/
theorem follows {R : σ → τ → Prop} {C : ι → Prop} {upd : τ → ι → τ} (h : Run step s is s')
    (hstep : ∀ s i s' x, R s x → C i → step s i s' → R s' (upd x i)) (hC : ∀ i ∈ is, C i) {x : τ}
    (hx : R s x) : R s' (is.foldl upd x) := by
  induction h generalizing x with
  | nil => exact hx
  | cons hs _ ih =>
      exact ih (fun j hj ↦ hC j (List.mem_cons_of_mem _ hj))
        (hstep _ _ _ _ hx (hC _ List.mem_cons_self) hs)

end Run

variable {α κ : Type w} {upd : σ → ι → σ} {P : σ → Prop} {C : ι → Prop}

/-- **A part of a state** that the labels change as `g` says, and keep if it says nothing. -/
theorem foldl_filterMap {g : ι → Option κ} (proj : σ → α) (change : α → κ → α)
    (hP : ∀ s i, C i → P s → P (upd s i))
    (hproj : ∀ s i, C i → P s → proj (upd s i) = (g i).elim (proj s) (change (proj s)))
    (hC : ∀ i ∈ is, C i) (hs : P s) :
    proj (is.foldl upd s) = (is.filterMap g).foldl change (proj s) := by
  induction is generalizing s with
  | nil => rfl
  | cons i is ih =>
      have hi := hC i List.mem_cons_self
      rw [List.foldl_cons, ih (fun j hj ↦ hC j (List.mem_cons_of_mem _ hj)) (hP s i hi hs),
        hproj s i hi hs, List.filterMap_cons]
      cases g i <;> rfl

/-- **Last write.**  A part of a state that each label writes, or keeps, is what was written
last. -/
theorem foldl_eq_getLastD {proj : σ → α} {writes : ι → Option α} (hP : ∀ s i, P s → P (upd s i))
    (hproj : ∀ s i, P s → proj (upd s i) = (writes i).getD (proj s)) (hs : P s) :
    proj (is.foldl upd s) = (is.filterMap writes).getLastD (proj s) := by
  have hlast : ∀ (as : List α) (a : α), as.foldl (fun _ b ↦ b) a = as.getLastD a := by
    intro as
    induction as with
    | nil => exact fun _ ↦ rfl
    | cons b bs ih => exact fun _ ↦ (ih b).trans (List.getLastD_cons ..).symm
  rw [← hlast]
  refine foldl_filterMap (C := fun _ ↦ True) proj (fun _ b ↦ b) (fun s i _ h ↦ hP s i h)
    (fun s i _ h ↦ ?_) (fun _ _ ↦ trivial) hs
  rw [hproj s i h]
  cases writes i <;> rfl

end TransitionSystem
