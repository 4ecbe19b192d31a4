import Mathlib.Data.List.Induction
import Mathlib.Data.Set.Defs
import Dsoal.Lib.Transition

/-!
# Staged updates

A state that can be changed at once, by `now`, or in two phases: `stage` records a
change without any visible effect, and `commit` carries out what is recorded.  The
file reduces the equivalence of the two ways, for any sequence of changes, to
facts about one change.

Two states look alike when they are related by `R`.  The crucial condition is
`commit_stage`: committing right after a change has been staged looks like
committing first and making the change then.
-/

universe u v

namespace TransitionSystem

variable {σ : Type u} {ι : Type v}

/-- Changes to a state that can be staged, for the states that satisfy `I` and the
labels in `L`. -/
structure Staging (stage now : σ → ι → Option σ) (commit : σ → Option σ) (I : σ → Prop)
    (L : Set ι) (R : σ → σ → Prop) : Prop where
  refl : ∀ s, R s s
  trans : ∀ s t u, R s t → R t u → R s u
  /-- Staging succeeds and is invisible. -/
  stage_some : ∀ s, ∀ c ∈ L, I s → ∃ s', stage s c = some s' ∧ I s' ∧ R s' s
  now_some : ∀ s, ∀ c ∈ L, I s → ∃ s', now s c = some s' ∧ I s'
  commit_some : ∀ s, I s → ∃ s', commit s = some s' ∧ I s'
  /-- States that look alike still do after the same change. -/
  now_congr : ∀ s t, ∀ c ∈ L, I s → I t → R s t → ∀ s' t', now s c = some s' →
    now t c = some t' → R s' t'
  /-- Committing after staging a change looks like making it after committing. -/
  commit_stage : ∀ s, ∀ c ∈ L, I s → ∀ s₁ s₂ t₁ t₂, stage s c = some s₁ → commit s₁ = some s₂ →
    commit s = some t₁ → now t₁ c = some t₂ → R s₂ t₂

/-- The last step of a run of a partial function. -/
theorem runFun_concat {f : σ → ι → Option σ} {s s' s'' : σ} {is : List ι} {i : ι}
    (h : runFun f s is = some s') (h' : f s' i = some s'') : runFun f s (is ++ [i]) = some s'' := by
  simp only [runFun, List.foldlM_append, List.foldlM_cons, List.foldlM_nil] at *
  simp [h, h']

namespace Staging

variable {stage now : σ → ι → Option σ} {commit : σ → Option σ} {I : σ → Prop} {L : Set ι}
  {R : σ → σ → Prop}

/-- **Staging any sequence of changes and committing looks like making them at
once**, in a state in which there is nothing to commit; and until the commit
nothing can be seen of them. -/
theorem run (h : Staging stage now commit I L R) {s : σ} (hs : I s)
    (hclean : ∀ t, commit s = some t → R t s) {cs : List ι} (hcs : ∀ c ∈ cs, c ∈ L) :
    ∃ s₁ s₂ t, runFun stage s cs = some s₁ ∧ commit s₁ = some s₂ ∧ runFun now s cs = some t ∧
      I s₁ ∧ I s₂ ∧ I t ∧ R s₁ s ∧ R s₂ t := by
  induction cs using List.reverseRecOn with
  | nil =>
      obtain ⟨s₂, hc, hI⟩ := h.commit_some s hs
      exact ⟨s, s₂, s, rfl, hc, rfl, hs, hI, hs, h.refl s, hclean s₂ hc⟩
  | append_singleton cs c ih =>
      have hc : c ∈ L := hcs c (by simp)
      obtain ⟨s₁, s₂, t, hs₁, hs₂, ht, hI₁, hI₂, hIt, hR₁, hR₂⟩ :=
        ih fun d hd ↦ hcs d (List.mem_append_left _ hd)
      obtain ⟨s₁', hst, hI₁', hR₁'⟩ := h.stage_some s₁ c hc hI₁
      obtain ⟨s₂', hcom, hI₂'⟩ := h.commit_some s₁' hI₁'
      obtain ⟨t', hnow, hIt'⟩ := h.now_some t c hc hIt
      -- the change made at once after the shorter sequence has been committed
      obtain ⟨u, hu, -⟩ := h.now_some s₂ c hc hI₂
      have hsu : R s₂' u := h.commit_stage s₁ c hc hI₁ s₁' s₂' s₂ u hst hcom hs₂ hu
      have hut : R u t' := h.now_congr s₂ t c hc hI₂ hIt hR₂ u t' hu hnow
      exact ⟨s₁', s₂', t', runFun_concat hs₁ hst, hcom, runFun_concat ht hnow, hI₁', hI₂', hIt',
        h.trans _ _ _ hR₁' hR₁, h.trans _ _ _ hsu hut⟩

end Staging

end TransitionSystem
