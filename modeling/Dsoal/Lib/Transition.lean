import Mathlib.Logic.Relation

/-!
# Labelled transition systems

A system is a relation `step : σ → ι → σ → Prop`: `step s i s'` says that the
label `i` can take the state `s` to the state `s'`.  This file has the notions
every other development of the project phrases its results with.

* `Reachable step init s` is membership in the states some run from an initial
  state ends in;
* `guarded C step` restricts a system to the steps whose label meets the
  condition `C` in the state they are taken from.  Reachability in a guarded
  system is the phrase "in every run whose steps all meet `C`";
* `functional f` is the system whose step is the partial function `f`, and
  `runFun f s is` performs the labels of a list in it.  A concrete run is a list
  of labels (`Reachable.exists_of_runFun`).

An invariant is packaged once, in `Reachable.invariant`: a property that holds
initially and that every step preserves holds of every reachable state.
`Reachable.invariant_of` is the same rule relative to an invariant that is
already known.
-/

universe u v

namespace TransitionSystem

variable {σ : Type u} {ι : Type v}

/-- The states that runs from an initial state end in. -/
inductive Reachable (step : σ → ι → σ → Prop) (init : σ → Prop) : σ → Prop
  /-- Initial states are reachable. -/
  | init {s : σ} : init s → Reachable step init s
  /-- A step from a reachable state is reachable. -/
  | step {s s' : σ} {i : ι} : Reachable step init s → step s i s' → Reachable step init s'

/-- The steps of a system whose label meets `C` in the state it is taken from. -/
def guarded (C : σ → ι → Prop) (step : σ → ι → σ → Prop) (s : σ) (i : ι) (s' : σ) : Prop :=
  C s i ∧ step s i s'

/-- The system whose step is a partial function. -/
def functional (f : σ → ι → Option σ) (s : σ) (i : ι) (s' : σ) : Prop := f s i = some s'

/-- Take a label only where it meets `C`. -/
def restrict (C : σ → ι → Prop) [∀ s i, Decidable (C s i)] (f : σ → ι → Option σ) (s : σ) (i : ι) :
    Option σ := if C s i then f s i else none

/-- Run the labels of a list in order. -/
def runFun (f : σ → ι → Option σ) (s : σ) (is : List ι) : Option σ := is.foldlM f s

variable {step : σ → ι → σ → Prop} {init : σ → Prop} {C : σ → ι → Prop}

/-! ## Reachability and invariants -/

namespace Reachable

/-- **The invariant rule.**  A property of the initial states that every step
preserves holds of every reachable state. -/
theorem invariant {P : σ → Prop} (hinit : ∀ s, init s → P s)
    (hstep : ∀ s i s', P s → step s i s' → P s') {s : σ} (h : Reachable step init s) : P s := by
  induction h with
  | init hs => exact hinit _ hs
  | step _ hs ih => exact hstep _ _ _ ih hs

/-- The invariant rule relative to a property `Q` known of all reachable
states. -/
theorem invariant_of {P Q : σ → Prop} (hQ : ∀ s, Reachable step init s → Q s)
    (hinit : ∀ s, init s → P s) (hstep : ∀ s i s', Q s → P s → step s i s' → P s') {s : σ}
    (h : Reachable step init s) : P s := by
  induction h with
  | init hs => exact hinit _ hs
  | step hr hs ih => exact hstep _ _ _ (hQ _ hr) ih hs

/-- More steps reach more states. -/
theorem mono {step' : σ → ι → σ → Prop} (hle : ∀ s i s', step s i s' → step' s i s') {s : σ}
    (h : Reachable step init s) : Reachable step' init s := by
  induction h with
  | init hs => exact .init hs
  | step _ hs ih => exact .step ih (hle _ _ _ hs)

/-- What a guarded system reaches, the system reaches. -/
theorem of_guarded {s : σ} (h : Reachable (guarded C step) init s) : Reachable step init s :=
  h.mono fun _ _ _ hs ↦ hs.2

/-! ## Concrete runs -/

/-- The step of a partial function where it is defined. -/
theorem step_get {f : σ → ι → Option σ} {s : σ} (h : Reachable (functional f) init s) (i : ι)
    (hi : (f s i).isSome) : Reachable (functional f) init ((f s i).get hi) :=
  h.step (Option.some_get hi).symm

/-- What the labels of a list lead to is reachable. -/
theorem runFun {f : σ → ι → Option σ} (hf : ∀ s i s', f s i = some s' → step s i s') {s s' : σ}
    {is : List ι} (h : Reachable step init s) (hr : TransitionSystem.runFun f s is = some s') :
    Reachable step init s' := by
  induction is generalizing s with
  | nil =>
      cases hr
      exact h
  | cons i is ih =>
      obtain ⟨s₁, hs₁, hr⟩ := Option.bind_eq_some_iff.mp hr
      exact ih (h.step (hf _ _ _ hs₁)) hr

/-- A run of a functional system whose last state has a decidable property. -/
theorem exists_of_runFun {p : σ → Prop} [DecidablePred p] {f : σ → ι → Option σ} {s : σ}
    (hs : init s) (is : List ι)
    (h : (TransitionSystem.runFun f s is).any (fun s' ↦ decide (p s')) = true) :
    ∃ s', Reachable (functional f) init s' ∧ p s' := by
  obtain ⟨s', hr, hp⟩ := (Option.any_eq_true _ _).mp h
  exact ⟨s', (Reachable.init hs).runFun (fun _ _ _ h ↦ h) hr, of_decide_eq_true hp⟩

/-- A run of a functional system that takes each label where it meets `C`. -/
theorem exists_of_runFun_restrict {p : σ → Prop} [DecidablePred p] [∀ s i, Decidable (C s i)]
    {f : σ → ι → Option σ} {s : σ} (hs : init s) (is : List ι)
    (h : (TransitionSystem.runFun (restrict C f) s is).any (fun s' ↦ decide (p s')) = true) :
    ∃ s', Reachable (guarded C (functional f)) init s' ∧ p s' := by
  obtain ⟨s', hr, hp⟩ := (Option.any_eq_true _ _).mp h
  refine ⟨s', (Reachable.init hs).runFun (fun t i t' ht ↦ ?_) hr, of_decide_eq_true hp⟩
  obtain ⟨hC, ht⟩ := Option.ite_none_right_eq_some.mp ht
  exact ⟨hC, ht⟩

end Reachable

end TransitionSystem
