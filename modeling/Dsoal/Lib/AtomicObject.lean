import Mathlib.Logic.Function.Basic

/-!
# Atomic objects

Threads call the operations of an object, and their steps are interleaved.  What can be seen of
a run are the events: the calls and what they return.  In the *canonical* object of a sequential
specification every call takes effect in one step, at some time between the two events.  An
implementation is atomic if every sequence of events it has is one of the canonical object, which
is shown by a simulation (`Run.simulate`).

`Retry` is the implementation of operations on one cell that is read and then exchanged, again and
again until no other thread has changed it in between.  An operation may look at the value it has
read and give up.  An exchange may also fail for no reason.  `Retry.atomic` is its atomicity.
-/

universe u v w x y

namespace AtomicObject

/-! ## Runs and simulations -/

section Run

variable {σ : Type u} {τ : Type v} {ε : Type w} {step : σ → Option ε → σ → Prop}
  {step' : τ → Option ε → τ → Prop} {R : σ → τ → Prop} {s s' : σ} {t t' : τ} {es : List ε}
  {e : Option ε}

/-- A run, with the events that can be seen of it. -/
inductive Run (step : σ → Option ε → σ → Prop) (s : σ) : List ε → σ → Prop
  | nil : Run step s [] s
  | step {es : List ε} {e : Option ε} {s' s'' : σ} :
      Run step s es s' → step s' e s'' → Run step s (es ++ e.toList) s''

/-- What one system does in one step, the other does in at most one. -/
structure Simulates (step : σ → Option ε → σ → Prop) (step' : τ → Option ε → τ → Prop)
    (R : σ → τ → Prop) : Prop where
  step : ∀ {s e s' t}, R s t → step s e s' →
    (e = none ∧ R s' t) ∨ ∃ t', step' t e t' ∧ R s' t'

/-- **Simulation**: what can be seen of one system can be seen of the other. -/
theorem Run.simulate (h : Run step s es s') (hsim : Simulates step step' R) (hR : R s t) :
    ∃ t', Run step' t es t' ∧ R s' t' := by
  induction h with
  | nil => exact ⟨t, .nil, hR⟩
  | step _ hstep ih =>
      obtain ⟨t₁, hrun, hR₁⟩ := ih
      obtain ⟨rfl, hR₂⟩ | ⟨t₂, hs, hR₂⟩ := hsim.step hR₁ hstep
      · exact ⟨t₁, by simpa using hrun, hR₂⟩
      · exact ⟨t₂, hrun.step hs, hR₂⟩

/-- **The invariant rule**: a property of the events and the state. -/
theorem Run.invariant {P : List ε → σ → Prop} (h : Run step s es s') (hnil : P [] s)
    (hstep : ∀ es s₁ e s₂, P es s₁ → step s₁ e s₂ → P (es ++ e.toList) s₂) : P es s' := by
  induction h with
  | nil => exact hnil
  | step _ hs ih => exact hstep _ _ _ _ ih hs

end Run

/-! ## The canonical object -/

/-- What can be seen of a thread. -/
inductive Event (θ : Type u) (ω : Type v) (ρ : Type w) where
  | invoke (t : θ) (op : ω)
  | respond (t : θ) (r : ρ)
  deriving DecidableEq, Repr

/-- What the operations do, one at a time: the result, and the new value. -/
abbrev Spec (α : Type u) (ω : Type v) (ρ : Type w) := α → ω → ρ × α

/-- Where a thread is in a call of the canonical object. -/
inductive Call (ω : Type u) (ρ : Type v) where
  | idle
  | pending (op : ω)
  | done (r : ρ)

/-- The canonical object: its value, and the calls of the threads. -/
structure Canonical (α : Type u) (θ : Type v) (ω : Type w) (ρ : Type x) where
  value : α
  calls : θ → Call ω ρ

section Canonical

variable {α : Type u} {θ : Type v} {ω : Type w} {ρ : Type x} [DecidableEq θ]

/-- No thread is in a call. -/
def Canonical.new (a : α) : Canonical α θ ω ρ := ⟨a, fun _ ↦ .idle⟩

/-- A call takes effect in one step. -/
inductive Canonical.Step (spec : Spec α ω ρ) :
    Canonical α θ ω ρ → Option (Event θ ω ρ) → Canonical α θ ω ρ → Prop
  | invoke {c : Canonical α θ ω ρ} {t : θ} (op : ω) (h : c.calls t = .idle) :
      Step spec c (some (.invoke t op)) ⟨c.value, Function.update c.calls t (.pending op)⟩
  | perform {c : Canonical α θ ω ρ} {t : θ} {op : ω} (h : c.calls t = .pending op) :
      Step spec c none ⟨(spec c.value op).2,
        Function.update c.calls t (.done (spec c.value op).1)⟩
  | respond {c : Canonical α θ ω ρ} {t : θ} {r : ρ} (h : c.calls t = .done r) :
      Step spec c (some (.respond t r)) ⟨c.value, Function.update c.calls t .idle⟩

end Canonical

/-! ## Reading and exchanging -/

/-- The operations on a cell.  `next op a` is the value `op` puts in the place of `a`, or `none`
if it gives up, and `result op a` what it returns then.  Those that do not retry are one
operation of the cell. -/
structure Retry (α : Type u) (ω : Type v) (ρ : Type w) where
  next : ω → α → Option α
  result : ω → α → ρ
  retries : ω → Bool

namespace Retry

variable {α : Type u} {θ : Type v} {ω : Type w} {ρ : Type x} [DecidableEq θ]

/-- Where a thread is in a call. -/
inductive Pc (α : Type u) (ω : Type v) (ρ : Type w) where
  | idle
  | called (op : ω)
  /-- In the loop, where `a` is the value the cell had when it was read last. -/
  | seen (op : ω) (a : α)
  | finished (r : ρ)

/-- The cell, and where the threads are. -/
structure State (α : Type u) (θ : Type v) (ω : Type w) (ρ : Type x) where
  cell : α
  pc : θ → Pc α ω ρ

/-- No thread is in a call. -/
def State.new (a : α) : State α θ ω ρ := ⟨a, fun _ ↦ .idle⟩

/-- Set the cell and the position of a thread. -/
def State.goto (s : State α θ ω ρ) (a : α) (t : θ) (pc : Pc α ω ρ) : State α θ ω ρ :=
  ⟨a, Function.update s.pc t pc⟩

/-- One step of one thread. -/
inductive Step (I : Retry α ω ρ) :
    State α θ ω ρ → Option (Event θ ω ρ) → State α θ ω ρ → Prop
  | invoke {s : State α θ ω ρ} {t : θ} (op : ω) (h : s.pc t = .idle) :
      Step I s (some (.invoke t op)) (s.goto s.cell t (.called op))
  /-- An operation of one step. -/
  | direct {s : State α θ ω ρ} {t : θ} {op : ω} (h : s.pc t = .called op)
      (hdirect : I.retries op = false) :
      Step I s none (s.goto ((I.next op s.cell).getD s.cell) t (.finished (I.result op s.cell)))
  /-- The cell is read before the loop. -/
  | load {s : State α θ ω ρ} {t : θ} {op : ω} (h : s.pc t = .called op)
      (hretries : I.retries op = true) : Step I s none (s.goto s.cell t (.seen op s.cell))
  | giveUp {s : State α θ ω ρ} {t : θ} {op : ω} {a : α} (h : s.pc t = .seen op a)
      (hnext : I.next op a = none) :
      Step I s none (s.goto s.cell t (.finished (I.result op a)))
  /-- The exchange succeeds. -/
  | exchange {s : State α θ ω ρ} {t : θ} {op : ω} {b : α} (h : s.pc t = .seen op s.cell)
      (hnext : I.next op s.cell = some b) :
      Step I s none (s.goto b t (.finished (I.result op s.cell)))
  /-- The exchange fails, whether the cell has another value or not, and reads the cell. -/
  | again {s : State α θ ω ρ} {t : θ} {op : ω} {a b : α} (h : s.pc t = .seen op a)
      (hnext : I.next op a = some b) : Step I s none (s.goto s.cell t (.seen op s.cell))
  | respond {s : State α θ ω ρ} {t : θ} {r : ρ} (h : s.pc t = .finished r) :
      Step I s (some (.respond t r)) (s.goto s.cell t .idle)

variable (I : Retry α ω ρ)

/-- The operations one at a time. -/
def spec : Spec α ω ρ := fun a op ↦ (I.result op a, (I.next op a).getD a)

/-- The call of the canonical object at a position: giving up takes effect when the cell is
read. -/
def call : Pc α ω ρ → Call ω ρ
  | .idle => .idle
  | .called op => .pending op
  | .seen op a => if (I.next op a).isSome then .pending op else .done (I.result op a)
  | .finished r => .done r

/-- The canonical object that a state stands for. -/
def canonical (s : State α θ ω ρ) : Canonical α θ ω ρ := ⟨s.cell, fun t ↦ I.call (s.pc t)⟩

variable {I} {s s' : State α θ ω ρ} {t : θ} {op : ω} {a b : α} {pc : Pc α ω ρ}
  {es : List (Event θ ω ρ)}

theorem call_seen_some (h : I.next op a = some b) : I.call (.seen op a) = .pending op := by
  simp [call, h]

theorem call_seen_none (h : I.next op a = none) : I.call (.seen op a) = .done (I.result op a) := by
  simp [call, h]

theorem canonical_goto : I.canonical (s.goto a t pc) =
    ⟨a, Function.update (I.canonical s).calls t (I.call pc)⟩ := by
  refine congrArg (Canonical.mk a) (funext fun u ↦ ?_)
  by_cases hu : u = t
  · simp [State.goto, hu]
  · simp [State.goto, canonical, Function.update_of_ne hu]

/-- Going to a position with the same call is no step of the canonical object. -/
theorem canonical_goto_self (h : I.call (s.pc t) = I.call pc) :
    I.canonical (s.goto s.cell t pc) = I.canonical s := by
  rw [canonical_goto, ← h]
  exact congrArg (Canonical.mk _) (Function.update_eq_self _ _)

/-- A pending call takes effect. -/
theorem canonical_perform (h : I.call (s.pc t) = .pending op)
    (hpc : I.call pc = .done (I.result op s.cell)) :
    Canonical.Step I.spec (I.canonical s) none
      (I.canonical (s.goto ((I.next op s.cell).getD s.cell) t pc)) := by
  rw [canonical_goto, hpc]
  exact .perform (c := I.canonical s) h

/-- Reading the cell for a pending call: if it gives up on the value, it takes effect. -/
theorem canonical_read (h : I.call (s.pc t) = .pending op) :
    I.canonical (s.goto s.cell t (.seen op s.cell)) = I.canonical s ∨
      Canonical.Step I.spec (I.canonical s) none
        (I.canonical (s.goto s.cell t (.seen op s.cell))) := by
  cases hnext : I.next op s.cell with
  | some b => exact .inl (canonical_goto_self (h.trans (call_seen_some hnext).symm))
  | none =>
      have hstep := canonical_perform h (call_seen_none hnext)
      rw [hnext] at hstep
      exact .inr hstep

/-- **The canonical object follows** each step with at most one of its own. -/
theorem canonical_step {e : Option (Event θ ω ρ)} (h : I.Step s e s') :
    (e = none ∧ I.canonical s' = I.canonical s) ∨
      Canonical.Step I.spec (I.canonical s) e (I.canonical s') := by
  cases h with
  | @invoke t op h =>
      right
      rw [canonical_goto]
      exact .invoke op (congrArg I.call h)
  | direct h _ => exact .inr (canonical_perform (congrArg I.call h) rfl)
  | load h _ => exact (canonical_read (congrArg I.call h)).imp_left fun heq ↦ ⟨rfl, heq⟩
  | giveUp h hnext =>
      exact .inl ⟨rfl, canonical_goto_self ((congrArg I.call h).trans (call_seen_none hnext))⟩
  | @exchange t op b h hnext =>
      have hdone : I.call (.finished (I.result op s.cell)) = .done (I.result op s.cell) := rfl
      have hstep := canonical_perform ((congrArg I.call h).trans (call_seen_some hnext)) hdone
      rw [hnext] at hstep
      exact .inr hstep
  | again h hnext =>
      exact (canonical_read ((congrArg I.call h).trans (call_seen_some hnext))).imp_left
        fun heq ↦ ⟨rfl, heq⟩
  | respond h =>
      right
      rw [canonical_goto]
      exact .respond (congrArg I.call h)

/-- **Atomicity**: the events of a run are events of the canonical object, which ends with the
same value. -/
theorem atomic (h : Run I.Step (.new a) es s) :
    ∃ c, Run (Canonical.Step I.spec) (.new a) es c ∧ c.value = s.cell := by
  have hsim : Simulates I.Step (Canonical.Step I.spec)
      (fun (s : State α θ ω ρ) c ↦ c = I.canonical s) :=
    ⟨by
      rintro s e s' _ rfl hstep
      rcases canonical_step hstep with ⟨he, heq⟩ | hstep
      · exact .inl ⟨he, heq.symm⟩
      · exact .inr ⟨_, hstep, rfl⟩⟩
  obtain ⟨_, hrun, rfl⟩ := h.simulate hsim (t := .new a) rfl
  exact ⟨_, hrun, rfl⟩

end Retry

end AtomicObject
