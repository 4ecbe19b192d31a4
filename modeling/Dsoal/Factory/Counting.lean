import Dsoal.Core.Factory
import Dsoal.Lib.Tally

/-!
# Counting the references to a factory

The counter of a factory is atomic: what threads see of it, in whatever order their steps are
taken, they could see if every call took effect at once.  It is never greater than the number of
calls that have added a reference, although a client may release a factory more often than it
has references to it.
-/

namespace Dsoal.Factory

open AtomicObject AtomicObject.Retry

variable {θ : Type} [DecidableEq θ] {es es' : List (Event θ FactoryMethod FactoryValue)}
  {s s' : State UInt32 θ FactoryMethod FactoryValue} {t : θ} {a : UInt32}
  {pc : Pc UInt32 FactoryMethod FactoryValue} {m : FactoryMethod} {n n' : ℕ}

/-- A method that adds a reference. -/
def acquires : FactoryMethod → Bool
  | .queryInterface riid ppvObject => queryInterface riid ppvObject = .ok
  | .addRef => true
  | .release => false

/-- A call of such a method. -/
def isAcquisition : Event θ FactoryMethod FactoryValue → Bool
  | .invoke _ m => acquires m
  | .respond .. => false

/-- How many calls of such methods there have been. -/
def acquisitions (es : List (Event θ FactoryMethod FactoryValue)) : ℕ := es.countP isAcquisition

/-- A call that has yet to add its reference. -/
def announced : Pc UInt32 FactoryMethod FactoryValue → ℕ
  | .called m => if acquires m then 1 else 0
  | _ => 0

/-- The numbers a thread has seen are at most `n`. -/
def PcBounded (n : ℕ) : Pc UInt32 FactoryMethod FactoryValue → Prop
  | .seen m a => m = .release ∧ a.toNat ≤ n
  | .finished (.count ref) => ref.toNat ≤ n
  | _ => True

theorem PcBounded.mono (h : PcBounded n pc) (hle : n ≤ n') : PcBounded n' pc := by
  unfold PcBounded at *
  split at h
  · exact ⟨h.1, h.2.trans hle⟩
  · exact h.trans hle
  · trivial

/-- The counter, and the numbers that threads have seen or returned, are at most the number of
references that have been added before. -/
structure Bounded [Fintype θ] (es : List (Event θ FactoryMethod FactoryValue))
    (s : State UInt32 θ FactoryMethod FactoryValue) : Prop where
  cell : s.cell.toNat + ∑ t, announced (s.pc t) ≤ acquisitions es
  pc : ∀ t, PcBounded (acquisitions es) (s.pc t)
  returned : ∀ es₁ t ref es₂, es = es₁ ++ .respond t (.count ref) :: es₂ →
    ref.toNat ≤ acquisitions es₁

/-! ## One step -/

variable [Fintype θ]

omit [DecidableEq θ] in
theorem Bounded.cell_le (h : Bounded es s) : s.cell.toNat ≤ acquisitions es :=
  (Nat.le_add_right _ _).trans h.cell

/-- A thread moves on, and the counter changes by what it has announced. -/
theorem Bounded.goto (h : Bounded es s)
    (hcell : a.toNat + announced pc ≤ s.cell.toNat + announced (s.pc t))
    (hpc : PcBounded (acquisitions es) pc) : Bounded es (s.goto a t pc) where
  cell := by
    have hsum := Tally.sum_update_add (Finset.mem_univ t) s.pc pc announced
    have hle := h.cell
    simp only [State.goto]
    omega
  pc u := by
    by_cases hu : u = t
    · subst hu
      simpa [State.goto] using hpc
    · simpa [State.goto, Function.update_of_ne hu] using h.pc u
  returned := h.returned

omit [DecidableEq θ] in
/-- Something is seen of a thread. -/
theorem Bounded.see {e : Event θ FactoryMethod FactoryValue} (h : Bounded es s)
    (hcell : ∑ t, announced (s'.pc t) + (s'.cell.toNat - s.cell.toNat) ≤
      ∑ t, announced (s.pc t) + if isAcquisition e then 1 else 0)
    (hpc : ∀ u, PcBounded (acquisitions es) (s'.pc u))
    (hreturned : ∀ t ref, e = .respond t (.count ref) → ref.toNat ≤ acquisitions es) :
    Bounded (es ++ [e]) s' := by
  have hacq : acquisitions (es ++ [e]) = acquisitions es + if isAcquisition e then 1 else 0 := by
    simp [acquisitions, List.countP_append, List.countP_singleton]
  refine ⟨?_, fun u ↦ (hpc u).mono (by omega), fun es₁ t ref es₂ heq ↦ ?_⟩
  · have hle := h.cell
    omega
  · rcases List.eq_nil_or_concat es₂ with rfl | ⟨es₃, last, rfl⟩
    · obtain ⟨rfl, he⟩ := List.append_inj' heq rfl
      exact hreturned t ref (List.cons.inj he).1
    · rw [List.concat_eq_append, ← List.cons_append, ← List.append_assoc] at heq
      exact h.returned es₁ t ref es₃ (List.append_inj' heq rfl).1

/-- A method of one step changes the counter by what it has announced. -/
theorem next_direct (hdirect : counter.retries m = false) (ref : UInt32) :
    ((counter.next m ref).getD ref).toNat ≤ ref.toNat + announced (.called m) := by
  have hadd := Tally.toNat_add_one_le ref
  cases m with
  | queryInterface riid ppvObject =>
      by_cases hok : queryInterface riid ppvObject = .ok
      · simpa [counter, announced, acquires, hok] using hadd
      · simp [counter, announced, acquires, hok]
  | addRef => simpa [counter, announced, acquires] using hadd
  | release => cases hdirect

/-- And returns at most the new value. -/
theorem result_direct (hdirect : counter.retries m = false) (ref : UInt32)
    (hle : ref.toNat + announced (.called m) ≤ n) :
    PcBounded n (.finished (counter.result m ref)) := by
  have hadd := Tally.toNat_add_one_le ref
  cases m with
  | queryInterface riid ppvObject => trivial
  | addRef => exact hadd.trans hle
  | release => cases hdirect

/-- **Step lemma**. -/
theorem Bounded.step {e : Option (Event θ FactoryMethod FactoryValue)} (h : Bounded es s)
    (hstep : counter.Step s e s') : Bounded (es ++ e.toList) s' := by
  cases hstep with
  | @invoke t m hpc =>
      have hsum := Tally.sum_update_add (Finset.mem_univ t) s.pc (.called m) announced
      have hcall : announced (.called m) = if isAcquisition (.invoke t m) then 1 else 0 := rfl
      rw [hpc, hcall] at hsum
      refine h.see ?_ (fun u ↦ ?_) nofun
      · simp only [State.goto]
        omega
      · by_cases hu : u = t
        · simp [State.goto, hu, PcBounded]
        · simpa [State.goto, Function.update_of_ne hu] using h.pc u
  | @direct t m hpc hdirect =>
      have hsum := Finset.single_le_sum (f := fun t ↦ announced (s.pc t))
        (fun _ _ ↦ Nat.zero_le _) (Finset.mem_univ t)
      have hcell := h.cell
      simp only [hpc] at hsum
      rw [Option.toList_none, List.append_nil]
      refine h.goto ?_ (result_direct hdirect s.cell (by omega))
      rw [hpc]
      exact next_direct hdirect s.cell
  | @load t m hpc hretries =>
      rw [Option.toList_none, List.append_nil]
      cases m with
      | release => exact h.goto (Nat.add_le_add_left (Nat.zero_le _) _) ⟨rfl, h.cell_le⟩
      | _ => cases hretries
  | @giveUp t m a hpc hnext =>
      have hseen := h.pc t
      rw [hpc] at hseen
      obtain ⟨rfl, hle⟩ := hseen
      have hzero : a = 0 := by simpa [counter] using hnext
      rw [Option.toList_none, List.append_nil]
      refine h.goto (Nat.add_le_add_left (Nat.zero_le _) _) ?_
      simp [PcBounded, counter, hzero]
  | @exchange t m b hpc hnext =>
      have hseen := h.pc t
      rw [hpc] at hseen
      obtain ⟨rfl, hle⟩ := hseen
      obtain ⟨hne, rfl⟩ : s.cell ≠ 0 ∧ s.cell - 1 = b := by simpa [counter] using hnext
      have hsub := Tally.toNat_sub_one hne
      rw [Option.toList_none, List.append_nil]
      refine h.goto ?_ ?_
      · simp only [announced]
        omega
      · simp only [PcBounded, counter, hne, if_false]
        omega
  | @again t m a b hpc hnext =>
      have hseen := h.pc t
      rw [hpc] at hseen
      rw [Option.toList_none, List.append_nil]
      exact h.goto (Nat.add_le_add_left (Nat.zero_le _) _) ⟨hseen.1, h.cell_le⟩
  | @respond t r hpc =>
      have hsum := Tally.sum_update_add (Finset.mem_univ t) s.pc .idle announced
      have hseen := h.pc t
      rw [hpc] at hsum hseen
      refine h.see ?_ (fun u ↦ ?_) ?_
      · have hidle : announced .idle = 0 := rfl
        simp only [State.goto]
        omega
      · by_cases hu : u = t
        · simp [State.goto, hu, PcBounded]
        · simpa [State.goto, Function.update_of_ne hu] using h.pc u
      · rintro u ref heq
        obtain ⟨-, rfl⟩ := Event.respond.inj heq
        exact hseen

/-- **Run lemma**. -/
theorem bounded_of_run (h : Run counter.Step (.new 0) es s) : Bounded es s :=
  h.invariant
    ⟨by simp [State.new, announced, acquisitions], fun _ ↦ trivial, fun es₁ _ _ es₂ heq ↦ by
      simp at heq⟩
    fun _ _ _ _ h hstep ↦ h.step hstep

/-! ## The counter -/

/-- **A factory counts atomically**: the calls of any number of threads and what they return are
a history of a counter on which every call takes effect at once, and ends with the same count.
Neither the counter nor a count that is returned is ever greater than the number of calls that
add a reference and were made before. -/
theorem counts_atomically (h : Run counter.Step (.new 0) es s) :
    (∃ c, Run (Canonical.Step counter.spec) (.new 0) es c ∧ c.value = s.cell) ∧
      s.cell.toNat ≤ acquisitions es ∧
      ∀ es₁ t ref es₂, es = es₁ ++ .respond t (.count ref) :: es₂ →
        ref.toNat ≤ acquisitions es₁ :=
  ⟨atomic h, (bounded_of_run h).cell_le, (bounded_of_run h).returned⟩

/-- Two threads release the one reference of a third: both read it, the second does not find it
any more, and returns that there is none. -/
theorem counts_atomically_race : ∃ s : State UInt32 (Fin 3) FactoryMethod FactoryValue,
    ∃ es, Run counter.Step (.new 0) es s ∧
    es.getLast? = some (.respond 2 (.count 0)) ∧ s.cell = 0 ∧
    ((∃ c, Run (Canonical.Step counter.spec) (.new 0) es c ∧ c.value = s.cell) ∧
      s.cell.toNat ≤ acquisitions es ∧
      ∀ es₁ t ref es₂, es = es₁ ++ .respond t (.count ref) :: es₂ →
        ref.toNat ≤ acquisitions es₁) := by
  have h : Run counter.Step (State.new 0 : State UInt32 (Fin 3) FactoryMethod FactoryValue) [] _ :=
    .nil
  have h := (h.step (.invoke .addRef (t := 0) rfl)).step (.direct (t := 0) rfl rfl)
  have h := (h.step (.invoke .release (t := 1) rfl)).step (.load (t := 1) rfl rfl)
  have h := (h.step (.invoke .release (t := 2) rfl)).step (.load (t := 2) rfl rfl)
  have h := (h.step (.exchange (t := 1) rfl rfl)).step (.again (t := 2) rfl rfl)
  have h := (h.step (.giveUp (t := 2) rfl rfl)).step (.respond (t := 2) rfl)
  exact ⟨_, _, h, rfl, rfl, counts_atomically h⟩

end Dsoal.Factory
