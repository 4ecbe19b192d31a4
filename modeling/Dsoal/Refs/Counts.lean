import Dsoal.Core.ComObject
import Dsoal.Lib.Transition

/-!
# Reference counts across interleavings

For every interleaving of the atomic operations the counters follow the ledger of
the threads: `mTotalRef` is the number of references held plus the number of calls
in flight, and every interface counter the number of references held on it, both
modulo the width of a `ULONG` (`RefStep.counted`).  While fewer than `2 ^ 32`
references and calls are outstanding the counters are exact, and the rest follows.
-/

universe u

namespace Dsoal

open RefLedger TransitionSystem

variable {θ : Type u} [DecidableEq θ] [Fintype θ] {o : MultiObject} {s s' : RefState θ}
  {op : RefOp θ}

/-! ## The counters follow the ledger -/

/-- The counters are those of the ledger, modulo their width. -/
structure RefState.Counted (s : RefState θ) : Prop where
  total : s.mTotalRef = UInt32.ofNat s.threads.outstanding
  each : ∀ i, s.mRef i = UInt32.ofNat (s.threads.on i)

/-- `fetch_add(1)` on a counter that follows a number. -/
theorem ofNat_succ (n : ℕ) : UInt32.ofNat n + 1 = UInt32.ofNat (n + 1) :=
  (UInt32.ofNat_add n 1).symm

/-- `fetch_sub(1)` on a counter that follows a positive number. -/
theorem ofNat_pred (n : ℕ) : UInt32.ofNat (n + 1) - 1 = UInt32.ofNat n := by
  rw [← ofNat_succ, UInt32.add_sub_cancel]

theorem RefState.counted_created (t : θ) : (RefState.created o t).Counted := by
  refine ⟨?_, fun i ↦ ?_⟩
  · rw [created, Ledger.outstanding_single]
    rfl
  · simp only [created, Ledger.on_single]
    by_cases hi : i = o.primary
    · rw [hi, Function.update_self, Function.update_self]
      rfl
    · rw [Function.update_of_ne hi, Function.update_of_ne hi]
      rfl

/-- **Step lemma**: every atomic operation keeps the counters on the ledger. -/
theorem RefStep.counted (h : s.Counted) (hs : RefStep o s op s') : s'.Counted := by
  cases hs with
  | addRef idle _ | queryInterface idle _ _ =>
      refine ⟨?_, h.each⟩
      simp only [RefState.addTotal]
      rw [Ledger.outstanding_beginAcquire idle, h.total, ofNat_succ]
  | @addRefDone t i hp =>
      refine ⟨?_, fun j ↦ ?_⟩
      · simp only [RefState.addRef]
        rw [Ledger.outstanding_endAcquire hp, h.total]
      · simp only [RefState.addRef, Ledger.on_endAcquire]
        by_cases hj : j = i
        · rw [hj, Function.update_self, Function.update_self, h.each, ofNat_succ]
        · rw [Function.update_of_ne hj, Function.update_of_ne hj, h.each]
  | @release t i idle holds =>
      refine ⟨?_, fun j ↦ ?_⟩
      · simp only [RefState.release]
        rw [Ledger.outstanding_beginRelease idle holds, h.total]
      · simp only [RefState.release, Ledger.on_beginRelease holds]
        by_cases hj : j = i
        · obtain ⟨n, hn⟩ : ∃ n, s.threads.on i = n + 1 :=
            Nat.exists_eq_add_one.mpr (holds.trans_le (Ledger.held_le_on _ t i))
          rw [hj, Function.update_self, Function.update_self, h.each, hn, ofNat_pred]
          rfl
        · rw [Function.update_of_ne hj, Function.update_of_ne hj, h.each]
  | releaseDone hp =>
      refine ⟨?_, h.each⟩
      simp only [RefState.finalize]
      rw [h.total, ← Ledger.outstanding_endRelease hp, ofNat_pred]
  | pass idle holds =>
      refine ⟨?_, fun j ↦ ?_⟩
      · rw [h.total, Ledger.outstanding_pass holds]
      · rw [h.each, Ledger.on_pass holds]

/-! ## The counters while they do not overflow -/

/-- A new reference is only taken while there is room for it in a `ULONG`. -/
def RefOp.Fits (s : RefState θ) : RefOp θ → Prop
  | addRef .. | queryInterface .. => s.threads.outstanding + 1 < 2 ^ 32
  | _ => True

instance (s : RefState θ) : (op : RefOp θ) → Decidable (op.Fits s)
  | .addRef .. | .queryInterface .. => inferInstanceAs (Decidable (_ < _))
  | .addRefDone _ | .release .. | .releaseDone _ | .pass .. => inferInstanceAs (Decidable True)

/-- The counters are on the ledger and within range, and the object has been
disposed of if nothing is outstanding. -/
structure RefState.Exact (s : RefState θ) : Prop extends s.Counted where
  inRange : s.threads.outstanding < 2 ^ 32
  disposed : s.disposed = if s.threads.outstanding = 0 then 1 else 0

namespace RefState.Exact

omit [DecidableEq θ]

variable (h : s.Exact)

include h

theorem toNat_mTotalRef : s.mTotalRef.toNat = s.threads.outstanding := by
  rw [h.total, UInt32.toNat_ofNat_of_lt' h.inRange]

theorem on_lt (i : RefCounter) : s.threads.on i < 2 ^ 32 :=
  calc s.threads.on i ≤ ∑ j, s.threads.on j :=
        Finset.single_le_sum (fun _ _ ↦ Nat.zero_le _) (Finset.mem_univ i)
    _ ≤ s.threads.outstanding := Ledger.sum_on_le_outstanding
    _ < 2 ^ 32 := h.inRange

theorem toNat_mRef (i : RefCounter) : (s.mRef i).toNat = s.threads.on i := by
  rw [h.each i, UInt32.toNat_ofNat_of_lt' (h.on_lt i)]

theorem mTotalRef_eq_one_iff : s.mTotalRef = 1 ↔ s.threads.outstanding = 1 := by
  rw [← h.toNat_mTotalRef, ← UInt32.toNat_inj]
  rfl

end RefState.Exact

theorem RefState.exact_created (t : θ) : (RefState.created o t).Exact where
  toCounted := counted_created t
  inRange := by rw [created, Ledger.outstanding_single]; decide
  disposed := by rw [created, Ledger.outstanding_single]; rfl

/-- Only an object with something outstanding is called. -/
theorem RefStep.outstanding_pos (hs : RefStep o s op s') : 0 < s.threads.outstanding := by
  have hheld : ∀ {t i}, 0 < s.threads.held t i → 0 < s.threads.outstanding := by
    intro t i hpos
    by_contra hzero
    have := (Ledger.outstanding_eq_zero_iff.mp (Nat.eq_zero_of_not_pos hzero) t).2 i
    omega
  have hbusy : ∀ {t}, s.threads.phase t ≠ .idle → 0 < s.threads.outstanding := by
    intro t hp
    by_contra hzero
    exact hp (Ledger.outstanding_eq_zero_iff.mp (Nat.eq_zero_of_not_pos hzero) t).1
  cases hs with
  | addRef _ holds | queryInterface _ holds _ | release _ holds | pass _ holds =>
      exact hheld holds
  | addRefDone hp | releaseDone hp => exact hbusy (by rw [hp]; nofun)

/-- An operation moves the outstanding number by at most one. -/
theorem RefStep.outstanding_near (hs : RefStep o s op s') :
    s'.threads.outstanding ≤ s.threads.outstanding + 1 ∧
      s.threads.outstanding ≤ s'.threads.outstanding + 1 := by
  cases hs with
  | addRef idle _ | queryInterface idle _ _ =>
      simp only [RefState.addTotal, Ledger.outstanding_beginAcquire idle]
      omega
  | addRefDone hp =>
      simp only [RefState.addRef, Ledger.outstanding_endAcquire hp]
      omega
  | release idle holds =>
      simp only [RefState.release, Ledger.outstanding_beginRelease idle holds]
      omega
  | releaseDone hp =>
      have hout := Ledger.outstanding_endRelease hp
      simp only [RefState.finalize]
      omega
  | pass _ holds =>
      simp only [Ledger.outstanding_pass holds]
      omega

/-- An operation moves the number held on an interface by at most one. -/
theorem RefStep.on_near (hs : RefStep o s op s') (i : RefCounter) :
    s'.threads.on i ≤ s.threads.on i + 1 ∧ s.threads.on i ≤ s'.threads.on i + 1 := by
  have hupdate : ∀ (f : RefCounter → ℕ) (j : RefCounter) (n : ℕ), n ≤ f j + 1 → f j ≤ n + 1 →
      Function.update f j n i ≤ f i + 1 ∧ f i ≤ Function.update f j n i + 1 := by
    intro f j n hle hge
    by_cases hij : i = j
    · rw [hij, Function.update_self]
      exact ⟨hle, hge⟩
    · rw [Function.update_of_ne hij]
      omega
  cases hs with
  | addRef | queryInterface | releaseDone =>
      exact ⟨Nat.le_succ _, Nat.le_succ _⟩
  | addRefDone _ =>
      simp only [RefState.addRef, Ledger.on_endAcquire]
      exact hupdate _ _ _ le_rfl (by omega)
  | release _ holds =>
      simp only [RefState.release, Ledger.on_beginRelease holds]
      exact hupdate _ _ _ (by omega) (by omega)
  | pass _ holds =>
      simp only [Ledger.on_pass holds]
      omega

/-- **Step lemma**: within range every operation keeps the counters exact. -/
theorem RefStep.exact (h : s.Exact) (hfit : op.Fits s) (hs : RefStep o s op s') : s'.Exact := by
  have hpos := hs.outstanding_pos
  have hdisp : s.disposed = 0 := by rw [h.disposed, if_neg hpos.ne']
  have hcount := hs.counted h.toCounted
  have hrange := h.inRange
  cases hs with
  | addRef idle _ | queryInterface idle _ _ =>
      refine ⟨hcount, ?_, ?_⟩
      · simp only [RefState.addTotal, Ledger.outstanding_beginAcquire idle]
        exact hfit
      · simp only [RefState.addTotal, Ledger.outstanding_beginAcquire idle, hdisp]
        rfl
  | addRefDone hp =>
      refine ⟨hcount, ?_, ?_⟩ <;>
        simp only [RefState.addRef, Ledger.outstanding_endAcquire hp]
      exacts [hrange, h.disposed]
  | release idle holds =>
      refine ⟨hcount, ?_, ?_⟩ <;>
        simp only [RefState.release, Ledger.outstanding_beginRelease idle holds]
      exacts [hrange, h.disposed]
  | @releaseDone t i hp =>
      have hout : (s.finalize t).threads.outstanding + 1 = s.threads.outstanding :=
        Ledger.outstanding_endRelease hp
      have hfin : (s.finalize t).disposed =
          if s.mTotalRef = 1 then s.disposed + 1 else s.disposed := rfl
      refine ⟨hcount, by omega, ?_⟩
      rw [hfin, hdisp]
      by_cases hone : s.threads.outstanding = 1
      · rw [if_pos (h.mTotalRef_eq_one_iff.mpr hone), if_pos (by omega)]
      · rw [if_neg (mt h.mTotalRef_eq_one_iff.mp hone), if_neg (by omega)]
  | pass idle holds =>
      refine ⟨hcount, ?_, ?_⟩ <;> simp only [Ledger.outstanding_pass holds]
      exacts [hrange, h.disposed]

/-- **Run lemma**: in every run within range the counters are exact. -/
theorem exact_of_reachable {t : θ}
    (h : Reachable (guarded RefOp.Fits (RefStep o)) (· = .created o t) s) : s.Exact :=
  h.invariant (P := RefState.Exact) (fun _ hs ↦ hs ▸ RefState.exact_created t)
    fun _ _ _ hex hs ↦ hs.2.exact hex hs.1

/-! ## What the counters promise -/

/-- The guarantees of the two-counter scheme in a state, with respect to the steps
that can be taken from it. -/
structure RefState.Safe (step : RefState θ → RefOp θ → RefState θ → Prop) (s : RefState θ) :
    Prop where
  /-- The total is at least the sum of the interface counters. -/
  sum_le : ∑ i, (s.mRef i).toNat ≤ s.mTotalRef.toNat
  /-- They agree when no call is in progress. -/
  sum_eq : (∀ t, s.threads.phase t = .idle) → ∑ i, (s.mRef i).toNat = s.mTotalRef.toNat
  /-- No operation takes the total around its range. -/
  total_noWrap : ∀ op s', step s op s' →
    s'.mTotalRef.toNat ≤ s.mTotalRef.toNat + 1 ∧ s.mTotalRef.toNat ≤ s'.mTotalRef.toNat + 1
  /-- No operation takes an interface counter around its range. -/
  each_noWrap : ∀ op s' i, step s op s' →
    (s'.mRef i).toNat ≤ (s.mRef i).toNat + 1 ∧ (s.mRef i).toNat ≤ (s'.mRef i).toNat + 1
  /-- The object is destroyed once, when the last reference has been released. -/
  disposed_once : s.disposed ≤ 1 ∧
    (s.disposed = 1 ↔ ∀ t, s.threads.phase t = .idle ∧ ∀ i, s.threads.held t i = 0)
  /-- It is destroyed only with all counters at zero and nobody in an `AddRef`. -/
  disposed_unused : ∀ op s', step s op s' → s'.disposed ≠ s.disposed →
    (∀ i, s.mRef i = 0) ∧ ∀ t i, s.threads.phase t ≠ .acquiring i

/-- A step that destroys the object finds all of it unused. -/
theorem RefStep.unused_of_disposed (h : s.Exact) (hs : RefStep o s op s')
    (hd : s'.disposed ≠ s.disposed) :
    (∀ i, s.threads.on i = 0) ∧ ∀ t i, s.threads.phase t ≠ .acquiring i := by
  cases hs with
  | addRef | queryInterface | addRefDone | release | pass => exact absurd rfl hd
  | @releaseDone t i hp =>
      have hone : s.threads.outstanding = 1 := by
        by_contra hne
        exact hd (if_neg (mt h.mTotalRef_eq_one_iff.mp hne))
      have hout := Ledger.outstanding_endRelease hp
      -- after the step nothing is outstanding any more
      have hzero := Ledger.outstanding_eq_zero_iff.mp
        (show (s.threads.endRelease t).outstanding = 0 by omega)
      refine ⟨fun j ↦ Finset.sum_eq_zero fun u _ ↦ (hzero u).2 j, fun u j ↦ ?_⟩
      by_cases hu : u = t
      · rw [hu, hp]
        nofun
      · have hidle : Function.update s.threads.phase t .idle u = .idle := (hzero u).1
        rw [Function.update_of_ne hu] at hidle
        rw [hidle]
        nofun

/-- Exact counters keep the promises of the scheme. -/
theorem RefState.Exact.safe (h : s.Exact) : s.Safe (guarded RefOp.Fits (RefStep o)) where
  sum_le := by
    simp only [h.toNat_mRef, h.toNat_mTotalRef]
    exact Ledger.sum_on_le_outstanding
  sum_eq hidle := by
    simp only [h.toNat_mRef, h.toNat_mTotalRef]
    exact Ledger.sum_on_eq_outstanding hidle
  total_noWrap op s' hs := by
    rw [h.toNat_mTotalRef, (hs.2.exact h hs.1).toNat_mTotalRef]
    exact hs.2.outstanding_near
  each_noWrap op s' i hs := by
    rw [h.toNat_mRef, (hs.2.exact h hs.1).toNat_mRef]
    exact hs.2.on_near i
  disposed_once := by
    rw [h.disposed, ← Ledger.outstanding_eq_zero_iff]
    split <;> simp_all
  disposed_unused op s' hs hd := by
    obtain ⟨hon, hacq⟩ := hs.2.unused_of_disposed h hd
    refine ⟨fun i ↦ ?_, hacq⟩
    rw [h.each i, hon i]
    rfl

/-- **The two-counter scheme is safe while it does not overflow.**  For each of
the five classes, any number of threads and any interleaving in which references
are only taken while fewer than `2 ^ 32 - 1` references and calls are
outstanding, every state reached keeps the guarantees. -/
theorem refcounts_safe {t : θ}
    (h : Reachable (guarded RefOp.Fits (RefStep o)) (· = .created o t) s) :
    s.Safe (guarded RefOp.Fits (RefStep o)) := (exact_of_reachable h).safe

/-- Two threads pass a reference around and release everything. -/
theorem refcounts_safe_two : ∃ s : RefState Bool, s.disposed = 1 ∧
    s.Safe (guarded RefOp.Fits (RefStep .dsfullDuplex)) := by
  have h0 : Reachable (guarded RefOp.Fits (RefStep .dsfullDuplex))
      (· = RefState.created .dsfullDuplex true) _ := .init rfl
  have h1 := h0.step (i := RefOp.queryInterface true .mFdRef .iidDirectSound8)
    ⟨by decide, .queryInterface rfl (by decide) rfl⟩
  have h2 := h1.step ⟨by trivial, RefStep.addRefDone (t := true) rfl⟩
  have h3 := h2.step (i := RefOp.pass true false .mDS8Ref) ⟨trivial, .pass rfl (by decide)⟩
  have h4 := h3.step ⟨by trivial, RefStep.release (t := true) (i := .mFdRef) rfl (by decide)⟩
  have h5 := h4.step ⟨by trivial, RefStep.release (t := false) (i := .mDS8Ref) rfl (by decide)⟩
  have h6 := h5.step ⟨by trivial, RefStep.releaseDone (t := true) rfl⟩
  have h7 := h6.step ⟨by trivial, RefStep.releaseDone (t := false) rfl⟩
  exact ⟨_, by decide, refcounts_safe h7⟩

/-! ## What an overflow does -/

/-- One thread can hold any number of references, with as many outstanding. -/
theorem reachable_addRefs (o : MultiObject) (n : ℕ) : ∃ s : RefState Unit,
    Reachable (RefStep o) (· = .created o ()) s ∧ s.threads.phase () = .idle ∧
      s.threads.held () o.primary = n + 1 ∧ s.threads.outstanding = n + 1 := by
  induction n with
  | zero =>
      exact ⟨_, .init rfl, rfl, by simp [RefState.created, Ledger.single],
        Ledger.outstanding_single _ _⟩
  | succ n ih =>
      obtain ⟨s, hs, hidle, hheld, hout⟩ := ih
      have h1 := hs.step (RefStep.addRef (i := o.primary) hidle (by omega))
      have h2 := h1.step (RefStep.addRefDone (t := ()) (i := o.primary) rfl)
      refine ⟨_, h2, rfl, ?_, ?_⟩
      · simp [RefState.addRef, RefState.addTotal, Ledger.endAcquire, Ledger.beginAcquire,
          Ledger.enter, Ledger.hold, hheld]
      · simp only [RefState.addRef, RefState.addTotal]
        rw [Ledger.outstanding_endAcquire (by rfl), Ledger.outstanding_beginAcquire hidle, hout]

/-- The count of every reference in a `ULONG` breaks down at `2 ^ 32` of them: the
total is back at zero while the interface counter is not. -/
theorem refcounts_overflow : ∃ s : RefState Unit,
    Reachable (RefStep .dscapture) (· = .created .dscapture ()) s ∧
      s.mTotalRef = 0 ∧ s.mRef .mDsRef = 4294967295 ∧ ¬ s.Safe (RefStep .dscapture) := by
  obtain ⟨s, hs, hidle, hheld, hout⟩ := reachable_addRefs .dscapture (2 ^ 32 - 2)
  have h1 := hs.step (i := RefOp.queryInterface () .mDsRef .iidUnknown) (.queryInterface hidle
    (by rw [show RefCounter.mDsRef = MultiObject.dscapture.primary from rfl, hheld]; decide) rfl)
  have hcount := h1.invariant (P := RefState.Counted) (fun _ hi ↦ hi ▸ RefState.counted_created ())
    fun _ _ _ hc hst ↦ hst.counted hc
  have htotal : (s.addTotal () .mUnkRef).mTotalRef = 0 := by
    rw [hcount.total, RefState.addTotal, Ledger.outstanding_beginAcquire hidle, hout]
    rfl
  have hds : (s.addTotal () .mUnkRef).mRef .mDsRef = 4294967295 := by
    rw [hcount.each, RefState.addTotal, Ledger.beginAcquire, Ledger.on_enter, Ledger.on,
      Fintype.sum_unique]
    exact congrArg UInt32.ofNat hheld
  refine ⟨_, h1, htotal, hds, fun hsafe ↦ ?_⟩
  have hle : ((s.addTotal () .mUnkRef).mRef .mDsRef).toNat ≤ 0 :=
    calc ((s.addTotal () .mUnkRef).mRef .mDsRef).toNat
        ≤ ∑ i, ((s.addTotal () .mUnkRef).mRef i).toNat :=
          Finset.single_le_sum (f := fun i ↦ ((s.addTotal () .mUnkRef).mRef i).toNat)
            (fun _ _ ↦ Nat.zero_le _) (Finset.mem_univ _)
      _ ≤ (s.addTotal () .mUnkRef).mTotalRef.toNat := hsafe.sum_le
      _ = 0 := by rw [htotal]; rfl
  rw [hds] at hle
  exact absurd hle (by decide)

end Dsoal
