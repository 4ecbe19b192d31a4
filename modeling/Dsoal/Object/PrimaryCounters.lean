import Dsoal.Core.PrimaryCounters
import Dsoal.Lib.Tally
import Dsoal.Object.PrimaryRefs

/-!
# The counters of the primary buffer across interleavings

Releasing the buffer too often, from any number of threads, leaves the counters as they should
be: `mTotalRef` is what the three interfaces count and the calls that are between their two
counters, and no counter is lowered that is zero.
-/

namespace Dsoal

open TransitionSystem PrimaryBuffer

/-- A call that has changed one of its two counters. -/
def PrimaryRefPc.inFlight : PrimaryRefPc → ℕ
  | .adding .. | .releasing => 1
  | _ => 0

theorem PrimaryRefPc.inFlight_idle : idle.inFlight = 0 := rfl

theorem PrimaryRefPc.inFlight_adding (i : RefCounter) (prev : UInt32) :
    (adding i prev).inFlight = 1 := rfl

theorem PrimaryRefPc.inFlight_exchanging (ret : UInt32) : (exchanging ret).inFlight = 0 := rfl

theorem PrimaryRefPc.inFlight_releasing : releasing.inFlight = 1 := rfl

namespace PrimaryCounters

variable {θ : Type} [DecidableEq θ] {s s' : PrimaryCounters θ} {op : PrimaryCounterOp θ} {t u : θ}
  {i j : RefCounter} {pc : PrimaryRefPc} {n : ℕ}

/-- A reference is only taken while `mTotalRef` can count it. -/
def Fits (s : PrimaryCounters θ) : PrimaryCounterOp θ → Prop
  | .addRef _ _ => s.mTotalRef + 1 ≠ 0
  | _ => True

instance (s : PrimaryCounters θ) : DecidablePred s.Fits
  | .addRef _ _ => inferInstanceAs (Decidable (_ ≠ _))
  | .addRefDone _ | .clearFlags _ | .load _ | .exchange _ _ | .release _ _ | .releaseDone _
  | .pass _ _ _ | .setFlags _ => inferInstanceAs (Decidable True)

/-- What a step does. -/
inductive Does (s : PrimaryCounters θ) : PrimaryCounterOp θ → PrimaryCounters θ → Prop
  | addRef {t : θ} {i : RefCounter} (hidle : s.pc t = .idle) : Does s (.addRef t i)
      ({ s with mTotalRef := s.mTotalRef + 1 }.goto t (.adding i s.mTotalRef))
  | addRefDone {t : θ} {i : RefCounter} {prev : UInt32} {pc : PrimaryRefPc}
      (hpc : s.pc t = .adding i prev) (hzero : pc.inFlight = 0) : Does s (.addRefDone t)
      (((s.setRef i (s.mRef i + 1)).hold t i (s.held t i + 1)).goto t pc)
  | clearFlags {t : θ} (hpc : s.pc t = .clearing) :
      Does s (.clearFlags t) ({ s with mFlags := 0 }.goto t .idle)
  /-- Reading `mDsRef`, an exchange that fails, or the end of the loop at zero. -/
  | moves {t : θ} {op : PrimaryCounterOp θ} {pc : PrimaryRefPc}
      (hpc : pc.inFlight = (s.pc t).inFlight) : Does s op (s.goto t pc)
  | exchange {t : θ} {spurious : Bool} (hpc : s.pc t = .exchanging (s.mRef .mDsRef))
      (hne : s.mRef .mDsRef ≠ 0) : Does s (.exchange t spurious)
      ((s.setRef .mDsRef (s.mRef .mDsRef - 1)).goto t .releasing)
  | release {t : θ} {i : RefCounter} (hidle : s.pc t = .idle) (hi : i ≠ .mDsRef)
      (hpos : 0 < s.held t i) : Does s (.release t i)
      (((s.setRef i (s.mRef i - 1)).hold t i (s.held t i - 1)).goto t .releasing)
  | releaseDone {t : θ} (hpc : s.pc t = .releasing) :
      Does s (.releaseDone t) ({ s with mTotalRef := s.mTotalRef - 1 }.goto t .idle)
  | pass {t t' : θ} {i : RefCounter} (hi : i ≠ .mDsRef) (hpos : 0 < s.held t i) :
      Does s (.pass t t' i) ((s.hold t i (s.held t i - 1)).hold t' i
        ((s.hold t i (s.held t i - 1)).held t' i + 1))
  | setFlags {mFlags : UInt32} : Does s (.setFlags mFlags) { s with mFlags := mFlags }

theorem Does.of_exec (hc : s.exec op = some s') : s.Does op s' := by
  cases op with
  | addRef t i =>
      obtain ⟨⟨hidle, -⟩, hc⟩ := Option.ite_none_right_eq_some.mp hc
      exact Option.some.inj hc ▸ .addRef hidle
  | addRefDone t =>
      simp only [PrimaryCounters.exec] at hc
      split at hc
      case h_2 => cases hc
      case h_1 i prev hpc => exact Option.some.inj hc ▸ .addRefDone hpc (by split_ifs <;> rfl)
  | clearFlags t =>
      simp only [PrimaryCounters.exec] at hc
      split at hc
      case h_2 => cases hc
      case h_1 hpc => exact Option.some.inj hc ▸ .clearFlags hpc
  | load t =>
      obtain ⟨hidle, hc⟩ := Option.ite_none_right_eq_some.mp hc
      exact Option.some.inj hc ▸ .moves (by rw [hidle]; rfl)
  | exchange t spurious =>
      simp only [PrimaryCounters.exec] at hc
      split at hc
      case h_2 => cases hc
      case h_1 ret hpc =>
      split_ifs at hc with hzero hsame
      · exact Option.some.inj hc ▸ .moves (by rw [hpc]; rfl)
      · obtain ⟨-, rfl⟩ := hsame
        exact Option.some.inj hc ▸ .exchange hpc hzero
      · exact Option.some.inj hc ▸ .moves (by rw [hpc]; rfl)
  | release t i =>
      obtain ⟨⟨hidle, -, hi, hpos⟩, hc⟩ := Option.ite_none_right_eq_some.mp hc
      exact Option.some.inj hc ▸ .release hidle hi hpos
  | releaseDone t =>
      simp only [PrimaryCounters.exec] at hc
      split at hc
      case h_2 => cases hc
      case h_1 hpc => exact Option.some.inj hc ▸ .releaseDone hpc
  | pass t t' i =>
      obtain ⟨⟨-, hi, hpos⟩, hc⟩ := Option.ite_none_right_eq_some.mp hc
      exact Option.some.inj hc ▸ .pass hi hpos
  | setFlags mFlags => exact Option.some.inj hc ▸ .setFlags

variable [Fintype θ]

/-- What the interfaces count. -/
def counted (s : PrimaryCounters θ) : ℕ := ∑ i, (s.mRef i).toNat

/-- The calls that are between their two counters. -/
def inFlight (s : PrimaryCounters θ) : ℕ := ∑ t, (s.pc t).inFlight

/-- The references of an interface that the threads have. -/
def heldOn (s : PrimaryCounters θ) (i : RefCounter) : ℕ := ∑ t, s.held t i

/-! ## What the parts of a step change -/

theorem inFlight_goto (s : PrimaryCounters θ) (t : θ) (pc : PrimaryRefPc) :
    (s.goto t pc).inFlight + (s.pc t).inFlight = s.inFlight + pc.inFlight :=
  Tally.sum_update_add (Finset.mem_univ t) s.pc pc PrimaryRefPc.inFlight

omit [DecidableEq θ] [Fintype θ] in
theorem counted_setRef (s : PrimaryCounters θ) (i : RefCounter) (ref : UInt32) :
    (s.setRef i ref).counted + (s.mRef i).toNat = s.counted + ref.toNat :=
  Tally.sum_update_add (Finset.mem_univ i) s.mRef ref UInt32.toNat

theorem heldOn_hold_self (s : PrimaryCounters θ) (t : θ) (i : RefCounter) (n : ℕ) :
    (s.hold t i n).heldOn i + s.held t i = s.heldOn i + n := by
  have h := Tally.sum_update_add (Finset.mem_univ t) s.held (Function.update (s.held t) i n)
    fun f ↦ f i
  simp only [Function.update_self] at h
  exact h

theorem heldOn_hold_of_ne (s : PrimaryCounters θ) (t : θ) (n : ℕ) (hj : j ≠ i) :
    (s.hold t i n).heldOn j = s.heldOn j := by
  have h := Tally.sum_update_add (Finset.mem_univ t) s.held (Function.update (s.held t) i n)
    fun f ↦ f j
  simp only [Function.update_of_ne hj] at h
  exact Nat.add_right_cancel h

omit [DecidableEq θ] [Fintype θ] in
theorem mRef_le_counted (s : PrimaryCounters θ) (i : RefCounter) :
    (s.mRef i).toNat ≤ s.counted :=
  Finset.single_le_sum (f := fun i ↦ (s.mRef i).toNat) (fun _ _ ↦ Nat.zero_le _)
    (Finset.mem_univ i)

omit [DecidableEq θ] in
theorem inFlight_pc_le (s : PrimaryCounters θ) (t : θ) : (s.pc t).inFlight ≤ s.inFlight :=
  Finset.single_le_sum (f := fun t ↦ (s.pc t).inFlight) (fun _ _ ↦ Nat.zero_le _)
    (Finset.mem_univ t)

omit [DecidableEq θ] in
theorem held_le_heldOn (s : PrimaryCounters θ) (t : θ) (i : RefCounter) :
    s.held t i ≤ s.heldOn i :=
  Finset.single_le_sum (f := fun t ↦ s.held t i) (fun _ _ ↦ Nat.zero_le _) (Finset.mem_univ t)

/-! ## The invariant -/

/-- `mTotalRef` counts what the interfaces count and the calls in flight, and the listener and the
property set count the references to them. -/
structure Exact (s : PrimaryCounters θ) : Prop where
  total : s.mTotalRef.toNat = s.counted + s.inFlight
  held : ∀ i, i ≠ .mDsRef → (s.mRef i).toNat = s.heldOn i

omit [DecidableEq θ] in
theorem Exact.mRef_ne_zero (h : s.Exact) (hi : i ≠ .mDsRef) (hheld : 0 < s.held t i) :
    s.mRef i ≠ 0 := by
  intro hzero
  have hle := s.held_le_heldOn t i
  rw [← h.held i hi, hzero] at hle
  exact absurd hle (Nat.not_le.mpr hheld)

omit [DecidableEq θ] in
theorem Exact.mTotalRef_ne_zero (h : s.Exact) (hpc : (s.pc t).inFlight = 1) :
    s.mTotalRef ≠ 0 := by
  intro hzero
  have hle := s.inFlight_pc_le t
  have htotal := h.total
  rw [hzero, UInt32.toNat_zero] at htotal
  omega

omit [DecidableEq θ] in
/-- The counter of an interface for which a call is in flight is not at its greatest number. -/
theorem Exact.mRef_add_one_ne_zero (h : s.Exact) (hpc : (s.pc t).inFlight = 1) (i : RefCounter) :
    s.mRef i + 1 ≠ 0 := by
  intro hzero
  have hlt := s.mTotalRef.toNat_lt
  have hle := s.inFlight_pc_le t
  have hcount := s.mRef_le_counted i
  have htotal := h.total
  have hmod : ((s.mRef i).toNat + 1) % 2 ^ 32 = 0 := by
    rw [← UInt32.toNat_one, ← UInt32.toNat_add, hzero]
    rfl
  omega

/-- A thread moves on without changing a counter. -/
theorem Exact.goto (h : s.Exact) (hpc : pc.inFlight = (s.pc t).inFlight) : (s.goto t pc).Exact where
  total := by
    have hflight := s.inFlight_goto t pc
    have htotal := h.total
    simp only [counted, PrimaryCounters.goto] at htotal hflight ⊢
    omega
  held := h.held

/-- **Step lemma**. -/
theorem Exact.does (h : s.Exact) (hfits : s.Fits op) (hd : s.Does op s') : s'.Exact := by
  have htotal := h.total
  cases hd with
  | @addRef t i hidle =>
      have hadd := Tally.toNat_add_one hfits
      have hflight := s.inFlight_goto t (.adding i s.mTotalRef)
      rw [hidle] at hflight
      refine ⟨?_, h.held⟩
      show (s.mTotalRef + 1).toNat = s.counted + (s.goto t (.adding i s.mTotalRef)).inFlight
      simp only [PrimaryRefPc.inFlight_idle, PrimaryRefPc.inFlight_adding] at hflight
      omega
  | @addRefDone t i prev pc hpc hzero =>
      have hone : (s.pc t).inFlight = 1 := by rw [hpc]; rfl
      have hadd := Tally.toNat_add_one (h.mRef_add_one_ne_zero hone i)
      have hcount := s.counted_setRef i (s.mRef i + 1)
      have hflight := s.inFlight_goto t pc
      refine ⟨?_, fun j hj ↦ ?_⟩
      · show s.mTotalRef.toNat = (s.setRef i (s.mRef i + 1)).counted + (s.goto t pc).inFlight
        omega
      · show (Function.update s.mRef i (s.mRef i + 1) j).toNat =
          (s.hold t i (s.held t i + 1)).heldOn j
        by_cases hji : j = i
        · subst hji
          have hhold := s.heldOn_hold_self t j (s.held t j + 1)
          have hheld := h.held j hj
          rw [Function.update_self]
          omega
        · rw [Function.update_of_ne hji, s.heldOn_hold_of_ne t _ hji, h.held j hj]
  | @clearFlags t hpc =>
      have hidle : PrimaryRefPc.idle.inFlight = (s.pc t).inFlight := by
        rw [hpc]
        rfl
      have hgoto := h.goto hidle
      exact ⟨hgoto.total, hgoto.held⟩
  | moves hpc => exact h.goto hpc
  | @exchange t spurious hpc hne =>
      have hsub := Tally.toNat_sub_one hne
      have hcount := s.counted_setRef .mDsRef (s.mRef .mDsRef - 1)
      have hflight := s.inFlight_goto t .releasing
      rw [hpc] at hflight
      refine ⟨?_, fun j hj ↦ ?_⟩
      · show s.mTotalRef.toNat =
          (s.setRef .mDsRef (s.mRef .mDsRef - 1)).counted + (s.goto t .releasing).inFlight
        simp only [PrimaryRefPc.inFlight_exchanging, PrimaryRefPc.inFlight_releasing] at hflight
        omega
      · exact (congrArg _ (Function.update_of_ne hj _ _)).trans (h.held j hj)
  | @release t i hidle hi hpos =>
      have hsub := Tally.toNat_sub_one (h.mRef_ne_zero hi hpos)
      have hcount := s.counted_setRef i (s.mRef i - 1)
      have hflight := s.inFlight_goto t .releasing
      rw [hidle] at hflight
      refine ⟨?_, fun j hj ↦ ?_⟩
      · show s.mTotalRef.toNat =
          (s.setRef i (s.mRef i - 1)).counted + (s.goto t .releasing).inFlight
        simp only [PrimaryRefPc.inFlight_idle, PrimaryRefPc.inFlight_releasing] at hflight
        omega
      · show (Function.update s.mRef i (s.mRef i - 1) j).toNat =
          (s.hold t i (s.held t i - 1)).heldOn j
        by_cases hji : j = i
        · subst hji
          have hhold := s.heldOn_hold_self t j (s.held t j - 1)
          have hheld := h.held j hj
          rw [Function.update_self]
          omega
        · rw [Function.update_of_ne hji, s.heldOn_hold_of_ne t _ hji, h.held j hj]
  | @releaseDone t hpc =>
      have hsub := Tally.toNat_sub_one (h.mTotalRef_ne_zero (t := t) (by rw [hpc]; rfl))
      have hflight := s.inFlight_goto t .idle
      rw [hpc] at hflight
      refine ⟨?_, h.held⟩
      show (s.mTotalRef - 1).toNat = s.counted + (s.goto t .idle).inFlight
      simp only [PrimaryRefPc.inFlight_idle, PrimaryRefPc.inFlight_releasing] at hflight
      omega
  | @pass t t' i hi hpos =>
      refine ⟨h.total, fun j hj ↦ (h.held j hj).trans ?_⟩
      by_cases hji : j = i
      · subst hji
        have hgive := s.heldOn_hold_self t j (s.held t j - 1)
        have htake := (s.hold t j (s.held t j - 1)).heldOn_hold_self t' j
          ((s.hold t j (s.held t j - 1)).held t' j + 1)
        omega
      · rw [heldOn_hold_of_ne _ t' _ hji, s.heldOn_hold_of_ne t _ hji]
  | setFlags => exact ⟨h.total, h.held⟩

/-- **Run lemma**. -/
theorem exact_of_reachable
    (h : Reachable (guarded Fits (functional PrimaryCounters.exec)) (· = {}) s) : s.Exact :=
  h.invariant (fun _ hs ↦ hs ▸ ⟨by simp [counted, inFlight, PrimaryRefPc.inFlight_idle],
    fun _ _ ↦ by simp [heldOn]⟩) fun _ _ _ h hstep ↦ h.does hstep.1 (.of_exec hstep.2)

/-! ## No counter is lowered that is zero -/

theorem Exact.not_wraps (h : s.Exact) (hd : s.Does op s') :
    ¬ Wraps s.mTotalRef s'.mTotalRef ∧ ∀ i, ¬ Wraps (s.mRef i) (s'.mRef i) := by
  have hupdate : ∀ {i : RefCounter} {ref : UInt32}, ¬ Wraps (s.mRef i) ref →
      ∀ j, ¬ Wraps (s.mRef j) (Function.update s.mRef i ref j) := by
    intro i ref hne j
    by_cases hj : j = i
    · subst hj
      rwa [Function.update_self]
    · rw [Function.update_of_ne hj]
      exact not_wraps_self _
  have hsame : ∀ i, ¬ Wraps (s.mRef i) (s.mRef i) := fun _ ↦ not_wraps_self _
  cases hd with
  | addRef => exact ⟨not_wraps_add_one _, hsame⟩
  | addRefDone => exact ⟨not_wraps_self _, hupdate (not_wraps_add_one _)⟩
  | exchange _ hne => exact ⟨not_wraps_self _, hupdate (mt wraps_sub_one_iff.mp hne)⟩
  | release _ hi hpos =>
      exact ⟨not_wraps_self _, hupdate (mt wraps_sub_one_iff.mp (h.mRef_ne_zero hi hpos))⟩
  | @releaseDone t hpc =>
      have hne := h.mTotalRef_ne_zero (t := t) (by rw [hpc]; rfl)
      exact ⟨mt wraps_sub_one_iff.mp hne, hsame⟩
  | clearFlags | moves | pass | setFlags => exact ⟨not_wraps_self _, hsame⟩

/-- **Releasing the buffer too often is harmless**: for any number of threads, in every
interleaving of the steps of `AddRef` and `Release` of the three interfaces in which the listener
and the property set are released through references, and in which `mTotalRef` does not overflow,
it counts what the interfaces count and the calls in flight, and no counter is lowered below
zero. -/
theorem primary_counters
    (h : Reachable (guarded Fits (functional PrimaryCounters.exec)) (· = {}) s) :
    s.mTotalRef.toNat = s.counted + s.inFlight ∧
      (∀ i, i ≠ .mDsRef → (s.mRef i).toNat = s.heldOn i) ∧
      ∀ op s', s.exec op = some s' →
        ¬ Wraps s.mTotalRef s'.mTotalRef ∧ ∀ i, ¬ Wraps (s.mRef i) (s'.mRef i) :=
  have hexact := exact_of_reachable h
  ⟨hexact.total, hexact.held, fun _ _ hc ↦ hexact.not_wraps (.of_exec hc)⟩

/-- A thread adds a reference to the buffer and one to the listener; two others release the buffer
at the same time. -/
theorem primary_counters_race : ∃ s : PrimaryCounters (Fin 3),
    (s.mTotalRef = 1 ∧ s.mRef .mDsRef = 0 ∧ s.mRef .mDs3dRef = 1) ∧
    s.mTotalRef.toNat = s.counted + s.inFlight ∧
      (∀ i, i ≠ .mDsRef → (s.mRef i).toNat = s.heldOn i) ∧
      ∀ op s', s.exec op = some s' →
        ¬ Wraps s.mTotalRef s'.mTotalRef ∧ ∀ i, ¬ Wraps (s.mRef i) (s'.mRef i) := by
  obtain ⟨s, hr, hs⟩ : ∃ s : PrimaryCounters (Fin 3),
      Reachable (guarded Fits (functional PrimaryCounters.exec)) (· = {}) s ∧
        s.mTotalRef = 1 ∧ s.mRef .mDsRef = 0 ∧ s.mRef .mDs3dRef = 1 :=
    Reachable.exists_of_runFun_restrict rfl
      [.addRef 0 .mDsRef, .addRefDone 0, .clearFlags 0, .addRef 0 .mDs3dRef, .addRefDone 0,
        .load 1, .load 2, .exchange 1 false, .exchange 2 false, .exchange 2 false, .releaseDone 1]
      (by decide)
  exact ⟨s, hs, primary_counters hr⟩

end PrimaryCounters

end Dsoal
