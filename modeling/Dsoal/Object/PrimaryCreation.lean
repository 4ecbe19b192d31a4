import Dsoal.Core.PrimaryCreation
import Dsoal.Lib.Tally
import Dsoal.Object.PrimaryRefs

/-!
# Threads and the flags of the primary buffer

A thread to which `AddRef` returns another number than one is returned the primary buffer
without a look at its flags.  The thread with the first reference may not have come to
`Initialize`, which may also fail.

While no thread takes a reference in that gap, a thread in the gap has the only reference, and
a thread that was returned the buffer finds it initialized (`Exact`).  Each reference that is
taken in the gap can end with an uninitialized buffer (`created_buffer_initialized`).
-/

namespace Dsoal

open TransitionSystem

/-- A call with the first reference, which is to initialize the buffer or has failed to. -/
def PrimaryPc.Pending : PrimaryPc → Prop
  | .idle => False
  | .added ref _ => ref = 1
  | .initializing _ => True
  | .releasing _ => True

theorem PrimaryPc.Pending.ne_idle {pc : PrimaryPc} (h : pc.Pending) : pc ≠ .idle := by
  rintro rfl
  exact h

namespace PrimaryThreads

variable {θ : Type} {s s' : PrimaryThreads θ} {t u : θ}

/-- The primary buffer. -/
abbrev primary (s : PrimaryThreads θ) : PrimaryBuffer := s.object.mPrimaryBuffer

/-- The references of a thread: one in a call, and one for each time it was returned the
buffer. -/
def refs (s : PrimaryThreads θ) (t : θ) : ℕ := s.held t + if s.pc t = .idle then 0 else 1

/-- Every thread that was returned the buffer finds it initialized. -/
def Initialized (s : PrimaryThreads θ) : Prop := ∀ t, 0 < s.held t → s.primary.mFlags ≠ 0

/-- `AddRef` when there is a reference to an uninitialized buffer, or so many references that
the count wraps. -/
def Slips (s : PrimaryThreads θ) : PrimaryOp θ → Prop
  | .addRef _ _ => s.primary.mDsRef ≠ 0 ∧ s.primary.mFlags = 0 ∨ s.primary.mDsRef = 0xFFFFFFFF
  | _ => False

theorem refs_pos_of_pc (h : s.pc t ≠ .idle) : 0 < s.refs t := by
  rw [refs, if_neg h]
  exact Nat.succ_pos _

theorem refs_of_idle (h : s.pc t = .idle) : s.refs t = s.held t := by
  rw [refs, if_pos h, Nat.add_zero]

theorem refs_of_busy (h : s.pc t ≠ .idle) : s.refs t = s.held t + 1 := by
  rw [refs, if_neg h]

/-- Only the thread `t` takes the step. -/
structure Only (t : θ) (s s' : PrimaryThreads θ) : Prop where
  pc : ∀ u, u ≠ t → s'.pc u = s.pc u
  held : ∀ u, u ≠ t → s'.held u = s.held u

theorem Only.refs (h : Only t s s') (hu : u ≠ t) : s'.refs u = s.refs u := by
  rw [PrimaryThreads.refs, PrimaryThreads.refs, h.pc u hu, h.held u hu]

/-- `Release` of a buffer with a reference. -/
theorem release_eq {p : PrimaryBuffer} (hne : p.mDsRef ≠ 0) :
    p.release = { p with mTotalRef := p.mTotalRef - 1, mDsRef := p.mDsRef - 1 } := if_neg hne

/-! ## The invariant -/

section Invariant

variable [Fintype θ]

/-- The counts are the number of references; a call with the first reference has the only one
and finds the buffer uninitialized; every other thread with a reference finds it initialized. -/
structure Exact (s : PrimaryThreads θ) : Prop where
  total : s.primary.mTotalRef = s.primary.mDsRef
  count : ∑ t, s.refs t = s.primary.mDsRef.toNat
  pending : ∀ t, (s.pc t).Pending → s.primary.mFlags = 0 ∧ s.primary.mDsRef = 1
  others : ∀ t, 0 < s.refs t → ¬ (s.pc t).Pending → s.primary.mFlags ≠ 0

namespace Exact

variable (h : s.Exact)
include h

theorem refs_le (t : θ) : s.refs t ≤ s.primary.mDsRef.toNat := by
  rw [← h.count]
  exact Finset.single_le_sum (fun _ _ ↦ Nat.zero_le _) (Finset.mem_univ t)

/-- While a call with the first reference is under way, no other thread has a reference. -/
theorem alone (ht : (s.pc t).Pending) (hu : u ≠ t) : s.refs u = 0 := by
  have hsum : s.refs t + s.refs u ≤ ∑ v, s.refs v :=
    Finset.add_le_sum (fun _ _ ↦ Nat.zero_le _) (Finset.mem_univ t) (Finset.mem_univ u) hu.symm
  have hone : s.primary.mDsRef.toNat = 1 := by rw [(h.pending t ht).2]; rfl
  have hpos := refs_pos_of_pc ht.ne_idle
  rw [h.count, hone] at hsum
  omega

/-- **What a thread was returned is initialized.** -/
theorem initialized : s.Initialized := by
  intro t ht
  have hpos : 0 < s.refs t := Nat.lt_of_lt_of_le ht (Nat.le_add_right _ _)
  refine h.others t hpos fun hpending ↦ ?_
  have hle := h.refs_le t
  rw [refs_of_busy hpending.ne_idle, (h.pending t hpending).2] at hle
  have hone : s.held t + 1 ≤ 1 := hle
  omega

/-- Without a count there are no references. -/
theorem refs_eq_zero (hzero : s.primary.mDsRef = 0) (t : θ) : s.refs t = 0 := by
  have hle := h.refs_le t
  rw [hzero] at hle
  exact Nat.le_zero.mp hle

/-- A thread with a reference makes the count positive. -/
theorem mDsRef_ne_zero (hpos : 0 < s.refs t) : s.primary.mDsRef ≠ 0 :=
  fun hzero ↦ hpos.ne' (h.refs_eq_zero hzero t)

/-- Either `Release` lowers the count and the thread's references by one. -/
theorem release_toNat (hpos : 0 < s.refs t) :
    s.primary.release.mDsRef.toNat + 1 = s.primary.mDsRef.toNat ∧
      s.primary.release.mTotalRef = s.primary.release.mDsRef ∧
      s.primary.release.mFlags = s.primary.mFlags := by
  have hne := h.mDsRef_ne_zero hpos
  have hone : 1 ≤ s.primary.mDsRef := by
    rw [UInt32.le_iff_toNat_le]
    exact Nat.one_le_iff_ne_zero.mpr fun hz ↦ hne (UInt32.toNat_inj.mp hz)
  rw [release_eq hne]
  refine ⟨?_, congrArg (· - 1) h.total, rfl⟩
  have hle := UInt32.le_iff_toNat_le.mp hone
  rw [UInt32.toNat_one] at hle
  change (s.primary.mDsRef - 1).toNat + 1 = _
  rw [UInt32.toNat_sub_of_le _ _ hone, UInt32.toNat_one]
  omega

end Exact

theorem IsNew.exact (hs : s.IsNew) : s.Exact := by
  obtain ⟨object, rfl, htotal, hds⟩ := hs
  have hrefs : ∀ t, ({ object := object } : PrimaryThreads θ).refs t = 0 := fun _ ↦ rfl
  refine ⟨htotal.trans hds.symm, ?_, fun t ht ↦ ht.elim, fun t hpos ↦ absurd (hrefs t) hpos.ne'⟩
  rw [Finset.sum_eq_zero fun t _ ↦ hrefs t, hds]
  rfl

end Invariant

/-! ## What a step changes -/

variable [DecidableEq θ]

theorem only_goto (s : PrimaryThreads θ) (t : θ) (pc : PrimaryPc) : Only t s (s.goto t pc) where
  pc _ hu := Function.update_of_ne hu _ _
  held _ _ := rfl

theorem only_giveBuffer (s : PrimaryThreads θ) (t : θ) : Only t s (s.giveBuffer t) where
  pc _ hu := Function.update_of_ne hu _ _
  held _ hu := Function.update_of_ne hu _ _

@[simp] theorem goto_pc_self {pc : PrimaryPc} : (s.goto t pc).pc t = pc :=
  Function.update_self _ _ _

@[simp] theorem goto_held {pc : PrimaryPc} : (s.goto t pc).held = s.held := rfl

@[simp] theorem giveBuffer_pc_self : (s.giveBuffer t).pc t = .idle := Function.update_self _ _ _

@[simp] theorem giveBuffer_held_self : (s.giveBuffer t).held t = s.held t + 1 :=
  Function.update_self _ _ _

/-- A call that is returned the buffer keeps its reference. -/
theorem refs_giveBuffer (h : s.pc t ≠ .idle) : (s.giveBuffer t).refs t = s.refs t := by
  rw [refs_of_busy h, refs_of_idle giveBuffer_pc_self, giveBuffer_held_self]

theorem refs_goto {pc : PrimaryPc} (h : s.pc t ≠ .idle) (hpc : pc ≠ .idle) :
    (s.goto t pc).refs t = s.refs t := by
  rw [refs_of_busy h, refs_of_busy (by rwa [goto_pc_self]), goto_held]

/-- **`AddRef`** needs a thread in no call, and arguments that pass the checks. -/
theorem exec_addRef_iff {bufdesc : BufferDesc} : s.exec (.addRef t bufdesc) = some s' ↔
    s.pc t = .idle ∧ (s.object.mShared.isSome ∧ sizeofBufferDesc1 ≤ bufdesc.dwSize ∧
      hasFlag bufdesc.dwFlags Caps.primaryBuffer) ∧
    s' = (s.setPrimary s.primary.addRef.2).goto t (.added s.primary.addRef.1 bufdesc) := by
  simp only [exec]
  split
  · rename_i hidle
    rw [Option.ite_none_right_eq_some, Option.some.injEq, eq_comm (b := s')]
    exact ⟨fun hc ↦ ⟨hidle, hc⟩, And.right⟩
  · rename_i hbusy
    exact ⟨nofun, fun hc ↦ absurd hc.1 hbusy⟩

/-- `check` when `AddRef` has returned another number than one. -/
theorem check_of_ne_one {ref : UInt32} {bufdesc : BufferDesc} (hpc : s.pc t = .added ref bufdesc)
    (hne : ref ≠ 1) : s.exec (.check t) = some (s.giveBuffer t) := by
  simp only [exec, hpc]
  exact if_neg fun h ↦ hne h.1

theorem exec_initializePrimary {bufdesc : BufferDesc} {mem : Memory} {hr : HResult}
    {object : DSound8OAL} (hpc : s.pc t = .initializing bufdesc)
    (hc : s.object.primaryInitialize (some bufdesc) mem = some (hr, object)) :
    s.exec (.initializePrimary t mem) = some
      (if hr.failed then { s with object := object }.goto t (.releasing hr)
        else { s with object := object }.giveBuffer t) := by
  simp only [exec, hpc, hc]
  rfl

theorem exec_releaseFailed {hr : HResult} (hpc : s.pc t = .releasing hr) :
    s.exec (.releaseFailed t) = some ((s.setPrimary s.primary.release).goto t .idle) := by
  simp only [exec, hpc]

/-- **Other operations** of the object, in any thread, are steps. -/
theorem exec_elsewhere [Abi] {op : Op} {hr : HResult} {object : DSound8OAL}
    (hop : ¬ s.object.UsesPrimary op) (hc : s.object.exec op = some (hr, object)) :
    s.exec (.elsewhere object) = some { s with object := object } := by
  obtain ⟨hrefs, hflags⟩ := DSound8OAL.exec_refsKept hop hc
  simp only [PrimaryBuffer.refs, Prod.mk.injEq] at hrefs
  refine if_pos ?_
  rw [hrefs.1, hrefs.2.1, hflags]

/-- **A call that nothing interrupts** is the method of the object. -/
theorem uninterrupted {bufdesc : BufferDesc} {mem : Memory} {hr : HResult} {object : DSound8OAL}
    (hidle : s.pc t = .idle) (hargs : s.object.CreatesPrimary (some bufdesc) true false)
    (hc : s.object.createPrimary bufdesc mem = some (hr, object)) :
    ∃ s', Reachable (functional exec) (· = s) s' ∧ s'.object = object ∧ s'.pc t = .idle ∧
      s'.held t = s.held t + if hr = .ok then 1 else 0 := by
  obtain ⟨-, -, hshared, desc, hdesc, hsize, hflag⟩ := hargs
  cases hdesc
  have hadd : Reachable (functional exec) (· = s)
      ((s.setPrimary s.primary.addRef.2).goto t (.added s.primary.addRef.1 bufdesc)) :=
    .step (.init rfl) (exec_addRef_iff.mpr ⟨hidle, ⟨hshared, hsize, hflag⟩, rfl⟩)
  generalize hs₁ : (s.setPrimary s.primary.addRef.2).goto t
    (.added s.primary.addRef.1 bufdesc) = s₁ at hadd
  have hpc₁ : s₁.pc t = .added s.primary.addRef.1 bufdesc := by rw [← hs₁, goto_pc_self]
  have hheld₁ : s₁.held = s.held := by rw [← hs₁]; rfl
  have hobject₁ : s₁.object = { s.object with mPrimaryBuffer := s.primary.addRef.2 } := by
    rw [← hs₁]; rfl
  obtain ⟨object₁, hfirst, hinit, hs'⟩ | ⟨hnot, rfl, rfl⟩ := DSound8OAL.createPrimary_cases hc
  · have hcheck : s₁.exec (.check t) = some (s₁.goto t (.initializing bufdesc)) := by
      simp only [exec, hpc₁, hobject₁]
      exact if_pos hfirst
    have hinit₂ : (s₁.goto t (.initializing bufdesc)).object.primaryInitialize (some bufdesc) mem =
        some (hr, object₁) := by
      rw [← hinit, ← hobject₁]
      rfl
    have hthen := (hadd.step hcheck).step (exec_initializePrimary goto_pc_self hinit₂)
    obtain ⟨hfail, rfl⟩ | ⟨rfl, rfl⟩ := hs'
    · rw [if_pos (by simpa using hfail)] at hthen
      refine ⟨_, hthen.step (exec_releaseFailed goto_pc_self), rfl, goto_pc_self, ?_⟩
      rw [if_neg hfail]
      exact congrFun hheld₁ t
    · rw [if_neg (by decide)] at hthen
      refine ⟨_, hthen, rfl, giveBuffer_pc_self, ?_⟩
      rw [giveBuffer_held_self, if_pos rfl]
      exact congrArg (· + 1) (congrFun hheld₁ t)
  · have hcheck : s₁.exec (.check t) = some (s₁.giveBuffer t) := by
      simp only [exec, hpc₁, hobject₁]
      exact if_neg hnot
    exact ⟨_, hadd.step hcheck, hobject₁, giveBuffer_pc_self, by
      rw [giveBuffer_held_self, hheld₁]; rfl⟩

/-! ## One lemma for each step -/

variable [Fintype θ]

namespace Exact

variable (h : s.Exact)
include h

/-- The step of one thread keeps the number of references if its own changes as the count
does. -/
theorem count_of_only (ho : Only t s s') (hrefs : s'.primary.mDsRef.toNat + s.refs t =
    s.primary.mDsRef.toNat + s'.refs t) : ∑ u, s'.refs u = s'.primary.mDsRef.toNat := by
  have hupdate : s'.refs = Function.update s.refs t (s'.refs t) :=
    Function.eq_update_iff.mpr ⟨rfl, fun u hu ↦ ho.refs hu⟩
  have hsum := Tally.sum_update_add (Finset.mem_univ t) s.refs (s'.refs t) id
  rw [← hupdate] at hsum
  simp only [id] at hsum
  rw [h.count] at hsum
  omega

/-- **The rule for one thread's step.**  The other threads' part follows if there are no
other references, or the flags are nonzero before and after. -/
theorem of_only (ho : Only t s s') (htotal : s'.primary.mTotalRef = s'.primary.mDsRef)
    (hrefs : s'.primary.mDsRef.toNat + s.refs t = s.primary.mDsRef.toNat + s'.refs t)
    (hpending : (s'.pc t).Pending → s'.primary.mFlags = 0 ∧ s'.primary.mDsRef = 1)
    (hothers : 0 < s'.refs t → ¬ (s'.pc t).Pending → s'.primary.mFlags ≠ 0)
    (hrest : (∀ u, u ≠ t → s.refs u = 0) ∨ (s.primary.mFlags ≠ 0 ∧ s'.primary.mFlags ≠ 0)) :
    s'.Exact where
  total := htotal
  count := h.count_of_only ho hrefs
  pending u hu := by
    by_cases hut : u = t
    · subst hut
      exact hpending hu
    rw [ho.pc u hut] at hu
    rcases hrest with hnone | ⟨hflags, -⟩
    · exact absurd (hnone u hut) (refs_pos_of_pc hu.ne_idle).ne'
    · exact absurd (h.pending u hu).1 hflags
  others u hpos hu := by
    by_cases hut : u = t
    · subst hut
      exact hothers hpos hu
    rw [ho.refs hut] at hpos
    rcases hrest with hnone | ⟨-, hflags⟩
    · exact absurd (hnone u hut) hpos.ne'
    · exact hflags

/-- **`AddRef`** keeps the invariant unless it slips. -/
theorem addRef {bufdesc : BufferDesc} (hidle : s.pc t = .idle)
    (hslips : ¬ s.Slips (.addRef t bufdesc)) :
    ((s.setPrimary s.primary.addRef.2).goto t (.added s.primary.addRef.1 bufdesc)).Exact := by
  have hmax : s.primary.mDsRef ≠ 0xFFFFFFFF := fun hmax ↦ hslips (.inr hmax)
  have hflags : s.primary.mDsRef ≠ 0 → s.primary.mFlags ≠ 0 :=
    fun hne hflags ↦ hslips (.inl ⟨hne, hflags⟩)
  have hnat : (s.primary.mDsRef + 1).toNat = s.primary.mDsRef.toNat + 1 := by
    have hne : s.primary.mDsRef.toNat ≠ 0xFFFFFFFF := fun he ↦ hmax (UInt32.toNat_inj.mp he)
    have hlt := s.primary.mDsRef.toNat_lt
    rw [UInt32.toNat_add, UInt32.toNat_one]
    omega
  have honly : Only t s
      ((s.setPrimary s.primary.addRef.2).goto t (.added s.primary.addRef.1 bufdesc)) :=
    ⟨fun _ hu ↦ Function.update_of_ne hu _ _, fun _ _ ↦ rfl⟩
  refine h.of_only honly (congrArg (· + 1) h.total) ?_ ?_ ?_ ?_
  · rw [refs_of_idle hidle, refs_of_busy (by rw [goto_pc_self]; nofun)]
    change (s.primary.mDsRef + 1).toNat + s.held t = s.primary.mDsRef.toNat + (s.held t + 1)
    omega
  · intro hpending
    rw [goto_pc_self] at hpending
    have hone : s.primary.mDsRef + 1 = 1 := hpending
    have hzero : s.primary.mTotalRef = 0 := by
      rw [h.total]
      grind
    exact ⟨if_pos hzero, hone⟩
  · intro _ hpending
    rw [goto_pc_self] at hpending
    have hne : s.primary.mDsRef ≠ 0 := by
      intro hzero
      refine hpending ?_
      change s.primary.mDsRef + 1 = 1
      rw [hzero]
      rfl
    change (if s.primary.mTotalRef = 0 then 0 else s.primary.mFlags) ≠ 0
    rw [if_neg (by rwa [h.total])]
    exact hflags hne
  · by_cases hzero : s.primary.mDsRef = 0
    · exact .inl fun u _ ↦ h.refs_eq_zero hzero u
    · refine .inr ⟨hflags hzero, ?_⟩
      change (if s.primary.mTotalRef = 0 then 0 else s.primary.mFlags) ≠ 0
      rw [if_neg (by rwa [h.total])]
      exact hflags hzero

/-- A call that goes on to `Initialize` keeps it. -/
theorem toInitialize {ref : UInt32} {bufdesc : BufferDesc} (hpc : s.pc t = .added ref bufdesc)
    (hone : ref = 1) : (s.goto t (.initializing bufdesc)).Exact := by
  have hpending : (s.pc t).Pending := by
    rw [hpc]
    exact hone
  have hbusy : PrimaryPc.initializing bufdesc ≠ .idle := by
    rintro ⟨⟩
  refine h.of_only (only_goto s t _) h.total ?_ ?_ ?_ ?_
  · rw [refs_goto hpending.ne_idle hbusy]
    rfl
  · exact fun _ ↦ h.pending t hpending
  · intro _ hnot
    rw [goto_pc_self] at hnot
    exact absurd trivial hnot
  · exact .inl fun u hu ↦ h.alone hpending hu

/-- **A call that returns the buffer** keeps it, if the buffer is initialized. -/
theorem giveBuffer (hpc : s.pc t ≠ .idle) (hflags : s.primary.mFlags ≠ 0) :
    (s.giveBuffer t).Exact := by
  refine h.of_only (only_giveBuffer s t) h.total ?_ ?_ ?_ ?_
  · rw [refs_giveBuffer hpc]
    rfl
  · intro hpending
    rw [giveBuffer_pc_self] at hpending
    exact hpending.elim
  · exact fun _ _ ↦ hflags
  · exact .inr ⟨hflags, hflags⟩

/-- **`Initialize`** keeps the invariant, whether it succeeds or fails. -/
theorem initializePrimary {bufdesc : BufferDesc} {mem : Memory} {hr : HResult} {object : DSound8OAL}
    (hpc : s.pc t = .initializing bufdesc)
    (hc : s.object.primaryInitialize (some bufdesc) mem = some (hr, object)) :
    (if hr.failed then { s with object := object }.goto t (.releasing hr)
      else { s with object := object }.giveBuffer t : PrimaryThreads θ).Exact := by
  have hpending : (s.pc t).Pending := by
    rw [hpc]
    trivial
  obtain ⟨hflags, hone⟩ := h.pending t hpending
  have hrest : ∀ u, u ≠ t → s.refs u = 0 := fun u hu ↦ h.alone hpending hu
  have hcounts : object.mPrimaryBuffer.refs = s.primary.refs →
      object.mPrimaryBuffer.mTotalRef = s.primary.mTotalRef ∧
        object.mPrimaryBuffer.mDsRef = s.primary.mDsRef := by
    intro hrefs
    simp only [PrimaryBuffer.refs, Prod.mk.injEq] at hrefs
    exact ⟨hrefs.1, hrefs.2.1⟩
  obtain ⟨rfl, hrefs, hne⟩ | ⟨hfailed, hkept⟩ := DSound8OAL.primaryInitialize_refs hc
  · obtain ⟨htotal, hds⟩ := hcounts hrefs
    rw [if_neg (by decide)]
    have honly : Only t s ({ s with object := object }.giveBuffer t) :=
      ⟨fun _ hu ↦ Function.update_of_ne hu _ _, fun _ hu ↦ Function.update_of_ne hu _ _⟩
    refine h.of_only honly ((htotal.trans h.total).trans hds.symm) ?_ ?_ (fun _ _ ↦ hne)
      (.inl hrest)
    · change object.mPrimaryBuffer.mDsRef.toNat + s.refs t = _
      rw [hds, refs_giveBuffer (s := { s with object := object }) hpending.ne_idle]
      rfl
    · intro hidle
      rw [giveBuffer_pc_self] at hidle
      exact hidle.elim
  · obtain ⟨htotal, hds⟩ := hcounts hkept.refs
    rw [if_pos (by simpa using hfailed)]
    have hbusy : PrimaryPc.releasing hr ≠ .idle := by
      rintro ⟨⟩
    have honly : Only t s ({ s with object := object }.goto t (.releasing hr)) :=
      ⟨fun _ hu ↦ Function.update_of_ne hu _ _, fun _ _ ↦ rfl⟩
    refine h.of_only honly ((htotal.trans h.total).trans hds.symm) ?_ ?_ ?_ (.inl hrest)
    · change object.mPrimaryBuffer.mDsRef.toNat + s.refs t = _
      rw [hds, refs_goto (s := { s with object := object }) hpending.ne_idle hbusy]
      rfl
    · exact fun _ ↦ ⟨hkept.flags.trans hflags, hds.trans hone⟩
    · intro _ hnot
      rw [goto_pc_self] at hnot
      exact absurd trivial hnot

/-- **`Release`** after `Initialize` has failed keeps the invariant. -/
theorem releaseFailed {hr : HResult} (hpc : s.pc t = .releasing hr) :
    ((s.setPrimary s.primary.release).goto t .idle).Exact := by
  have hpending : (s.pc t).Pending := by
    rw [hpc]
    trivial
  have hbusy := hpending.ne_idle
  obtain ⟨hnat, htotal, -⟩ := h.release_toNat (refs_pos_of_pc hbusy)
  have honly : Only t s ((s.setPrimary s.primary.release).goto t .idle) :=
    ⟨fun _ hu ↦ Function.update_of_ne hu _ _, fun _ _ ↦ rfl⟩
  have hidle : ((s.setPrimary s.primary.release).goto t .idle).refs t = s.held t :=
    refs_of_idle goto_pc_self
  refine h.of_only honly htotal ?_ ?_ ?_ (.inl fun u hu ↦ h.alone hpending hu)
  · rw [hidle, refs_of_busy hbusy]
    change s.primary.release.mDsRef.toNat + (s.held t + 1) = s.primary.mDsRef.toNat + s.held t
    omega
  · intro hp
    rw [goto_pc_self] at hp
    exact hp.elim
  · intro hpos
    have hle := h.refs_le t
    rw [refs_of_busy hbusy, (h.pending t hpending).2, UInt32.toNat_one] at hle
    rw [hidle] at hpos
    omega

/-- **`Release`** of a buffer that was returned keeps it. -/
theorem release (hidle : s.pc t = .idle) (hheld : 0 < s.held t) :
    ((s.setPrimary s.primary.release).dropBuffer t).Exact := by
  have hpos : 0 < s.refs t := by rwa [refs_of_idle hidle]
  obtain ⟨hnat, htotal, hflags⟩ := h.release_toNat hpos
  have hne : s.primary.mFlags ≠ 0 := h.initialized t hheld
  have hne' : s.primary.release.mFlags ≠ 0 := by rwa [hflags]
  have honly : Only t s ((s.setPrimary s.primary.release).dropBuffer t) :=
    ⟨fun _ _ ↦ rfl, fun _ hu ↦ Function.update_of_ne hu _ _⟩
  have hself : ((s.setPrimary s.primary.release).dropBuffer t).refs t = s.held t - 1 := by
    rw [refs_of_idle (show ((s.setPrimary s.primary.release).dropBuffer t).pc t = .idle from hidle)]
    exact Function.update_self _ _ _
  refine h.of_only honly htotal ?_ ?_ (fun _ _ ↦ hne') (.inr ⟨hne, hne'⟩)
  · rw [hself, refs_of_idle hidle]
    change s.primary.release.mDsRef.toNat + s.held t = s.primary.mDsRef.toNat + (s.held t - 1)
    omega
  · intro hp
    exact absurd hidle hp.ne_idle

/-- **Every step** that does not slip keeps it. -/
theorem step {op : PrimaryOp θ} (hslips : ¬ s.Slips op) (hc : s.exec op = some s') : s'.Exact := by
  cases op with
  | addRef t bufdesc =>
      obtain ⟨hidle, -, rfl⟩ := exec_addRef_iff.mp hc
      exact h.addRef hidle hslips
  | check t =>
      simp only [exec] at hc
      split at hc
      · rename_i ref bufdesc hpc
        split at hc
        · rename_i hfirst
          cases hc
          exact h.toInitialize hpc hfirst.1
        · rename_i hnot
          cases hc
          have hbusy : s.pc t ≠ .idle := by
            rw [hpc]
            nofun
          refine h.giveBuffer hbusy (h.others t (refs_pos_of_pc hbusy) fun hpending ↦ hnot ?_)
          refine ⟨?_, (h.pending t hpending).1⟩
          rwa [hpc] at hpending
      · cases hc
  | initializePrimary t mem =>
      simp only [exec] at hc
      split at hc
      · rename_i bufdesc hpc
        obtain ⟨⟨hr, object⟩, hinit, hc⟩ := Option.bind_eq_some_iff.mp hc
        cases hc
        exact h.initializePrimary hpc hinit
      · cases hc
  | releaseFailed t =>
      simp only [exec] at hc
      split at hc
      · rename_i hr hpc
        cases hc
        exact h.releaseFailed hpc
      · cases hc
  | release t =>
      obtain ⟨⟨hidle, hheld⟩, hc⟩ := Option.ite_none_right_eq_some.mp hc
      cases hc
      exact h.release hidle hheld
  | elsewhere object =>
      obtain ⟨hsame, hc⟩ := Option.ite_none_right_eq_some.mp hc
      cases hc
      simp only [Prod.mk.injEq] at hsame
      obtain ⟨htotal, hds, hflags⟩ := hsame
      exact ⟨(htotal.trans h.total).trans hds.symm, h.count.trans (congrArg UInt32.toNat hds.symm),
        fun t ht ↦ ⟨hflags.trans (h.pending t ht).1, hds.trans (h.pending t ht).2⟩,
        fun t hpos ht ↦ ne_of_eq_of_ne hflags (h.others t hpos ht)⟩

end Exact

/-! ## What follows a slip -/

/-- **A slip** can be followed by steps to a state in which a thread was returned a buffer that
is not initialized. -/
theorem Exact.of_slips (h : s.Exact) (hslips : s.Slips op) (hc : s.exec op = some s') :
    ∃ s'', Reachable (functional exec) (· = s') s'' ∧ ¬ s''.Initialized := by
  cases op with
  | addRef t bufdesc =>
      obtain ⟨-, hargs, hs'⟩ := exec_addRef_iff.mp hc
      have hne : s.primary.mDsRef ≠ 0 := by
        rcases hslips with hgap | hmax
        · exact hgap.1
        · rw [hmax]
          decide
      have hpc : s'.pc t = .added s.primary.addRef.1 bufdesc := by rw [hs', goto_pc_self]
      have hother : s.primary.addRef.1 ≠ 1 := by
        change s.primary.mDsRef + 1 ≠ 1
        grind
      have hflags : s'.primary.mFlags = s.primary.mFlags := by
        rw [hs']
        exact if_neg (by rwa [h.total])
      -- the thread is returned the buffer whatever its flags are
      have hgive : Reachable (functional exec) (· = s') (s'.giveBuffer t) :=
        .step (.init rfl) (check_of_ne_one hpc hother)
      have hheld : 0 < (s'.giveBuffer t).held t := by
        rw [giveBuffer_held_self]
        exact Nat.succ_pos _
      by_cases hzero : s.primary.mFlags = 0
      · exact ⟨_, hgive, fun hinit ↦ hinit t hheld (hflags.trans hzero)⟩
      -- the count has wrapped, and the next `AddRef` clears the flags
      have hmax : s.primary.mDsRef = 0xFFFFFFFF := hslips.resolve_left fun hgap ↦ hzero hgap.2
      have htotal : s'.primary.mTotalRef = 0 := by
        rw [hs']
        change s.primary.mTotalRef + 1 = 0
        rw [h.total, hmax]
        decide
      have hargs' : (s'.giveBuffer t).object.mShared.isSome ∧ sizeofBufferDesc1 ≤ bufdesc.dwSize ∧
          hasFlag bufdesc.dwFlags Caps.primaryBuffer := by
        rw [hs']
        exact hargs
      have hagain := exec_addRef_iff.mpr ⟨giveBuffer_pc_self, hargs', rfl⟩
      exact ⟨_, hgive.step hagain, fun hinit ↦ hinit t hheld (if_pos htotal)⟩
  | _ => exact hslips.elim

instance (s : PrimaryThreads θ) (op : PrimaryOp θ) : Decidable (s.Slips op) :=
  match op with
  | .addRef _ _ => inferInstanceAs (Decidable (s.primary.mDsRef ≠ 0 ∧ s.primary.mFlags = 0 ∨
      s.primary.mDsRef = 0xFFFFFFFF))
  | .check _ | .initializePrimary _ _ | .releaseFailed _ | .release _ | .elsewhere _ =>
      inferInstanceAs (Decidable False)

end PrimaryThreads

open PrimaryThreads

/-- **The primary buffer that is returned.**  In every run in which no `AddRef` slips, every
thread that was returned the buffer and has not released it finds it initialized; and every
`AddRef` that slips in such a run can be followed by steps to a state where this fails. -/
theorem created_buffer_initialized {θ : Type} [DecidableEq θ] [Fintype θ] {s : PrimaryThreads θ}
    (h : Reachable (guarded (fun s op ↦ ¬ s.Slips op) (functional PrimaryThreads.exec))
      PrimaryThreads.IsNew s) :
    s.Initialized ∧ ∀ op s', s.Slips op → s.exec op = some s' →
      ∃ s'', Reachable (functional PrimaryThreads.exec) (· = s') s'' ∧ ¬ s''.Initialized := by
  have hexact : s.Exact := by
    refine h.invariant (fun _ hs ↦ hs.exact) ?_
    rintro t op t' ht ⟨hslips, hc⟩
    exact ht.step hslips hc
  exact ⟨hexact.initialized, fun _ _ hslips hc ↦ hexact.of_slips hslips hc⟩

/-- A `DSBUFFERDESC1` of the primary buffer. -/
def primaryDesc (flags : UInt32) : BufferDesc :=
  ⟨sizeofBufferDesc1, Caps.primaryBuffer ||| flags, 0, none⟩

/-- Two threads, one after the other. -/
theorem created_buffer_initialized_twice : ∃ s : PrimaryThreads Bool,
    Reachable (functional PrimaryThreads.exec) PrimaryThreads.IsNew s ∧
      (s.held true = 1 ∧ s.held false = 1) ∧ s.primary.mFlags ≠ 0 := by
  have hnew : ({ object := { mIs8 := true, mShared := some oneSource } } :
    PrimaryThreads Bool).IsNew := ⟨_, rfl, rfl, rfl⟩
  obtain ⟨s, h, hheld⟩ := Reachable.exists_of_runFun_restrict (C := fun s op ↦ ¬ s.Slips op)
    (p := fun s : PrimaryThreads Bool ↦ s.held true = 1 ∧ s.held false = 1)
    (f := PrimaryThreads.exec) hnew
    [.addRef false (primaryDesc 0), .check false, .initializePrimary false {},
      .addRef true (primaryDesc 0), .check true] (by decide +kernel)
  refine ⟨s, h.of_guarded, hheld, (created_buffer_initialized h).1 true ?_⟩
  rw [hheld.1]
  exact Nat.one_pos

/-- The second thread is returned the buffer before the first one comes to `Initialize`, which
fails. -/
theorem created_buffer_uninitialized : ∃ s : PrimaryThreads Bool,
    Reachable (functional PrimaryThreads.exec) PrimaryThreads.IsNew s ∧
      s.held true = 1 ∧ s.pc false = .idle ∧ s.primary.mFlags = 0 := by
  have hnew : ({ object := { mIs8 := true, mShared := some oneSource } } :
    PrimaryThreads Bool).IsNew := ⟨_, rfl, rfl, rfl⟩
  exact Reachable.exists_of_runFun (p := fun s : PrimaryThreads Bool ↦ s.held true = 1 ∧
      s.pc false = .idle ∧ s.primary.mFlags = 0) hnew
    [.addRef false (primaryDesc Caps.ctrlFX), .addRef true (primaryDesc 0), .check true,
      .check false, .initializePrimary false {}, .releaseFailed false] (by decide +kernel)

end Dsoal
