import Dsoal.Object.Creation
import Dsoal.Object.WriteEmu

/-!
# `SetCooperativeLevel` that fails

Entering `DSSCL_WRITEPRIMARY` fails if a buffer is playing or the write-emulation buffer
cannot be created.  By then the buffers the walk has passed are lost, although the level has
not changed.  All else is as before, since there is no write-emulation buffer at any other
level.
-/

namespace Dsoal

open TransitionSystem DSound8OAL

namespace DSound8OAL

variable [Abi] {s s' : DSound8OAL} {p : Ptr} {b : Buffer} {ps : List Ptr} {hr : HResult}

/-- The pointers of a list before the first whose buffer is playing. -/
def beforePlaying (s : DSound8OAL) (ps : List Ptr) : List Ptr := ps.takeWhile fun p ↦ !s.plays p

omit [Abi] in
theorem beforePlaying_cons (s : DSound8OAL) (p : Ptr) (ps : List Ptr) :
    s.beforePlaying (p :: ps) = if s.plays p then [] else p :: s.beforePlaying ps := by
  rw [beforePlaying, List.takeWhile_cons]
  cases s.plays p <;> rfl

/-- Losing one buffer changes nothing of that for the others. -/
theorem beforePlaying_setBuffer (h : PoolOk s.mSecondaryBuffers) (hb : s.getBuffer p = some b)
    (b' : Buffer) (hp : p ∉ ps) :
    (s.setBuffer p b').beforePlaying ps = s.beforePlaying ps := by
  induction ps with
  | nil => rfl
  | cons q ps ih =>
      obtain ⟨hqp, hps⟩ := not_or.mp (mt List.mem_cons.mpr hp)
      have hplays : (s.setBuffer p b').plays q = s.plays q := by
        rw [plays, plays, getBuffer_setBuffer h hb, if_neg (Ne.symm hqp)]
      rw [beforePlaying_cons, beforePlaying_cons, hplays, ih hps]

/-- **What the walk leaves** of the buffers. -/
theorem getBuffer_loseBuffers (h : PoolOk s.mSecondaryBuffers) (hnodup : ps.Nodup)
    (hc : loseBuffers ps s = some (hr, s')) (q : Ptr) :
    s'.getBuffer q = (s.getBuffer q).map fun b ↦
      { b with mBufferLost := b.mBufferLost || decide (q ∈ s.beforePlaying ps) } := by
  induction ps generalizing s with
  | nil =>
      cases hc
      simp [beforePlaying]
  | cons p ps ih =>
      obtain ⟨hp, hnodup⟩ := List.nodup_cons.mp hnodup
      obtain ⟨b, hb, hc⟩ := Option.bind_eq_some_iff.mp hc
      obtain ⟨status, hst, hc⟩ := Option.bind_eq_some_iff.mp hc
      have hplays : s.plays p = hasFlag status Status.playing := by
        rw [hasFlag_getStatus hst, plays, hb, Option.any_some]
      rw [beforePlaying_cons, hplays]
      split at hc
      · rename_i hplay
        cases hc
        simp [hplay]
      · rename_i hplay
        rw [ih (poolOk_setBuffer h p _) hnodup hc, beforePlaying_setBuffer h hb _ hp,
          getBuffer_setBuffer h hb, if_neg hplay]
        split_ifs with hq
        · simp [hq, hb]
        · simp [List.mem_cons, hq]

omit [Abi] in
theorem destroyWriteEmu_of_none (h : s.mPrimaryBuffer.mWriteEmu = none) :
    s.destroyWriteEmu = some s := by
  rw [destroyWriteEmu, h]

/-- **Entering `DSSCL_WRITEPRIMARY` that fails** changes the buffers the walk has passed. -/
theorem enterWritePrimary_failed (h : PoolOk s.mSecondaryBuffers)
    (hnone : s.mPrimaryBuffer.mWriteEmu = none) {mem : Memory}
    (hc : s.enterWritePrimary mem = some (hr, s')) (hfail : hr ≠ .ok) :
    s'.mPrioLevel = s.mPrioLevel ∧ s'.mPrimaryBuffer.mWriteEmu = none ∧
      ∀ q, s'.getBuffer q = (s.getBuffer q).map fun b ↦ { b with
        mBufferLost := b.mBufferLost ||
          decide (q ∈ s.beforePlaying (livePtrs s.mSecondaryBuffers)) } := by
  obtain ⟨s₁, hr₂, s₂, hdestroy, hlose, hs'⟩ := enterWritePrimary_cases hc
  obtain rfl : s = s₁ := Option.some.inj ((destroyWriteEmu_of_none hnone).symm.trans hdestroy)
  have hwalk := getBuffer_loseBuffers h h.nodup_livePtrs hlose
  obtain ⟨gs, hgs⟩ := eq_of_loseBuffers hlose
  have hnone₂ : s₂.mPrimaryBuffer.mWriteEmu = none := by
    rw [hgs]
    exact hnone
  have hlevel₂ : s₂.mPrioLevel = s.mPrioLevel := by rw [hgs]
  obtain ⟨-, -, rfl⟩ | ⟨-, -, hcreate⟩ | ⟨-, -, hok, -⟩ := hs'
  · exact ⟨hlevel₂, hnone₂, hwalk⟩
  · obtain ⟨⟨-, hlevel, -⟩, ⟨-, hok, -⟩ | ⟨-, -, hemu⟩⟩ := createWriteEmu_spec hnone₂ hcreate
    · exact absurd hok hfail
    · refine ⟨hlevel.trans hlevel₂, hemu, fun q ↦ ?_⟩
      rw [getBuffer, createWriteEmu_groups hcreate]
      exact hwalk q
  · exact absurd hok hfail

end DSound8OAL

/-- **What a failing `SetCooperativeLevel` changes.**  In any reachable state, the level and
the write-emulation buffer are as before.  The lost flags of all secondary buffers are as
before if and only if the call does not enter `DSSCL_WRITEPRIMARY`, or every buffer before
the first that is playing was lost already. -/
theorem setCooperativeLevel_failed_iff [Abi] {s s' : DSound8OAL}
    (h : Reachable DSoundStep IsNew s) {level : UInt32} {mem : Memory} {hr : HResult}
    (hc : s.setCooperativeLevel level mem = some (hr, s')) (hfail : hr ≠ .ok) :
    (s'.mPrioLevel = s.mPrioLevel ∧
      (∀ p, (s'.getBuffer p).map Buffer.mBufferLost = (s.getBuffer p).map Buffer.mBufferLost) ∧
      s'.mPrimaryBuffer.mWriteEmu = s.mPrimaryBuffer.mWriteEmu) ↔
    (s.EntersWritePrimary level → ∀ p ∈ s.beforePlaying (livePtrs s.mSecondaryBuffers),
      ∀ b, s.getBuffer p = some b → b.mBufferLost) := by
  have hok := ok_of_reachable h
  obtain ⟨rfl, -, hinvalid⟩ | ⟨s₁, hs', hshared, -, ⟨⟨hlevel, hprio⟩, henter⟩ | ⟨-, hr₀, -⟩ |
    ⟨-, hr₀, -⟩⟩ := setCooperativeLevel_cases hc
  · refine ⟨fun _ henters ↦ ?_, fun _ ↦ ⟨rfl, fun _ ↦ rfl, rfl⟩⟩
    obtain ⟨hshared, hlevel, -⟩ := henters
    rw [hlevel, ← Option.not_isSome] at hinvalid
    simp only [hshared] at hinvalid
    exact absurd hinvalid (by decide)
  · have hnone : s.mPrimaryBuffer.mWriteEmu = none :=
      Option.eq_none_iff_forall_ne_some.mpr fun emu hemu ↦
        hprio (emuPlaced_of_reachable h emu hemu).2
    rw [if_neg (by simpa using hfail)] at hs'
    obtain ⟨hlevel', hemu, hbuffers⟩ := enterWritePrimary_failed hok.pool hnone henter hfail
    have henters : s.EntersWritePrimary level :=
      ⟨by rw [← Option.not_isNone, hshared]; rfl, hlevel, hprio⟩
    rw [hs', hemu, hnone]
    simp only [hlevel', hbuffers, henters, true_and, and_true, forall_const, Option.map_map]
    constructor
    · intro hlost p hp b hb
      have hpb := hlost p
      rw [hb] at hpb
      simpa [hp] using hpb
    · intro hlost p
      cases hb : s.getBuffer p with
      | none => rfl
      | some b =>
          by_cases hp : p ∈ s.beforePlaying (livePtrs s.mSecondaryBuffers)
          · simp [hlost p hp b hb]
          · simp [hp]
  · exact absurd hr₀ hfail
  · exact absurd hr₀ hfail

/-- A level that does not exist. -/
theorem setCooperativeLevel_failed_invalid :
    letI : Abi := ⟨⟨600, by decide⟩⟩
    ∃ s s', Reachable DSoundStep IsNew s ∧ (s.getBuffer ⟨4096, 0⟩).isSome ∧
      s.setCooperativeLevel 0 {} = some (.invalidParam, s') ∧
      ∀ p, (s'.getBuffer p).map Buffer.mBufferLost = (s.getBuffer p).map Buffer.mBufferLost := by
  let _ : Abi := ⟨⟨600, by decide⟩⟩
  obtain ⟨s, hs, hp⟩ := exists_of_monoRun Caps.locHardware
    (p := fun s ↦ (s.getBuffer ⟨4096, 0⟩).isSome = true ∧
      (s.setCooperativeLevel 0 {}).any (fun r ↦ r.1 = .invalidParam) = true) [] (by decide +kernel)
  obtain ⟨⟨hr, s'⟩, hc, hinvalid⟩ := (Option.any_eq_true _ _).mp hp.2
  obtain rfl : hr = .invalidParam := of_decide_eq_true hinvalid
  refine ⟨s, s', hs, hp.1, hc,
    ((setCooperativeLevel_failed_iff hs hc (by decide)).mpr fun henters ↦ ?_).2.1⟩
  exact absurd henters.2.1 (by decide)

/-- A buffer has the only hardware source, so that there is none for the write-emulation
buffer.  The buffer is lost at a level at which it can be played. -/
theorem setCooperativeLevel_loses :
    letI : Abi := ⟨⟨600, by decide⟩⟩
    ∃ s s' b b', Reachable DSoundStep IsNew s ∧ s.getBuffer ⟨4096, 0⟩ = some b ∧
      s.setCooperativeLevel Level.writePrimary {} = some (.allocated, s') ∧
      s'.getBuffer ⟨4096, 0⟩ = some b' ∧ s'.mPrioLevel ≠ Level.writePrimary ∧
      b.mBufferLost = false ∧ b'.mBufferLost = true := by
  let _ : Abi := ⟨⟨600, by decide⟩⟩
  obtain ⟨s, hs, hp⟩ := exists_of_monoRun Caps.locHardware
    (p := fun s ↦ (s.getBuffer ⟨4096, 0⟩).any (fun b ↦ !b.mBufferLost) = true ∧
      (s.setCooperativeLevel Level.writePrimary {}).any (fun r ↦ r.1 = .allocated ∧
        r.2.mPrioLevel ≠ Level.writePrimary ∧
        (r.2.getBuffer ⟨4096, 0⟩).any fun b' ↦ b'.mBufferLost) = true)
    [.primary (.initializePrimary
      (some ⟨sizeofBufferDesc1, Caps.primaryBuffer, 0, none⟩) {})] (by decide +kernel)
  obtain ⟨b, hb, hbefore⟩ := (Option.any_eq_true _ _).mp hp.1
  obtain ⟨⟨hr, s'⟩, hc, hafter⟩ := (Option.any_eq_true _ _).mp hp.2
  obtain ⟨rfl, hlevel, hafter⟩ := of_decide_eq_true hafter
  obtain ⟨b', hb', hlost⟩ := (Option.any_eq_true _ _).mp hafter
  exact ⟨s, s', b, b', hs, hb, hc, hb', hlevel, by simpa using hbefore, hlost⟩

end Dsoal
