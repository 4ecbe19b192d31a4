import Dsoal.Formats.Emulation

/-!
# `SetFormat` that fails

`SetFormat` checks a format before it stores it, so that a format it rejects changes nothing.
With a write-emulation buffer it goes on to replace that: it destroys the old one and creates
one with the new format.  When the creation fails the old buffer is gone, with what was written
to it, and the new format stays.
-/

namespace Dsoal

open TransitionSystem

namespace DSound8OAL

variable {s s' : DSound8OAL} {hr : HResult} {mem : Memory} {wfx : Option WaveFormat}

/-- If `SetFormat` accepts the format and there is a write-emulation buffer, another one can be
created with the format: there is memory, OpenAL has a format for the samples, and a hardware
source is free once the old buffer has given back its own. -/
def CanReplaceEmu (s : DSound8OAL) (wfx : Option WaveFormat) (mem : Memory) : Prop :=
  ∀ format emu, wfx.bind PrimaryBuffer.storedFormat = some format →
    s.mPrimaryBuffer.mWriteEmu = some emu →
      mem.emu = true ∧ mem.samples = true ∧ (format.alFormat s.mExtensions).isSome = true ∧
        ∃ dev, s.mShared = some dev ∧
          ((dev.decSources emu.mLocStatus).acquire .hardware).isSome = true

/-- The primary buffer has its format and its write-emulation buffer, and plays as before. -/
def KeepsFormat (s s' : DSound8OAL) : Prop :=
  s'.mPrimaryBuffer.mFormat = s.mPrimaryBuffer.mFormat ∧
    s'.mPrimaryBuffer.mWriteEmu = s.mPrimaryBuffer.mWriteEmu ∧
    s'.mPrimaryBuffer.mPlaying = s.mPrimaryBuffer.mPlaying

theorem newFormat_eq (hlevel : ¬ s.mPrioLevel < Level.priority) :
    s.newFormat wfx = wfx.bind PrimaryBuffer.storedFormat := by
  cases wfx with
  | none => rfl
  | some wfx => simp [newFormat, PrimaryBuffer.storedFormat, hlevel]

/-- Destroying the write-emulation buffer gives back its source. -/
theorem destroyWriteEmu_mShared {emu : Buffer} (hemu : s.mPrimaryBuffer.mWriteEmu = some emu)
    (hc : s.destroyWriteEmu = some s') :
    s'.mShared = s.mShared.map (·.decSources emu.mLocStatus) ∧
      s'.mExtensions = s.mExtensions := by
  simp only [destroyWriteEmu, hemu] at hc
  obtain ⟨s₁, hs₁, hc⟩ := Option.bind_eq_some_iff.mp hc
  cases hc
  cases hloc : emu.mLocStatus with
  | none =>
    rw [leaveSource, hloc] at hs₁
    cases hs₁
    exact ⟨Option.map_id'.symm, rfl⟩
  | loc k =>
    rw [leaveSource, hloc] at hs₁
    obtain ⟨dev, hdev, rfl⟩ := Option.map_eq_some_iff.mp hs₁
    exact ⟨by rw [hdev]; rfl, rfl⟩

/-- Without a write-emulation buffer `SetFormat` only stores the format. -/
theorem setFormat_of_none {format : WaveFormat} (hlevel : ¬ s.mPrioLevel < Level.priority)
    (hnone : s.mPrimaryBuffer.mWriteEmu = none)
    (hformat : wfx.bind PrimaryBuffer.storedFormat = some format) :
    s.setFormat wfx mem = some (.ok, { s with
      mPrimaryBuffer := { s.mPrimaryBuffer with mFormat := format } }) := by
  obtain ⟨wfx, rfl, hstored⟩ := Option.bind_eq_some_iff.mp hformat
  unfold PrimaryBuffer.storedFormat at hstored
  split_ifs at hstored with hshort
  simp [setFormat, hlevel, hshort, hstored, hnone]

/-- **When a failed `SetFormat` changes nothing**: unless there is a write-emulation buffer, the
format is accepted and the buffer cannot be replaced. -/
theorem setFormat_keeps_iff (hlevel : ¬ s.mPrioLevel < Level.priority)
    (hc : s.setFormat wfx mem = some (hr, s')) :
    (hr ≠ .ok → s.KeepsFormat s') ↔ s.CanReplaceEmu wfx mem := by
  obtain ⟨rfl, hno⟩ | ⟨format, hformat, ⟨hnone, -⟩ | ⟨hsome, s₀, hdestroy, hcreate⟩⟩ :=
    setFormat_cases hc
  · rw [newFormat_eq hlevel] at hno
    refine iff_of_true (fun _ ↦ ⟨rfl, rfl, rfl⟩) fun format emu hformat _ ↦ ?_
    rw [hno] at hformat
    cases hformat
  · rw [newFormat_eq hlevel] at hformat
    rw [setFormat_of_none hlevel hnone hformat] at hc
    cases hc
    refine iff_of_true (fun hne ↦ absurd rfl hne) fun format emu _ hemu ↦ ?_
    rw [hnone] at hemu
    cases hemu
  · rw [newFormat_eq hlevel] at hformat
    obtain ⟨emu, hemu⟩ := Option.isSome_iff_exists.mp hsome
    obtain ⟨hprimary, -, -⟩ := destroyWriteEmu_eq hdestroy
    have hnone : s₀.mPrimaryBuffer.mWriteEmu = none := by rw [hprimary]
    have hmformat : s₀.mPrimaryBuffer.mFormat = format := by rw [hprimary]
    obtain ⟨wfx, rfl, hstored⟩ := Option.bind_eq_some_iff.mp hformat
    have hagain := (PrimaryBuffer.storedFormat_normal hstored).2
    have hsucceeds : EmuCall.Succeeds ⟨s₀, s₀.mPrimaryBuffer.mFlags, mem⟩ ↔
        s.CanReplaceEmu (some wfx) mem := by
      obtain ⟨hshared, hexts⟩ := destroyWriteEmu_mShared
        (s := { s with mPrimaryBuffer := { s.mPrimaryBuffer with mFormat := format } }) hemu
        hdestroy
      rw [succeeds_iff (by rw [hmformat]; exact hagain), hmformat, hexts, hshared]
      constructor
      · rintro ⟨hmem, hsamples, hal, dev', hdev', hslot⟩ format' emu' hformat' hemu'
        obtain ⟨dev, hdev, rfl⟩ := Option.map_eq_some_iff.mp hdev'
        obtain rfl : format' = format := Option.some.inj (hformat'.symm.trans hformat)
        obtain rfl : emu' = emu := Option.some.inj (hemu'.symm.trans hemu)
        exact ⟨hmem, hsamples, hal, dev, hdev, hslot⟩
      · intro h
        obtain ⟨hmem, hsamples, hal, dev, hdev, hslot⟩ := h format emu hformat hemu
        exact ⟨hmem, hsamples, hal, _, Option.map_eq_some_iff.mpr ⟨dev, hdev, rfl⟩, hslot⟩
    obtain ⟨-, ⟨hsucc, hok, -⟩ | ⟨hfail, hne, hgone⟩⟩ := createWriteEmu_spec hnone hcreate
    · exact iff_of_true (fun hne ↦ absurd hok hne) (hsucceeds.mp hsucc)
    · refine iff_of_false (fun hkeeps ↦ ?_) fun h ↦ hfail (hsucceeds.mpr h)
      have hemu' := (hkeeps hne).2.1
      rw [hgone] at hemu'
      rw [← hemu'] at hsome
      cases hsome

set_option maxRecDepth 4000 in
/-- The write-emulation buffer cannot be replaced by one with 24-bit samples. -/
theorem setFormat_keeps_iff_rejected : letI : Abi := ⟨⟨600, by decide⟩⟩
    ∃ s s', Reachable DSoundStep DSound8OAL.IsNew s ∧ s.mPrimaryBuffer.mWriteEmu.isSome = true ∧
      s.setFormat (some (stereoPcm 24 6)) {} = some (.invalidParam, s') ∧
      ¬ s.KeepsFormat s' ∧ ¬ s.CanReplaceEmu (some (stereoPcm 24 6)) {} := by
  let _ : Abi := ⟨⟨600, by decide⟩⟩
  have h0 : Reachable DSoundStep DSound8OAL.IsNew (.new true) := .init ⟨true, rfl⟩
  have h1 := h0.step (.of_isSome initializeOne (initializeOne_legal true) (by decide +kernel))
  have h2 := h1.step (.of_isSome Dsoal.createPrimary (createPrimary_legal _)
    (by decide +kernel))
  have h3 := h2.step (.of_isSome (.setCooperativeLevel Level.writePrimary {}) trivial
    (by decide +kernel))
  obtain ⟨s, hs, hlevel, hemu, hfails⟩ : ∃ s, Reachable DSoundStep DSound8OAL.IsNew s ∧
      ¬ s.mPrioLevel < Level.priority ∧ s.mPrimaryBuffer.mWriteEmu.isSome = true ∧
      (s.setFormat (some (stereoPcm 24 6)) {}).any (fun r ↦
        r.1 = .invalidParam ∧ r.2.mPrimaryBuffer.mWriteEmu.isNone = true) = true :=
    ⟨_, h3, by decide +kernel, by decide +kernel, by decide +kernel⟩
  obtain ⟨⟨hr, s'⟩, hc, hfailed⟩ := (Option.any_eq_true _ _).mp hfails
  obtain ⟨rfl, hgone⟩ : hr = .invalidParam ∧ s'.mPrimaryBuffer.mWriteEmu.isNone = true := by
    simpa using hfailed
  have hnot : ¬ s.KeepsFormat s' := fun hkeeps ↦ by
    rw [hkeeps.2.1, Option.isNone_iff_eq_none] at hgone
    rw [hgone] at hemu
    cases hemu
  exact ⟨s, s', hs, hemu, hc, hnot, fun hcan ↦
    hnot ((setFormat_keeps_iff hlevel hc).mpr hcan (by decide))⟩

end DSound8OAL

/-- At the level `DSSCL_WRITEPRIMARY` a format with 24-bit samples makes `SetFormat` fail, and
leaves the primary buffer without its emulation and with the new format. -/
theorem setFormat_loses_emu : letI : Abi := ⟨⟨600, by decide⟩⟩
    ∃ s, Reachable DSoundStep DSound8OAL.IsNew s ∧ s.mPrioLevel = Level.writePrimary ∧
      s.mPrimaryBuffer.mWriteEmu.isSome = true ∧
      (s.setFormat (some (DSound8OAL.stereoPcm 24 6)) {}).any (fun r ↦
        r.1 = .invalidParam ∧ r.2.mPrimaryBuffer.mWriteEmu.isNone = true ∧
          r.2.mPrimaryBuffer.mFormat ≠ s.mPrimaryBuffer.mFormat) = true := by
  let _ : Abi := ⟨⟨600, by decide⟩⟩
  have h0 : Reachable DSoundStep DSound8OAL.IsNew (.new true) := .init ⟨true, rfl⟩
  have h1 := h0.step (.of_isSome initializeOne (initializeOne_legal true) (by decide +kernel))
  have h2 := h1.step (.of_isSome createPrimary (createPrimary_legal _) (by decide +kernel))
  have h3 := h2.step (.of_isSome (.setCooperativeLevel Level.writePrimary {}) trivial
    (by decide +kernel))
  exact ⟨_, h3, by decide +kernel, by decide +kernel, by decide +kernel⟩

end Dsoal
