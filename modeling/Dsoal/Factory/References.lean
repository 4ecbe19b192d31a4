import Dsoal.Core.DuplexTrace
import Dsoal.Factory.Uninitialized

/-!
# What a failed `DSFullDuplex::Initialize` leaves

The handles are set to null in all failures but those of the two calls of `QueryInterface` at
the end, of which the first is reached with a primary buffer (`initializeCall_rollsBack_iff`).

Where the `DSCapture` fails, the `DSound8OAL` is deleted before the local reference to its
sound buffer is released (`initializeCall_sound_iff`).
-/

namespace Dsoal

variable {s : DSFullDuplex} {args : FullDuplexArgs}

namespace DSFullDuplex

/-- The function is that of `initializeFullDuplex`. -/
theorem initializeCall_result [Abi] (s : DSFullDuplex) (args : FullDuplexArgs) :
    (s.initializeCall args).map (fun c ↦ (c.hr, c.object)) = s.initializeFullDuplex args := by
  unfold initializeCall initializeFullDuplex
  split_ifs
  · rfl
  · rfl
  · cases args.openDS8 with
    | none => rfl
    | some opened =>
        cases opened with
        | error hr => rfl
        | ok ds8 =>
            cases args.openDSC with
            | error hr => rfl
            | ok dsc =>
                cases args.querySoundBuffer8 with
                | none => rfl
                | some i =>
                    simp only [Option.bind_eq_bind, Option.bind_some]
                    cases (MultiObject.dscbuffer dsc.mIs8).queryInterface
                      .iidDirectSoundCaptureBuffer8 <;> rfl

/-! ## The handles -/

/-- What a failure of `Initialize` on a new object is followed by: the outputs and both handles
are null, and a later call does as the first would have done. -/
structure RolledBack [Abi] (c : DuplexCall) : Prop where
  dsBuffer8 : c.dsBuffer8 = none
  dsCaptureBuffer8 : c.dsCaptureBuffer8 = none
  mDS8Handle : c.object.mDS8Handle = none
  mDSCHandle : c.object.mDSCHandle = none
  later : ∀ args, c.object.initializeCall args = ({} : DSFullDuplex).initializeCall args

theorem rolledBack_of_object [Abi] {c : DuplexCall} (h8 : c.dsBuffer8 = none)
    (hC : c.dsCaptureBuffer8 = none) (h : c.object = {}) : RolledBack c where
  dsBuffer8 := h8
  dsCaptureBuffer8 := hC
  mDS8Handle := by rw [h]
  mDSCHandle := by rw [h]
  later args := by rw [h]

/-- The outputs are only stored to on success. -/
theorem outputs_of_failed [Abi] {c : DuplexCall} (hc : s.initializeCall args = some c)
    (hfailed : c.hr.failed = true) : c.dsBuffer8 = none ∧ c.dsCaptureBuffer8 = none := by
  unfold initializeCall at hc
  split_ifs at hc
  · cases hc
    exact ⟨rfl, rfl⟩
  · cases hc
    exact ⟨rfl, rfl⟩
  · obtain ⟨opened, -, hc⟩ := Option.bind_eq_some_iff.mp hc
    split at hc
    · cases hc
      exact ⟨rfl, rfl⟩
    · split at hc
      · cases hc
        exact ⟨rfl, rfl⟩
      · split at hc
        · cases hc
          exact ⟨rfl, rfl⟩
        · split at hc
          · cases hc
            exact ⟨rfl, rfl⟩
          · cases hc
            exact absurd hfailed Bool.false_ne_true

/-- **A failure is undone** exactly if it is not that of `QueryInterface` on the primary
buffer. -/
theorem initializeCall_rollsBack_iff [Abi] (args : FullDuplexArgs) :
    (∀ c, ({} : DSFullDuplex).initializeCall args = some c → c.hr.failed = true →
        RolledBack c) ↔
      ¬ ({} : DSFullDuplex).LeavesHandles args := by
  constructor
  · rintro hrolls ⟨h8, hC, -, -, ⟨ds8, hds8⟩, ⟨dsc, hdsc⟩, hprimary⟩
    have hcall : ({} : DSFullDuplex).initializeCall args = some (.fail .noInterface
        { mDS8Handle := some { ds8 with mPrimaryBuffer := ds8.mPrimaryBuffer.release }
          mDSCHandle := some dsc }
        [.obtain .dsbuf, .obtain .dscbuf] [.dsbuf, .dscbuf]) := by
      simp [initializeCall, h8, hC, hds8, hdsc, querySoundBuffer8_eq_none_iff.mpr hprimary]
    exact absurd (hrolls _ hcall rfl).mDS8Handle nofun
  · intro hleaves c hc hfailed
    have hresult : ({} : DSFullDuplex).initializeFullDuplex args = some (c.hr, c.object) := by
      rw [← initializeCall_result, hc]
      rfl
    obtain ⟨h8, hC⟩ := outputs_of_failed hc hfailed
    rcases initializeFullDuplex_spec rfl rfl hresult with ⟨-, -, hobject⟩ | ⟨-, -, hiff⟩
    · exact rolledBack_of_object h8 hC hobject
    · exact absurd (hiff.mpr (by simpa using hfailed)) hleaves

/-! ## The references -/

/-- Each reference that is obtained is released or handed on, once, and no buffer is released
that has been destroyed. -/
structure ReleasesSound (trace : List DuplexEvent) : Prop where
  atMostOnce : ∀ r, trace.count (.obtain r) ≤ 1
  balanced : ∀ r,
    trace.count (.release r) + trace.count (.hand r) = trace.count (.obtain r)
  alive : (trace.foldlM DuplexBuffers.step {}).isSome = true

instance : Fintype DuplexRef where
  elems := {.dsbuf, .dscbuf, .dsbuf8, .dscbuf8}
  complete r := by cases r <;> decide

instance (trace : List DuplexEvent) : Decidable (ReleasesSound trace) :=
  decidable_of_iff ((∀ r, trace.count (.obtain r) ≤ 1) ∧
      (∀ r, trace.count (.release r) + trace.count (.hand r) = trace.count (.obtain r)) ∧
      (trace.foldlM DuplexBuffers.step {}).isSome = true)
    ⟨fun h ↦ ⟨h.1, h.2.1, h.2.2⟩, fun h ↦ ⟨h.atMostOnce, h.balanced, h.alive⟩⟩

/-- `Initialize` has made the sound buffer, and then fails to open the `DSCapture` or to create
its buffer. -/
def ReleasesLate [Abi] (s : DSFullDuplex) (args : FullDuplexArgs) : Prop :=
  args.dsCaptureBuffer8 = true ∧ args.dsBuffer8 = true ∧
    s.mDS8Handle = none ∧ s.mDSCHandle = none ∧
    (∃ ds8, args.openDS8 = some (.ok ds8)) ∧ ∃ hr, args.openDSC = .error hr

/-- The references are released after the handles. -/
def lateTrace (dsc : Bool) : List DuplexEvent :=
  [.obtain .dsbuf, .destroy .mDS8Handle] ++ resetHandle .mDSCHandle dsc ++ [.release .dsbuf]

theorem lateTrace_not_sound (dsc : Bool) : ¬ ReleasesSound (lateTrace dsc) := by
  intro h
  have halive := h.alive
  cases dsc <;> exact absurd halive (by decide)

/-- What happens to the references in a call. -/
theorem initializeCall_trace [Abi] {c : DuplexCall} (hc : s.initializeCall args = some c) :
    (s.ReleasesLate args ∧ c.trace = lateTrace args.dsc) ∨
      (¬ s.ReleasesLate args ∧ ReleasesSound c.trace) := by
  unfold initializeCall at hc
  split_ifs at hc with hptr hhandle
  · cases hc
    refine .inr ⟨fun hlate ↦ ?_, show ReleasesSound [] by decide⟩
    simp [hlate.1, hlate.2.1] at hptr
  · cases hc
    refine .inr ⟨fun hlate ↦ ?_, show ReleasesSound [] by decide⟩
    simp [hlate.2.2.1, hlate.2.2.2.1] at hhandle
  · obtain ⟨opened, hopened, hc⟩ := Option.bind_eq_some_iff.mp hc
    cases opened with
    | error hr =>
        cases hc
        refine .inr ⟨fun ⟨_, _, _, _, ⟨ds8, hds8⟩, _⟩ ↦ ?_, ?_⟩
        · rw [hopened] at hds8
          cases hds8
        · change ReleasesSound (resetHandle .mDS8Handle args.ds8 ++ [])
          cases args.ds8 <;> decide
    | ok ds8 =>
        cases hdsc : args.openDSC with
        | error hr =>
            simp only [hdsc] at hc
            cases hc
            refine .inl ⟨⟨?_, ?_, ?_, ?_, ⟨ds8, hopened⟩, ⟨hr, hdsc⟩⟩, rfl⟩
            · simpa using (not_or.mp hptr).1
            · simpa using (not_or.mp hptr).2
            · simpa using (not_or.mp hhandle).1
            · simpa using (not_or.mp hhandle).2
        | ok dsc =>
            have hlate : ¬ s.ReleasesLate args := fun ⟨_, _, _, _, _, ⟨hr, herror⟩⟩ ↦ by
              rw [hdsc] at herror
              cases herror
            refine .inr ⟨hlate, ?_⟩
            simp only [hdsc] at hc
            split at hc
            · cases hc
              exact show ReleasesSound [.obtain .dsbuf, .obtain .dscbuf, .release .dscbuf,
                .release .dsbuf] by decide
            · split at hc
              · cases hc
                exact show ReleasesSound [.obtain .dsbuf, .obtain .dscbuf, .obtain .dsbuf8,
                  .release .dsbuf8, .release .dscbuf, .release .dsbuf] by decide
              · cases hc
                exact show ReleasesSound [.obtain .dsbuf, .obtain .dscbuf, .obtain .dsbuf8,
                  .obtain .dscbuf8, .hand .dsbuf8, .hand .dscbuf8, .release .dscbuf,
                  .release .dsbuf] by decide

/-- **The references** are released in time exactly if the `DSCapture` does not fail once
there is a sound buffer. -/
theorem initializeCall_sound_iff [Abi] (s : DSFullDuplex) (args : FullDuplexArgs) :
    (∀ c, s.initializeCall args = some c → ReleasesSound c.trace) ↔ ¬ s.ReleasesLate args := by
  constructor
  · intro hsound hlate
    obtain ⟨h8, hC, hs8, hsC, ⟨ds8, hds8⟩, ⟨hr, hdsc⟩⟩ := id hlate
    have hcall : s.initializeCall args = some (.fail hr {}
        ([.obtain .dsbuf] ++ resetHandle .mDS8Handle true ++ resetHandle .mDSCHandle args.dsc)
        [.dsbuf]) := by
      simp [initializeCall, h8, hC, hs8, hsC, hds8, hdsc]
    rcases initializeCall_trace hcall with ⟨-, htrace⟩ | ⟨hno, -⟩
    · exact lateTrace_not_sound args.dsc (htrace ▸ hsound _ hcall)
    · exact hno hlate
  · intro hlate c hc
    rcases initializeCall_trace hc with ⟨h, -⟩ | ⟨-, hsound⟩
    · exact absurd h hlate
    · exact hsound

end DSFullDuplex

/-! ## Two failures -/

section

local instance referencesAbi : Abi := ⟨⟨592, by decide⟩⟩

/-- There is one endpoint, for all default devices, and memory for a group of buffers. -/
def sampleArgs (captureGuid : Option Guid) (dsBufferDesc : BufferDesc) : FullDuplexArgs where
  captureGuid := captureGuid
  renderGuid := none
  dscBufferDesc := some captureDesc
  dsBufferDesc := some dsBufferDesc
  level := Level.priority
  dsCaptureBuffer8 := true
  dsBuffer8 := true
  device := {
    sys := fun _ _ ↦ { value := some ⟨1, 2, 3, 4⟩ }
    getById := fun _ ↦ .ok (⟨fun _ ↦ 64, fun _ ↦ 0⟩, {})
    allocs := [(some 4096, true)] }
  stringFromCLSID := fun _ ↦ "OpenAL Soft"
  capture := { opens := fun _ ↦ true }

/-- The primary buffer is asked for. -/
def primaryDesc1 : BufferDesc := ⟨sizeofBufferDesc1, Caps.primaryBuffer, 0, none⟩

/-- 100 bytes of 16-bit mono samples. -/
def secondaryDesc1 : BufferDesc where
  dwSize := sizeofBufferDesc1
  dwFlags := 0
  dwBufferBytes := 100
  lpwfxFormat := captureDesc.lpwfxFormat

/-- After a failure with a primary buffer the handles are there, and the next call is
refused. -/
theorem initializeCall_leaves_handles :
    ∃ c, ({} : DSFullDuplex).initializeCall (sampleArgs none primaryDesc1) = some c ∧
      c.hr = .noInterface ∧ c.object.mDS8Handle.isSome = true ∧
      c.object.mDSCHandle.isSome = true ∧
      (c.object.initializeCall (sampleArgs none primaryDesc1)).map DuplexCall.hr =
        some .alreadyInitialized :=
  ⟨_, rfl, rfl, rfl, rfl, rfl⟩

set_option maxRecDepth 4096 in
/-- The capture buffer cannot be created on a playback device. -/
theorem initializeCall_releases_late :
    ∃ c, ({} : DSFullDuplex).initializeCall
        (sampleArgs (some .defaultPlayback) secondaryDesc1) = some c ∧
      c.trace = [.obtain .dsbuf, .destroy .mDS8Handle, .destroy .mDSCHandle, .release .dsbuf] ∧
      ¬ DSFullDuplex.ReleasesSound c.trace := by
  refine ⟨_, rfl, rfl, ?_⟩
  exact DSFullDuplex.lateTrace_not_sound true

end

end Dsoal
