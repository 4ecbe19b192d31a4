import Dsoal.Core.FullDuplex
import Dsoal.Object.Steps

/-!
# Calls before `Initialize`

Every method of a `DSound8OAL` checks that there is a device.  `CreateCaptureBuffer` of a
`DSCapture` does not, and opens the device with the empty name; the methods that a
`DSFullDuplex` forwards do not check that there is an object to forward them to, and its
`Initialize` can fail and leave both there.  In the runs that avoid these three calls no
method succeeds before `Initialize` (`uninitialized_fails`).
-/

namespace Dsoal

open TransitionSystem

/-! ## `DSound8OAL` -/

namespace DSound8OAL

variable {s : DSound8OAL}

/-- **Without a device** every method of `IDirectSound8` fails and changes nothing. -/
theorem ds8Call_of_uninitialized [Abi] (h : s.mShared = none) (c : DS8Call) :
    ∃ hr, s.ds8Call c = some (hr, s) ∧ hr.failed = true := by
  have hnone : s.mShared.isNone = true := by rw [h]; rfl
  cases c with
  | createSoundBuffer bufferDesc dsBuffer outer mem =>
      simp only [ds8Call, createSoundBuffer]
      cases bufferDesc with
      | none =>
          split_ifs <;> exact ⟨_, rfl, rfl⟩
      | some desc =>
          dsimp only
          rw [if_pos hnone]
          split_ifs <;> exact ⟨_, rfl, rfl⟩
  | getCaps dsCaps =>
      refine ⟨.uninitialized, ?_, rfl⟩
      simp only [ds8Call, getCaps, h]
  | duplicateSoundBuffer original duplicate mem => exact ⟨.uninitialized, if_pos hnone, rfl⟩
  | setCooperativeLevel level mem => exact ⟨.uninitialized, if_pos hnone, rfl⟩
  | compact =>
      refine ⟨.uninitialized, ?_, rfl⟩
      rw [ds8Call, compact, if_pos hnone]
  | getSpeakerConfig speakerConfig =>
      rw [ds8Call, getSpeakerConfig, if_pos hnone]
      split_ifs <;> exact ⟨_, rfl, rfl⟩
  | setSpeakerConfig speakerConfig =>
      refine ⟨.uninitialized, ?_, rfl⟩
      rw [ds8Call, setSpeakerConfig, if_pos hnone]
  | verifyCertification certified =>
      rw [ds8Call, verifyCertification, if_pos hnone]
      split_ifs <;> exact ⟨_, rfl, rfl⟩

/-- `Initialize` sets the device only when it succeeds. -/
theorem initializeDevice_mShared (h : s.mShared = none) (deviceId : Option Guid)
    (env : DeviceEnv) : (s.initializeDevice deviceId env).1 = .ok ∨
      (s.initializeDevice deviceId env).2.mShared = none := by
  have hnone : ¬ s.mShared.isSome = true := by rw [h]; decide
  unfold initializeDevice
  rw [if_neg hnone]
  cases chooseDevice .defaultPlayback .defaultCapture .defaultVoiceCapture deviceId with
  | none => exact .inr h
  | some id =>
      dsimp only
      split_ifs
      · exact .inr h
      · unfold initializeObject
        rw [if_neg hnone]
        cases env.getById (getDeviceID env.sys id .null).2 with
        | error hr => exact .inr h
        | ok shared => exact .inl rfl

end DSound8OAL

/-! ## `DSCapture` -/

namespace DSCBufferDesc

/-- The device a description asks for that `DSCBuffer::Initialize` accepts. -/
def request (desc : DSCBufferDesc) (name : String) : Option CaptureDevice :=
  if desc.dwFXCount > 0 then none
  else do
    let format ← desc.lpwfxFormat
    if format.wFormatTag = formatExtensible ∧ (format.cbSize < extExtraSize ∨
        format.cbSize > extExtraSize ∧ format.cbSize ≠ DSCBuffer.sizeofExtensible) then none
    else if !DSCBuffer.validFormat format then none
    else do
      let (mWaveFmt, alformat) ← DSCBuffer.convertFormat format
      let frame := mWaveFmt.nBlockAlign.toUInt32
      if desc.dwBufferBytes < frame ∨ desc.dwBufferBytes > 0x7FFFFFFF ∨
          desc.dwBufferBytes % frame ≠ 0 then none
      else some ⟨name, mWaveFmt.nSamplesPerSec, alformat, desc.dwBufferBytes / frame⟩

end DSCBufferDesc

/-- **`DSCBuffer::Initialize`** succeeds if and only if there is memory and OpenAL opens the
device. -/
theorem DSCBuffer.initializeBuffer_ok_iff {b : DSCBuffer} {name : String} {desc : DSCBufferDesc}
    {env : CaptureEnv} (h : b.mDevice = none) :
    (b.initializeBuffer name desc env).1 = .ok ↔
      env.samples = true ∧ ∃ device, desc.request name = some device ∧ env.opens device = true := by
  have hnone : ¬ b.mDevice.isSome = true := by rw [h]; decide
  unfold DSCBuffer.initializeBuffer DSCBufferDesc.request
  rw [if_neg hnone]
  by_cases hfx : desc.dwFXCount > 0
  · simp [hfx]
  rw [if_neg hfx, if_neg hfx]
  cases hf : desc.lpwfxFormat with
  | none => simp
  | some format =>
      simp only [Option.bind_eq_bind, Option.bind_some]
      by_cases hsmall : format.wFormatTag = formatExtensible ∧ format.cbSize < extExtraSize
      · rw [if_pos hsmall, if_pos ⟨hsmall.1, .inl hsmall.2⟩]
        simp
      rw [if_neg hsmall]
      by_cases hlarge : format.wFormatTag = formatExtensible ∧ format.cbSize > extExtraSize ∧
          format.cbSize ≠ sizeofExtensible
      · rw [if_pos hlarge, if_pos ⟨hlarge.1, .inr hlarge.2⟩]
        simp
      have hext : ¬ (format.wFormatTag = formatExtensible ∧ (format.cbSize < extExtraSize ∨
          format.cbSize > extExtraSize ∧ format.cbSize ≠ sizeofExtensible)) := by
        rintro ⟨htag, hs | hl⟩
        · exact hsmall ⟨htag, hs⟩
        · exact hlarge ⟨htag, hl⟩
      rw [if_neg hlarge, if_neg hext]
      by_cases hv : (!validFormat format) = true
      · rw [if_pos hv, if_pos hv]
        simp
      rw [if_neg hv, if_neg hv]
      cases hconv : convertFormat format with
      | none => simp
      | some converted =>
          obtain ⟨mWaveFmt, alformat⟩ := converted
          dsimp only [Option.bind_some]
          split_ifs <;> simp_all

namespace DSCapture

variable {s : DSCapture}

/-- `CreateCaptureBuffer` is given a description it accepts, there is memory, and OpenAL opens
the device. -/
def Creates (s : DSCapture) (dscBufferDesc : Option DSCBufferDesc) (dsCaptureBuffer outer : Bool)
    (env : CaptureEnv) : Prop :=
  dsCaptureBuffer = true ∧ outer = false ∧ env.buffer = true ∧ env.samples = true ∧
    ∃ desc, dscBufferDesc = some desc ∧ sizeofDSCBufferDesc1 ≤ desc.dwSize ∧
      ∃ device, desc.copy.request s.mDeviceName = some device ∧ env.opens device = true

theorem createCaptureBuffer_ok_iff {dscBufferDesc : Option DSCBufferDesc}
    {dsCaptureBuffer outer : Bool} {env : CaptureEnv} :
    (s.createCaptureBuffer dscBufferDesc dsCaptureBuffer outer env).1 = .ok ↔
      s.Creates dscBufferDesc dsCaptureBuffer outer env := by
  unfold createCaptureBuffer Creates
  cases dsCaptureBuffer with
  | false => simp
  | true =>
      cases outer with
      | true => simp
      | false =>
          cases dscBufferDesc with
          | none => simp
          | some desc =>
              have hinit : (DSCBuffer.initializeBuffer { mIs8 := s.mIs8 } s.mDeviceName desc.copy
                  env).1 = .ok ↔ _ := DSCBuffer.initializeBuffer_ok_iff rfl
              by_cases hsize : desc.dwSize < sizeofDSCBufferDesc1
              · simp [hsize, UInt32.not_le.mpr hsize]
              · cases hbuffer : env.buffer with
                | false => simp [hsize]
                | true =>
                    have hle := UInt32.not_lt.mp hsize
                    simp only [hsize, hle, Bool.not_true, Bool.false_eq_true, if_false, true_and,
                      HResult.failed_eq_true, Option.some.injEq, exists_eq_left']
                    rw [← hinit]
                    split_ifs with hok
                    · simp [hok]
                    · simpa using hok

/-- A call that fails returns no buffer. -/
theorem createCaptureBuffer_none {dscBufferDesc : Option DSCBufferDesc}
    {dsCaptureBuffer outer : Bool} {env : CaptureEnv}
    (h : (s.createCaptureBuffer dscBufferDesc dsCaptureBuffer outer env).1 ≠ .ok) :
    (s.createCaptureBuffer dscBufferDesc dsCaptureBuffer outer env).2 = none := by
  unfold createCaptureBuffer at h ⊢
  cases dsCaptureBuffer with
  | false => rfl
  | true =>
      cases outer with
      | true => rfl
      | false =>
          cases dscBufferDesc with
          | none => rfl
          | some desc =>
              simp only [Bool.not_true, Bool.false_eq_true, if_false] at h ⊢
              split_ifs at h ⊢ <;> first | rfl | exact absurd rfl h

/-- **Without a device name** a method of `IDirectSoundCapture` fails, unless it creates a
buffer. -/
theorem dscCall_of_uninitialized (h : s.mDeviceName = "") {c : DSCCall}
    (hc : ∀ dscBufferDesc dsCaptureBuffer outer env,
      c = .createCaptureBuffer dscBufferDesc dsCaptureBuffer outer env →
        ¬ s.Creates dscBufferDesc dsCaptureBuffer outer env) :
    (s.dscCall c).1.failed = true ∧ (s.dscCall c).2 = none := by
  cases c with
  | createCaptureBuffer dscBufferDesc dsCaptureBuffer outer env =>
      have hne := mt createCaptureBuffer_ok_iff.mp (hc _ _ _ _ rfl)
      exact ⟨HResult.failed_eq_true.mpr hne, createCaptureBuffer_none hne⟩
  | getCaps dscCaps =>
      have hcaps : s.getCaps dscCaps = (.uninitialized, none) := if_pos h
      rw [dscCall, hcaps]
      exact ⟨rfl, rfl⟩

/-- `Initialize` sets the name of the device if and only if it succeeds. -/
theorem initializeCapture_ok_iff (h : s.mDeviceName = "") (guid : Option Guid)
    (sys : DefaultEndpoints) (stringFromCLSID : Guid → String) :
    (s.initializeCapture guid sys stringFromCLSID).1 = .ok ↔
      (s.initializeCapture guid sys stringFromCLSID).2.mDeviceName ≠ "" := by
  have hname : ¬ s.mDeviceName ≠ "" := not_not.mpr h
  unfold initializeCapture
  rw [if_neg hname]
  cases chooseDevice .defaultCapture .defaultPlayback .defaultVoicePlayback guid with
  | none => simp [h]
  | some id =>
      dsimp only
      split_ifs with hfail hempty
      · simpa [h] using hfail
      · simpa using hempty
      · simpa using hempty

end DSCapture

/-! ## `DSFullDuplex` -/

/-- A call on a `DSound8OAL` never goes through its absent device, and without a device fails
and changes nothing. -/
theorem DSound8OAL.outcome_ds8Call [Abi] {s : DSound8OAL} {object : DSound8OAL → FactoryObject}
    {c : DS8Call} {out : CallOutcome} (h : s.outcome object (s.ds8Call c) = some out) :
    ∃ hr s', out = .returned hr none (object s') ∧
      (s.mShared = none → hr.failed = true ∧ s' = s) := by
  cases hshared : s.mShared with
  | none =>
      obtain ⟨hr, hcall, hfail⟩ := ds8Call_of_uninitialized hshared c
      rw [hcall] at h
      cases h
      exact ⟨hr, s, rfl, fun _ ↦ ⟨hfail, rfl⟩⟩
  | some dev =>
      cases hcall : s.ds8Call c with
      | none =>
          rw [hcall, outcome, hshared] at h
          cases h
      | some result =>
          rw [hcall] at h
          cases h
          exact ⟨_, _, rfl, nofun⟩

namespace DSFullDuplex

variable {s s' : DSFullDuplex} {args : FullDuplexArgs} {hr : HResult}

/-- `Initialize` succeeds in everything but `QueryInterface` on the sound buffer, which is the
primary buffer. -/
def LeavesHandles [Abi] (s : DSFullDuplex) (args : FullDuplexArgs) : Prop :=
  args.dsCaptureBuffer8 = true ∧ args.dsBuffer8 = true ∧
    s.mDS8Handle = none ∧ s.mDSCHandle = none ∧
    (∃ ds8, args.openDS8 = some (.ok ds8)) ∧ (∃ dsc, args.openDSC = .ok dsc) ∧
    ∀ desc ∈ args.dsBufferDesc, hasFlag desc.dwFlags Caps.primaryBuffer = true

/-- A secondary buffer of a `DSound8OAL` of version 8 has the interface. -/
theorem querySoundBuffer8_eq_none_iff : args.querySoundBuffer8 = none ↔
    ∀ desc ∈ args.dsBufferDesc, hasFlag desc.dwFlags Caps.primaryBuffer = true := by
  unfold FullDuplexArgs.querySoundBuffer8
  cases args.dsBufferDesc with
  | none => simp
  | some desc =>
      simp only [Option.mem_some_iff, forall_eq']
      split_ifs with hprimary
      · exact iff_of_true rfl hprimary
      · exact iff_of_false (by simp [MultiObject.queryInterface]) hprimary

/-- What a `DSCapture` is after it has been opened. -/
theorem openDSC_ok {dsc : DSCapture} (h : args.openDSC = .ok dsc) :
    dsc.mIs8 = true ∧ dsc.mDeviceName ≠ "" := by
  unfold FullDuplexArgs.openDSC at h
  split_ifs at h with hmem
  dsimp only at h
  split_ifs at h with hinit hcreate
  obtain rfl := Except.ok.inj h
  constructor
  · unfold DSCapture.initializeCapture
    rw [if_neg (by decide)]
    cases chooseDevice .defaultCapture .defaultPlayback .defaultVoicePlayback args.captureGuid with
    | none => rfl
    | some id =>
        dsimp only
        split_ifs <;> rfl
  · exact (DSCapture.initializeCapture_ok_iff rfl _ _ _).mp (by simpa using hinit)

theorem callDS8_none (h : s.mDS8Handle = none)
    (call : DSound8OAL → Option (HResult × DSound8OAL)) : s.callDS8 call = some .absentHandle := by
  simp only [callDS8, h]

theorem callDSC_none (h : s.mDSCHandle = none)
    (call : DSCapture → HResult × Option DSCBuffer × DSCapture) :
    s.callDSC call = some .absentHandle := by
  simp only [callDSC, h]

theorem exec_dsc [Abi] (s : DSFullDuplex) (c : DSCCall) :
    (FactoryObject.fullDuplex s).exec (.dsc c) =
      s.callDSC fun dsc ↦ ((dsc.dscCall c).1, (dsc.dscCall c).2, dsc) := rfl

theorem exec_dscInitialize [Abi] (s : DSFullDuplex) (guid : Option Guid) (sys : DefaultEndpoints)
    (stringFromCLSID : Guid → String) :
    (FactoryObject.fullDuplex s).exec (.dscInitialize guid sys stringFromCLSID) =
      s.callDSC fun dsc ↦ ((dsc.initializeCapture guid sys stringFromCLSID).1, none,
        (dsc.initializeCapture guid sys stringFromCLSID).2) := rfl

/-- Opening the two objects fails with a failure code. -/
theorem openDS8_error [Abi] (h : args.openDS8 = some (.error hr)) : hr ≠ .ok := by
  unfold FullDuplexArgs.openDS8 at h
  split at h
  · cases h
    decide
  dsimp only at h
  split at h
  · rename_i hfail
    cases h
    simpa using hfail
  obtain ⟨⟨hr₁, ds8₁⟩, -, h⟩ := Option.bind_eq_some_iff.mp h
  dsimp only at h
  split at h
  · rename_i hfail
    cases h
    simpa using hfail
  obtain ⟨⟨hr₂, ds8₂⟩, -, h⟩ := Option.bind_eq_some_iff.mp h
  dsimp only at h
  split at h
  · rename_i hfail
    cases h
    simpa using hfail
  · cases h

theorem openDSC_error (h : args.openDSC = .error hr) : hr ≠ .ok := by
  unfold FullDuplexArgs.openDSC at h
  split at h
  · cases h
    decide
  dsimp only at h
  split at h
  · rename_i hfail
    cases h
    simpa using hfail
  split at h
  · rename_i hfail
    cases h
    simpa using hfail
  · cases h

/-- `Initialize` of an object with a handle changes nothing. -/
theorem initializeFullDuplex_eq [Abi] (h : s.mDS8Handle.isSome = true)
    (hc : s.initializeFullDuplex args = some (hr, s')) : s' = s := by
  unfold initializeFullDuplex at hc
  split at hc
  · cases hc
    rfl
  · rw [if_pos (.inl h)] at hc
    cases hc
    rfl

/-- **`Initialize`** leaves both handles when it succeeds, or when it fails in
`QueryInterface`; otherwise it leaves none. -/
theorem initializeFullDuplex_spec [Abi] (h8 : s.mDS8Handle = none) (hC : s.mDSCHandle = none)
    (hc : s.initializeFullDuplex args = some (hr, s')) :
    (¬ s.LeavesHandles args ∧ hr ≠ .ok ∧ s' = {}) ∨
      (s'.mDS8Handle.isSome = true ∧ (∃ dsc, s'.mDSCHandle = some dsc ∧ dsc.mDeviceName ≠ "") ∧
        (s.LeavesHandles args ↔ hr ≠ .ok)) := by
  have hs : s = {} := by
    cases s
    simp_all
  unfold initializeFullDuplex at hc
  split at hc
  · rename_i hptr
    cases hc
    refine .inl ⟨fun hl ↦ ?_, by decide, hs⟩
    simp [hl.1, hl.2.1] at hptr
  rename_i hptr
  rw [if_neg (by simp [h8, hC])] at hc
  have hptrs : args.dsCaptureBuffer8 = true ∧ args.dsBuffer8 = true := by simpa using hptr
  obtain ⟨opened, hds8, hc⟩ := Option.bind_eq_some_iff.mp hc
  cases opened with
  | error hr₁ =>
      cases hc
      refine .inl ⟨fun ⟨_, _, _, _, ⟨ds8, hopen⟩, _⟩ ↦ ?_, openDS8_error hds8, ?_⟩
      · rw [hds8] at hopen
        cases hopen
      · rw [hs]
  | ok ds8 =>
      dsimp only at hc
      cases hdsc : args.openDSC with
      | error hr₁ =>
          rw [hdsc] at hc
          cases hc
          refine .inl ⟨fun ⟨_, _, _, _, _, ⟨dsc, hopen⟩, _⟩ ↦ ?_, openDSC_error hdsc, rfl⟩
          rw [hdsc] at hopen
          cases hopen
      | ok dsc =>
          obtain ⟨his8, hname⟩ := openDSC_ok hdsc
          have hleaves : s.LeavesHandles args ↔ args.querySoundBuffer8 = none := by
            rw [querySoundBuffer8_eq_none_iff]
            exact ⟨fun hl ↦ hl.2.2.2.2.2.2,
              fun hl ↦ ⟨hptrs.1, hptrs.2, h8, hC, ⟨ds8, hds8⟩, ⟨dsc, hdsc⟩, hl⟩⟩
          rw [hleaves]
          rw [hdsc] at hc
          dsimp only at hc
          cases hquery : args.querySoundBuffer8 with
          | none =>
              rw [hquery] at hc
              cases hc
              exact .inr ⟨rfl, ⟨dsc, rfl, hname⟩, by simp⟩
          | some i =>
              rw [hquery, his8] at hc
              cases hc
              exact .inr ⟨rfl, ⟨dsc, rfl, hname⟩, by simp⟩

end DSFullDuplex

/-! ## The objects of the class factory -/

/-- Whether a call is of a method other than an `Initialize`. -/
def FactoryCall.IsMethod : FactoryCall → Prop
  | .ds8 _ | .dsc _ => True
  | _ => False

namespace FactoryRun

variable {r r' : FactoryRun} {c : FactoryCall} {out : CallOutcome}

/-- What is expected of a call: it goes through no absent handle, and a method that is called
before `Initialize` has succeeded fails, and creates and changes nothing. -/
def Conforms (r : FactoryRun) (c : FactoryCall) : CallOutcome → Prop
  | .absentHandle => False
  | .returned hr buffer object => r.initialized = false → c.IsMethod →
      hr.failed = true ∧ buffer = none ∧ object = r.object

/-- The three calls: `CreateCaptureBuffer` before `Initialize` with a device that opens, a
method that a `DSFullDuplex` forwards without a handle, and its `Initialize` that fails with
the handles left. -/
def Misses [Abi] (r : FactoryRun) (c : FactoryCall) : Prop :=
  match r.object, c with
  | .capture s, .dsc (.createCaptureBuffer dscBufferDesc dsCaptureBuffer outer env) =>
    r.initialized = false ∧ s.Creates dscBufferDesc dsCaptureBuffer outer env
  | .fullDuplex s, .ds8 _ | .fullDuplex s, .ds8Initialize .. => s.mDS8Handle = none
  | .fullDuplex s, .dsc _ | .fullDuplex s, .dscInitialize .. => s.mDSCHandle = none
  | .fullDuplex s, .fullDuplexInitialize args => s.LeavesHandles args
  | _, _ => False

/-- What an object has before and after its `Initialize` has succeeded. -/
def Placed (r : FactoryRun) : Prop :=
  match r.object with
  | .dsound s => r.initialized = false → s.mShared = none
  | .capture s => r.initialized = false → s.mDeviceName = ""
  | .fullDuplex s =>
    s.mDS8Handle.isSome = r.initialized ∧ s.mDSCHandle.isSome = r.initialized

theorem placed_of_isNew (h : r.IsNew) : r.Placed := by
  obtain ⟨clsid, rfl⟩ := h
  cases clsid with
  | directSound8 => exact fun _ ↦ rfl
  | directSound => exact fun _ ↦ rfl
  | directSoundCapture8 => exact fun _ ↦ rfl
  | directSoundCapture => exact fun _ ↦ rfl
  | directSoundFullDuplex => exact ⟨rfl, rfl⟩

/-- What every call is shown to do. -/
def Keeps [Abi] (r : FactoryRun) (c : FactoryCall) (out : CallOutcome) : Prop :=
  r.Conforms c out ∧ ∀ r', FactoryStep r c r' → r'.Placed

theorem keeps_of_returned [Abi] {hr : HResult} {buffer : Option DSCBuffer} {object : FactoryObject}
    (hc : r.object.exec c = some (.returned hr buffer object))
    (hconf : r.Conforms c (.returned hr buffer object))
    (hplaced : Placed ⟨object, r.initialized || (r.object.isInitialize c && hr.succeeded)⟩) :
    r.Keeps c (.returned hr buffer object) := by
  refine ⟨hconf, ?_⟩
  rintro ⟨object', initialized'⟩ ⟨hr', buffer', hc', hinit⟩
  cases hc.symm.trans hc'
  dsimp only at hinit
  rw [hinit]
  exact hplaced

/-- **A `DSound8OAL`.** -/
theorem keeps_dsound [Abi] {s : DSound8OAL} {initialized : Bool}
    (h : Placed ⟨.dsound s, initialized⟩)
    (hc : (FactoryObject.dsound s).exec c = some out) : Keeps ⟨.dsound s, initialized⟩ c out := by
  have hplaced : initialized = false → s.mShared = none := h
  cases c with
  | ds8 c =>
      obtain ⟨hr, s', rfl, hs'⟩ := DSound8OAL.outcome_ds8Call hc
      refine keeps_of_returned hc (fun hinit _ ↦ ?_) fun hinit ↦ ?_
      · obtain ⟨hfail, rfl⟩ := hs' (hplaced hinit)
        exact ⟨hfail, rfl, rfl⟩
      · have hnone := hplaced (by simpa [FactoryObject.isInitialize] using hinit)
        rw [(hs' hnone).2]
        exact hnone
  | ds8Initialize deviceId env =>
      cases hc
      refine keeps_of_returned rfl (fun _ hm ↦ hm.elim) fun hinit ↦ ?_
      simp only [FactoryObject.isInitialize, Bool.true_and, Bool.or_eq_false_iff] at hinit
      have hfail : (s.initializeDevice deviceId env).1.succeeded = false := hinit.2
      have hset := s.initializeDevice_mShared (hplaced hinit.1) deviceId env
      refine hset.resolve_left fun hok ↦ ?_
      rw [hok] at hfail
      cases hfail
  | dsc c => cases hc
  | dscInitialize guid sys stringFromCLSID => cases hc
  | fullDuplexInitialize args => cases hc

/-- **A `DSCapture`.** -/
theorem keeps_capture [Abi] {s : DSCapture} {initialized : Bool}
    (h : Placed ⟨.capture s, initialized⟩) (hmiss : ¬ Misses ⟨.capture s, initialized⟩ c)
    (hc : (FactoryObject.capture s).exec c = some out) :
    Keeps ⟨.capture s, initialized⟩ c out := by
  have hplaced : initialized = false → s.mDeviceName = "" := h
  cases c with
  | dsc c =>
      cases hc
      refine keeps_of_returned rfl (fun hinit _ ↦ ?_) fun hinit ↦ hplaced ?_
      · obtain ⟨hfail, hnone⟩ := s.dscCall_of_uninitialized (hplaced hinit) (c := c) <| by
          rintro dscBufferDesc dsCaptureBuffer outer env rfl hcreates
          exact hmiss ⟨hinit, hcreates⟩
        exact ⟨hfail, hnone, rfl⟩
      · simpa [FactoryObject.isInitialize] using hinit
  | dscInitialize guid sys stringFromCLSID =>
      cases hc
      refine keeps_of_returned rfl (fun _ hm ↦ hm.elim) fun hinit ↦ ?_
      simp only [FactoryObject.isInitialize, Bool.true_and, Bool.or_eq_false_iff] at hinit
      have hfail : (s.initializeCapture guid sys stringFromCLSID).1.succeeded = false := hinit.2
      have hok := DSCapture.initializeCapture_ok_iff (hplaced hinit.1) guid sys stringFromCLSID
      by_contra hname
      rw [hok.mpr hname] at hfail
      cases hfail
  | ds8 c => cases hc
  | ds8Initialize deviceId env => cases hc
  | fullDuplexInitialize args => cases hc

/-- A call that a `DSFullDuplex` forwards, and that returns, keeps its handles. -/
theorem keeps_forwarded [Abi] {s s' : DSFullDuplex} {initialized : Bool} {hr : HResult}
    {buffer : Option DSCBuffer} (h : Placed ⟨.fullDuplex s, initialized⟩)
    (hinit : (FactoryObject.fullDuplex s).isInitialize c = false)
    (h8 : s'.mDS8Handle.isSome = s.mDS8Handle.isSome)
    (hC : s'.mDSCHandle.isSome = s.mDSCHandle.isSome)
    (hsome : initialized = true)
    (hc : (FactoryObject.fullDuplex s).exec c = some (.returned hr buffer (.fullDuplex s'))) :
    Keeps ⟨.fullDuplex s, initialized⟩ c (.returned hr buffer (.fullDuplex s')) := by
  refine keeps_of_returned hc (fun hfalse _ ↦ ?_) ?_
  · rw [hsome] at hfalse
    cases hfalse
  · rw [hinit, Bool.false_and, Bool.or_false]
    exact ⟨h8.trans h.1, hC.trans h.2⟩

theorem keeps_callDS8 [Abi] {s : DSFullDuplex} {initialized : Bool}
    {call : DSound8OAL → Option (HResult × DSound8OAL)} (h : Placed ⟨.fullDuplex s, initialized⟩)
    (hexec : (FactoryObject.fullDuplex s).exec c = s.callDS8 call)
    (hinit : (FactoryObject.fullDuplex s).isInitialize c = false) (hne : s.mDS8Handle ≠ none)
    (hreturns : ∀ {ds8 : DSound8OAL} {object : DSound8OAL → FactoryObject},
      ds8.outcome object (call ds8) = some out → ∃ hr s', out = .returned hr none (object s'))
    (hc : (FactoryObject.fullDuplex s).exec c = some out) :
    Keeps ⟨.fullDuplex s, initialized⟩ c out := by
  obtain ⟨ds8, hds8⟩ := Option.ne_none_iff_exists'.mp hne
  have hsome : initialized = true := by
    rw [← show s.mDS8Handle.isSome = initialized from h.1, hds8]
    rfl
  have hout := hexec.symm.trans hc
  simp only [DSFullDuplex.callDS8, hds8] at hout
  obtain ⟨hr, s', rfl⟩ := hreturns hout
  exact keeps_forwarded h hinit (by rw [hds8]; rfl) rfl hsome hc

theorem keeps_callDSC [Abi] {s : DSFullDuplex} {initialized : Bool}
    {call : DSCapture → HResult × Option DSCBuffer × DSCapture}
    (h : Placed ⟨.fullDuplex s, initialized⟩)
    (hexec : (FactoryObject.fullDuplex s).exec c = s.callDSC call)
    (hinit : (FactoryObject.fullDuplex s).isInitialize c = false) (hne : s.mDSCHandle ≠ none)
    (hc : (FactoryObject.fullDuplex s).exec c = some out) :
    Keeps ⟨.fullDuplex s, initialized⟩ c out := by
  obtain ⟨dsc, hdsc⟩ := Option.ne_none_iff_exists'.mp hne
  have hsome : initialized = true := by
    rw [← show s.mDSCHandle.isSome = initialized from h.2, hdsc]
    rfl
  have hout := hexec.symm.trans hc
  simp only [DSFullDuplex.callDSC, hdsc] at hout
  obtain rfl := Option.some.inj hout
  exact keeps_forwarded h hinit rfl (by rw [hdsc]; rfl) hsome hc

/-- **A `DSFullDuplex`.** -/
theorem keeps_fullDuplex [Abi] {s : DSFullDuplex} {initialized : Bool}
    (h : Placed ⟨.fullDuplex s, initialized⟩) (hmiss : ¬ Misses ⟨.fullDuplex s, initialized⟩ c)
    (hc : (FactoryObject.fullDuplex s).exec c = some out) :
    Keeps ⟨.fullDuplex s, initialized⟩ c out := by
  have h8 : s.mDS8Handle.isSome = initialized := h.1
  have hC : s.mDSCHandle.isSome = initialized := h.2
  cases c with
  | ds8 c =>
      refine keeps_callDS8 h rfl rfl (fun hnone ↦ hmiss hnone) (fun hout ↦ ?_) hc
      obtain ⟨hr, s', hout, -⟩ := DSound8OAL.outcome_ds8Call hout
      exact ⟨hr, s', hout⟩
  | ds8Initialize deviceId env =>
      refine keeps_callDS8 h rfl rfl (fun hnone ↦ hmiss hnone) (fun hout ↦ ?_) hc
      exact ⟨_, _, (Option.some.inj hout).symm⟩
  | dsc c => exact keeps_callDSC h (s.exec_dsc c) rfl (fun hnone ↦ hmiss hnone) hc
  | dscInitialize guid sys stringFromCLSID =>
      exact keeps_callDSC h (s.exec_dscInitialize guid sys stringFromCLSID) rfl
        (fun hnone ↦ hmiss hnone) hc
  | fullDuplexInitialize args =>
      have hleaves : ¬ s.LeavesHandles args := hmiss
      obtain ⟨⟨hr, s'⟩, hinit, hout⟩ := Option.bind_eq_some_iff.mp hc
      obtain rfl := Option.some.inj hout
      refine keeps_of_returned hc (fun _ hm ↦ hm.elim) ?_
      cases initialized with
      | true =>
          obtain rfl := DSFullDuplex.initializeFullDuplex_eq h8 hinit
          exact ⟨h8, hC⟩
      | false =>
          have h8 : s.mDS8Handle = none := by simpa using h8
          have hC : s.mDSCHandle = none := by simpa using hC
          obtain ⟨-, hne, rfl⟩ | ⟨h8', ⟨dsc, hdsc, -⟩, hiff⟩ :=
            DSFullDuplex.initializeFullDuplex_spec h8 hC hinit
          · have hfail : hr.succeeded = false := by simpa [HResult.succeeded] using hne
            rw [hfail]
            exact ⟨rfl, rfl⟩
          · have hok : hr = .ok := by
              by_contra hne
              exact hleaves (hiff.mpr hne)
            rw [hok]
            exact ⟨h8', by rw [hdsc]; rfl⟩

/-- **Every other call** than the three. -/
theorem keeps_of_not_misses [Abi] (h : r.Placed) (hmiss : ¬ r.Misses c)
    (hc : r.object.exec c = some out) : r.Keeps c out := by
  obtain ⟨object, initialized⟩ := r
  cases object with
  | dsound s => exact keeps_dsound h hc
  | capture s => exact keeps_capture h hmiss hc
  | fullDuplex s => exact keeps_fullDuplex h hmiss hc

/-- **One of the three calls** goes through an absent handle, or succeeds, or leaves an object
on which a call succeeds, before `Initialize` has. -/
theorem fails_of_misses [Abi] (h : r.Placed) (hmiss : r.Misses c)
    (hc : r.object.exec c = some out) : ¬ r.Conforms c out ∨
      ∃ r' c' out', FactoryStep r c r' ∧ r'.object.exec c' = some out' ∧ ¬ r'.Conforms c' out' := by
  obtain ⟨object, initialized⟩ := r
  cases object with
  | dsound s => cases c <;> exact hmiss.elim
  | capture s =>
      cases c with
      | dsc c =>
          cases c with
          | createCaptureBuffer dscBufferDesc dsCaptureBuffer outer env =>
              obtain ⟨hinit, hcreates⟩ := hmiss
              obtain rfl := Option.some.inj hc
              refine .inl fun hconf ↦ ?_
              exact HResult.failed_eq_true.mp (hconf hinit trivial).1
                (DSCapture.createCaptureBuffer_ok_iff.mpr hcreates)
          | getCaps dscCaps => exact hmiss.elim
      | _ => exact hmiss.elim
  | fullDuplex s =>
      have habsent (hout : (FactoryObject.fullDuplex s).exec c = some .absentHandle) :
          ¬ Conforms ⟨.fullDuplex s, initialized⟩ c out := by
        obtain rfl : CallOutcome.absentHandle = out := Option.some.inj (hout.symm.trans hc)
        exact id
      cases c with
      | ds8 c => exact .inl (habsent (DSFullDuplex.callDS8_none hmiss _))
      | ds8Initialize deviceId env => exact .inl (habsent (DSFullDuplex.callDS8_none hmiss _))
      | dsc c =>
          exact .inl (habsent ((s.exec_dsc c).trans (DSFullDuplex.callDSC_none hmiss _)))
      | dscInitialize guid sys stringFromCLSID =>
          exact .inl (habsent ((s.exec_dscInitialize guid sys stringFromCLSID).trans
            (DSFullDuplex.callDSC_none hmiss _)))
      | fullDuplexInitialize args =>
          have hleaves : s.LeavesHandles args := hmiss
          obtain ⟨⟨hr, s'⟩, hinit, hout⟩ := Option.bind_eq_some_iff.mp hc
          obtain rfl := Option.some.inj hout
          have hfalse : initialized = false := by
            rw [← show s.mDS8Handle.isSome = initialized from h.1, hleaves.2.2.1]
            rfl
          obtain ⟨hno, -⟩ | ⟨-, ⟨dsc, hdsc, hname⟩, hiff⟩ :=
            DSFullDuplex.initializeFullDuplex_spec hleaves.2.2.1 hleaves.2.2.2.1 hinit
          · exact absurd hleaves hno
          -- `GetCaps` of the `DSCapture` that is left succeeds
          have hfail : hr.succeeded = false := by
            simpa [HResult.succeeded] using hiff.mp hleaves
          have hcaps : dsc.getCaps (some DSCapture.sizeofDSCCaps) =
              (.ok, some { dwFlags := 0x2, dwFormats := 0xFFFFF, dwChannels := 2 }) := by
            rw [DSCapture.getCaps.eq_def, if_neg hname]
            rfl
          refine .inr ⟨⟨.fullDuplex s', initialized⟩,
            .dsc (.getCaps (some DSCapture.sizeofDSCCaps)), .returned .ok none (.fullDuplex s'),
            ⟨hr, none, hc, ?_⟩, ?_, fun hconf ↦ ?_⟩
          · rw [hfail, Bool.and_false, Bool.or_false]
          · obtain ⟨ds8Handle, dscHandle⟩ := s'
            obtain rfl : dscHandle = some dsc := hdsc
            simp only [FactoryObject.exec, DSFullDuplex.callDSC, DSCapture.dscCall, hcaps]
          · exact absurd (hconf hfalse trivial).1 (by decide)

end FactoryRun

/-- **Objects that have not been initialized.**  In every state reached by other calls than
the three, a call that is none of the three goes through no absent handle, and if it is of a
method before `Initialize` has succeeded it fails and creates nothing.  Each of the three calls
does otherwise, or is followed by a call that does. -/
theorem uninitialized_fails [Abi] {r : FactoryRun}
    (h : Reachable (guarded (fun r c ↦ ¬ r.Misses c) FactoryStep) FactoryRun.IsNew r)
    {c : FactoryCall} {out : CallOutcome} (hc : r.object.exec c = some out) :
    (¬ r.Misses c → r.Conforms c out) ∧
      (r.Misses c → ¬ r.Conforms c out ∨ ∃ r' c' out',
        FactoryStep r c r' ∧ r'.object.exec c' = some out' ∧ ¬ r'.Conforms c' out') := by
  have hplaced : r.Placed := by
    refine h.invariant (fun _ ht ↦ FactoryRun.placed_of_isNew ht) ?_
    rintro t c t' ht ⟨hmiss, hstep⟩
    obtain ⟨hr, buffer, hc, -⟩ := id hstep
    exact (FactoryRun.keeps_of_not_misses ht hmiss hc).2 t' hstep
  exact ⟨fun hmiss ↦ (FactoryRun.keeps_of_not_misses hplaced hmiss hc).1,
    fun hmiss ↦ FactoryRun.fails_of_misses hplaced hmiss hc⟩

/-- `Initialize` of a `DSound8OAL` with the default capture device fails, and then `Compact`
does. -/
theorem uninitialized_fails_compact : letI : Abi := ⟨⟨600, by decide⟩⟩
    ∃ r, Reachable (guarded (fun r c ↦ ¬ r.Misses c) FactoryStep) FactoryRun.IsNew r ∧
      r.Conforms (.ds8 .compact) (.returned .uninitialized none r.object) := by
  let _ : Abi := ⟨⟨600, by decide⟩⟩
  have h0 : Reachable (guarded (fun r c ↦ ¬ r.Misses c) FactoryStep) FactoryRun.IsNew
      { object := createObj .directSound8 } := .init ⟨.directSound8, rfl⟩
  have hfail : FactoryStep { object := createObj .directSound8 }
      (.ds8Initialize (some .defaultCapture) ⟨fun _ _ ↦ {}, fun _ ↦ .error .noDriver, []⟩)
      { object := createObj .directSound8 } := ⟨.noDriver, none, rfl, rfl⟩
  have h1 := h0.step ⟨id, hfail⟩
  exact ⟨_, h1, (uninitialized_fails h1 (c := .ds8 .compact) rfl).1 id⟩

/-- A description of 100 bytes of captured 16-bit mono samples. -/
def captureDesc : DSCBufferDesc where
  dwSize := sizeofDSCBufferDesc1
  dwBufferBytes := 100
  lpwfxFormat := some {
    wFormatTag := formatPcm, nChannels := 1, nSamplesPerSec := 8000, nAvgBytesPerSec := 16000,
    nBlockAlign := 2, wBitsPerSample := 16 }

/-- A `DSFullDuplex` forwards `GetCaps` to no object, and a `DSCapture` creates a buffer, before
`Initialize` has been called. -/
theorem uninitialized_absent_handle : letI : Abi := ⟨⟨600, by decide⟩⟩
    (∃ r : FactoryRun, r.IsNew ∧ r.object.exec (.ds8 (.getCaps (some 96))) = some .absentHandle) ∧
    ∃ r : FactoryRun, r.IsNew ∧ ∃ c out,
      r.object.exec c = some out ∧ r.initialized = false ∧ ¬ r.Conforms c out := by
  let _ : Abi := ⟨⟨600, by decide⟩⟩
  refine ⟨⟨_, ⟨.directSoundFullDuplex, rfl⟩, rfl⟩, _, ⟨.directSoundCapture8, rfl⟩,
    .dsc (.createCaptureBuffer (some captureDesc) true false { opens := fun _ ↦ true }), _, rfl,
    rfl, fun hconf ↦ ?_⟩
  exact absurd (hconf rfl trivial).1 (by decide)

end Dsoal
