import Dsoal.Core.CaptureObject
import Dsoal.Core.ComObject
import Dsoal.Core.Methods

/-!
# Objects of the class factory

The methods of `IDirectSound8` and `IDirectSoundCapture` of the objects a client gets from
the class factory: `DSound8OAL`, `DSCapture`, and `DSFullDuplex`, which has both interfaces
and forwards their methods to a `DSound8OAL` and a `DSCapture` of its own.  `AddRef`,
`Release` and `QueryInterface` change nothing but reference counts, and are left out.
-/

namespace Dsoal

/-! ## The methods of `DSound8OAL` -/

/-- What `GetCaps` writes; the fields for the hardware buffers of one kind have one value
each. -/
structure DSCaps where
  dwFlags : UInt32
  dwMinSecondarySampleRate : UInt32
  dwMaxSecondarySampleRate : UInt32
  dwPrimaryBuffers : UInt32
  /-- From `dwMaxHwMixingAllBuffers` to `dwMaxHw3DStreamingBuffers`. -/
  dwMaxHwBuffers : UInt32
  /-- From `dwFreeHwMixingAllBuffers` to `dwFreeHw3DStreamingBuffers`. -/
  dwFreeHwBuffers : UInt32
  dwTotalHwMemBytes : UInt32
  dwFreeHwMemBytes : UInt32
  dwMaxContigFreeHwMemBytes : UInt32
  dwUnlockTransferRateHwBuffers : UInt32
  dwPlayCpuOverheadSwBuffers : UInt32
  deriving DecidableEq, Repr

/-- What happens in a call of `DSound8OAL::Initialize`. -/
structure DeviceEnv where
  sys : DefaultEndpoints
  /-- `SharedDevice::GetById`. -/
  getById : Guid → Except HResult (DeviceSources × Extensions)
  /-- What the allocator does in the loop that preallocates groups. -/
  allocs : List (Option ℕ × Bool)

/-- A call of a method of `IDirectSound8`, other than those of `IUnknown` and
`Initialize`. -/
inductive DS8Call where
  | createSoundBuffer (bufferDesc : Option BufferDesc) (dsBuffer outer : Bool) (mem : Memory)
  /-- The argument of `GetCaps` is given by its `dwSize`. -/
  | getCaps (dsCaps : Option UInt32)
  | duplicateSoundBuffer (original : Option Ptr) (duplicate : Bool) (mem : Memory)
  | setCooperativeLevel (level : UInt32) (mem : Memory)
  | compact
  | getSpeakerConfig (speakerConfig : Bool)
  | setSpeakerConfig (speakerConfig : UInt32)
  | verifyCertification (certified : Bool)

namespace DSound8OAL

/-- `sizeof(DSCAPS)`. -/
def sizeofDSCaps : UInt32 := 96

/-- `GetCaps`. -/
def getCaps (s : DSound8OAL) (dsCaps : Option UInt32) : HResult × Option DSCaps :=
  match s.mShared with
  | none => (.uninitialized, none)
  | some dev =>
    match dsCaps with
    | none => (.invalidParam, none)
    | some dwSize =>
      if dwSize < sizeofDSCaps then (.invalidParam, none)
      else (.ok, some {
        dwFlags := 0x10 ||| 0x40 ||| 0x8 ||| 0x2 ||| 0x4 ||| 0x1 ||| 0x800 ||| 0x400 ||| 0x100 |||
          0x200
        dwMinSecondarySampleRate := frequencyMin
        dwMaxSecondarySampleRate := frequencyMax
        dwPrimaryBuffers := 1
        dwMaxHwBuffers := dev.mMaxSources .hw
        dwFreeHwBuffers := dev.mMaxSources .hw - dev.mCurrentSources .hw
        dwTotalHwMemBytes := 64 * 1024 * 1024
        dwFreeHwMemBytes := 64 * 1024 * 1024
        dwMaxContigFreeHwMemBytes := 64 * 1024 * 1024
        dwUnlockTransferRateHwBuffers := 0
        dwPlayCpuOverheadSwBuffers := 0 })

/-- `Compact`. -/
def compact (s : DSound8OAL) : HResult :=
  if s.mShared.isNone then .uninitialized
  else if s.mPrioLevel < Level.priority then .prioLevelNeeded
  else .ok

/-- `GetSpeakerConfig`. -/
def getSpeakerConfig (s : DSound8OAL) (speakerConfig : Bool) : HResult :=
  if !speakerConfig then .invalidParam
  else if s.mShared.isNone then .uninitialized
  else .ok

/-- `SetSpeakerConfig`, with the geometry in the third byte of its argument and the
configuration in the first. -/
def setSpeakerConfig (s : DSound8OAL) (speakerConfig : UInt32) : HResult :=
  if s.mShared.isNone then .uninitialized
  else
    let geo := (speakerConfig >>> 16) &&& 0xFF
    let speaker := speakerConfig &&& 0xFF
    if geo ≠ 0 ∧ (geo < 5 ∨ geo > 180) then .invalidParam
    else if speaker < 1 ∨ speaker > 9 then .invalidParam
    else .ok

/-- `VerifyCertification`. -/
def verifyCertification (s : DSound8OAL) (certified : Bool) : HResult :=
  if !certified then .invalidParam
  else if s.mShared.isNone then .uninitialized
  else .ok

/-- `Initialize`, from the identifier of the device. -/
def initializeDevice (s : DSound8OAL) (deviceId : Option Guid) (env : DeviceEnv) :
    HResult × DSound8OAL :=
  if s.mShared.isSome then (.alreadyInitialized, s)
  else
    match chooseDevice .defaultPlayback .defaultCapture .defaultVoiceCapture deviceId with
    | none => (.noDriver, s)
    | some deviceId =>
      let (hr, devid) := getDeviceID env.sys deviceId .null
      if hr.failed then (hr, s) else s.initializeObject (env.getById devid) env.allocs

/-- Perform a call of `IDirectSound8`. -/
def ds8Call [Abi] (s : DSound8OAL) : DS8Call → Option (HResult × DSound8OAL)
  | .createSoundBuffer bufferDesc dsBuffer outer mem =>
    s.createSoundBuffer bufferDesc dsBuffer outer mem
  | .getCaps dsCaps => some ((s.getCaps dsCaps).1, s)
  | .duplicateSoundBuffer original duplicate mem => s.duplicateSoundBuffer original duplicate mem
  | .setCooperativeLevel level mem => s.setCooperativeLevel level mem
  | .compact => some (s.compact, s)
  | .getSpeakerConfig speakerConfig => some (s.getSpeakerConfig speakerConfig, s)
  | .setSpeakerConfig speakerConfig => some (s.setSpeakerConfig speakerConfig, s)
  | .verifyCertification certified => some (s.verifyCertification certified, s)

end DSound8OAL

/-! ## The methods of `DSCapture` -/

/-- A call of a method of `IDirectSoundCapture`, other than those of `IUnknown` and
`Initialize`. -/
inductive DSCCall where
  | createCaptureBuffer (dscBufferDesc : Option DSCBufferDesc) (dsCaptureBuffer outer : Bool)
      (env : CaptureEnv)
  | getCaps (dscCaps : Option UInt32)

/-- Perform a call of `IDirectSoundCapture`; none of them changes the object. -/
def DSCapture.dscCall (s : DSCapture) : DSCCall → HResult × Option DSCBuffer
  | .createCaptureBuffer dscBufferDesc dsCaptureBuffer outer env =>
    s.createCaptureBuffer dscBufferDesc dsCaptureBuffer outer env
  | .getCaps dscCaps => ((s.getCaps dscCaps).1, none)

/-! ## `DSFullDuplex` -/

/-- `DSFullDuplex`. -/
structure DSFullDuplex where
  mDS8Handle : Option DSound8OAL := none
  mDSCHandle : Option DSCapture := none

/-- The arguments of `DSFullDuplex::Initialize`, and what happens in the calls it makes. -/
structure FullDuplexArgs where
  captureGuid : Option Guid
  renderGuid : Option Guid
  dscBufferDesc : Option DSCBufferDesc
  dsBufferDesc : Option BufferDesc
  level : UInt32
  dsCaptureBuffer8 : Bool
  dsBuffer8 : Bool
  /-- There is memory for the `DSound8OAL`, and for the `DSCapture`. -/
  ds8 : Bool := true
  dsc : Bool := true
  device : DeviceEnv
  /-- The memory in `SetCooperativeLevel`, and in `CreateSoundBuffer`. -/
  levelMem : Memory := {}
  bufferMem : Memory := {}
  stringFromCLSID : Guid → String
  capture : CaptureEnv

/-- `PrimaryBuffer::QueryInterface`: the interface it adds a reference to. -/
def PrimaryBuffer.queryInterface : Riid → Option RefCounter
  | .iidUnknown | .iidDirectSoundBuffer => some .mDsRef
  | .iidDirectSound3DListener => some .mDs3dRef
  | .iidKsPropertySet => some .mPropRef
  | _ => none

namespace FullDuplexArgs

/-- The `DSound8OAL`, with its level set and its sound buffer created. -/
def openDS8 [Abi] (args : FullDuplexArgs) : Option (Except HResult DSound8OAL) :=
  if !args.ds8 then some (.error .fail)
  else
    let (hr, ds8) := (DSound8OAL.new true).initializeDevice args.renderGuid args.device
    if hr.failed then some (.error hr)
    else do
      let (hr, ds8) ← ds8.setCooperativeLevel args.level args.levelMem
      if hr.failed then some (.error hr)
      else do
        let (hr, ds8) ← ds8.createSoundBuffer args.dsBufferDesc true false args.bufferMem
        if hr.failed then some (.error hr) else some (.ok ds8)

/-- The `DSCapture`, once it has made a capture buffer. -/
def openDSC (args : FullDuplexArgs) : Except HResult DSCapture :=
  if !args.dsc then .error .fail
  else
    let (hr, dsc) := ({ mIs8 := true } : DSCapture).initializeCapture args.captureGuid
      args.device.sys args.stringFromCLSID
    if hr.failed then .error hr
    else
      let (hr, _) := dsc.createCaptureBuffer args.dscBufferDesc true false args.capture
      if hr.failed then .error hr else .ok dsc

/-- `QueryInterface` for `IID_IDirectSoundBuffer8` on the sound buffer, which is the primary
buffer or a secondary one. -/
def querySoundBuffer8 (args : FullDuplexArgs) : Option RefCounter :=
  match args.dsBufferDesc with
  | none => none
  | some desc =>
    if hasFlag desc.dwFlags Caps.primaryBuffer then
      PrimaryBuffer.queryInterface .iidDirectSoundBuffer8
    else
      (MultiObject.buffer true (hasFlag desc.dwFlags Caps.ctrl3D)
        (hasFlag desc.dwFlags Caps.ctrlPositionNotify)).queryInterface .iidDirectSoundBuffer8

end FullDuplexArgs

namespace DSFullDuplex

/-- `Initialize`. -/
def initializeFullDuplex [Abi] (s : DSFullDuplex) (args : FullDuplexArgs) :
    Option (HResult × DSFullDuplex) :=
  if !args.dsCaptureBuffer8 ∨ !args.dsBuffer8 then some (.invalidParam, s)
  else if s.mDS8Handle.isSome ∨ s.mDSCHandle.isSome then some (.alreadyInitialized, s)
  else do
    let ds8 ← args.openDS8
    match ds8 with
    | .error hr => some (hr, { s with mDS8Handle := none })
    | .ok ds8 =>
      match args.openDSC with
      | .error hr => some (hr, { mDS8Handle := none, mDSCHandle := none })
      | .ok dsc =>
        match args.querySoundBuffer8 with
        -- the reference to the primary buffer is released, the handles stay
        | none => some (.noInterface, {
            mDS8Handle := some { ds8 with mPrimaryBuffer := ds8.mPrimaryBuffer.release }
            mDSCHandle := some dsc })
        | some _ =>
          match (MultiObject.dscbuffer dsc.mIs8).queryInterface .iidDirectSoundCaptureBuffer8 with
          | none => some (.noInterface, { mDS8Handle := some ds8, mDSCHandle := some dsc })
          | some _ => some (.ok, { mDS8Handle := some ds8, mDSCHandle := some dsc })

end DSFullDuplex

/-! ## The factory -/

/-- The class identifiers of `sFactories` whose objects have one of the two interfaces. -/
inductive Clsid where
  | directSound8 | directSound | directSoundCapture8 | directSoundCapture | directSoundFullDuplex
  deriving DecidableEq, Repr

/-- An object of one of these classes. -/
inductive FactoryObject where
  | dsound (s : DSound8OAL)
  | capture (s : DSCapture)
  | fullDuplex (s : DSFullDuplex)

/-- `CreateObj`. -/
def createObj : Clsid → FactoryObject
  | .directSound8 => .dsound (.new true)
  | .directSound => .dsound (.new false)
  | .directSoundCapture8 => .capture { mIs8 := true }
  | .directSoundCapture => .capture { mIs8 := false }
  | .directSoundFullDuplex => .fullDuplex {}

/-- A call of a method of `IDirectSound8`, `IDirectSoundCapture` or
`IDirectSoundFullDuplex`. -/
inductive FactoryCall where
  | ds8 (c : DS8Call)
  | ds8Initialize (deviceId : Option Guid) (env : DeviceEnv)
  | dsc (c : DSCCall)
  | dscInitialize (guid : Option Guid) (sys : DefaultEndpoints) (stringFromCLSID : Guid → String)
  | fullDuplexInitialize (args : FullDuplexArgs)

/-- How a call ends. -/
inductive CallOutcome where
  /-- With a method called through `mShared`, `mDS8Handle` or `mDSCHandle` that is null. -/
  | absentHandle
  /-- With a result, and maybe a new capture buffer. -/
  | returned (hr : HResult) (buffer : Option DSCBuffer) (object : FactoryObject)

/-- How a call of a method of the `DSound8OAL` `s` ends, which is part of an object. -/
def DSound8OAL.outcome (s : DSound8OAL) (object : DSound8OAL → FactoryObject) :
    Option (HResult × DSound8OAL) → Option CallOutcome
  | none => if s.mShared.isNone then some .absentHandle else none
  | some (hr, s') => some (.returned hr none (object s'))

namespace DSFullDuplex

/-- A call of `DSFullDuplex::DS8`. -/
def callDS8 (s : DSFullDuplex) (call : DSound8OAL → Option (HResult × DSound8OAL)) :
    Option CallOutcome :=
  match s.mDS8Handle with
  | none => some .absentHandle
  | some ds8 => ds8.outcome (fun ds8 ↦ .fullDuplex { s with mDS8Handle := some ds8 }) (call ds8)

/-- A call of `DSFullDuplex::DSC`. -/
def callDSC (s : DSFullDuplex) (call : DSCapture → HResult × Option DSCBuffer × DSCapture) :
    Option CallOutcome :=
  match s.mDSCHandle with
  | none => some .absentHandle
  | some dsc =>
    let (hr, buffer, dsc) := call dsc
    some (.returned hr buffer (.fullDuplex { s with mDSCHandle := some dsc }))

end DSFullDuplex

namespace FactoryObject

/-- Perform a call.  There is none through an interface that the object does not have. -/
def exec [Abi] : FactoryObject → FactoryCall → Option CallOutcome
  | dsound s, .ds8 c => s.outcome dsound (s.ds8Call c)
  | dsound s, .ds8Initialize deviceId env =>
    s.outcome dsound (some (s.initializeDevice deviceId env))
  | capture s, .dsc c =>
    let (hr, buffer) := s.dscCall c
    some (.returned hr buffer (capture s))
  | capture s, .dscInitialize guid sys stringFromCLSID =>
    let (hr, s) := s.initializeCapture guid sys stringFromCLSID
    some (.returned hr none (capture s))
  | fullDuplex s, .ds8 c => s.callDS8 fun ds8 ↦ ds8.ds8Call c
  | fullDuplex s, .ds8Initialize deviceId env =>
    s.callDS8 fun ds8 ↦ some (ds8.initializeDevice deviceId env)
  | fullDuplex s, .dsc c => s.callDSC fun dsc ↦ ((dsc.dscCall c).1, (dsc.dscCall c).2, dsc)
  | fullDuplex s, .dscInitialize guid sys stringFromCLSID => s.callDSC fun dsc ↦
    let (hr, dsc) := dsc.initializeCapture guid sys stringFromCLSID
    (hr, none, dsc)
  | fullDuplex s, .fullDuplexInitialize args => do
    let (hr, s) ← s.initializeFullDuplex args
    some (.returned hr none (fullDuplex s))
  | _, _ => none

/-- Whether a call is the `Initialize` of the object. -/
def isInitialize : FactoryObject → FactoryCall → Bool
  | dsound _, .ds8Initialize .. | capture _, .dscInitialize ..
  | fullDuplex _, .fullDuplexInitialize _ => true
  | _, _ => false

end FactoryObject

/-- An object, and whether its `Initialize` has succeeded. -/
structure FactoryRun where
  object : FactoryObject
  initialized : Bool := false

/-- An object the class factory has just created. -/
def FactoryRun.IsNew (r : FactoryRun) : Prop := ∃ clsid, r = { object := createObj clsid }

/-- One call that returns. -/
def FactoryStep [Abi] (r : FactoryRun) (c : FactoryCall) (r' : FactoryRun) : Prop :=
  ∃ hr buffer, r.object.exec c = some (.returned hr buffer r'.object) ∧
    r'.initialized = (r.initialized || (r.object.isInitialize c && hr.succeeded))

end Dsoal
