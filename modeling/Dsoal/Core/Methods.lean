import Dsoal.Core.DSound
import Dsoal.Slots.Run

/-!
# Calls and runs

The methods an application calls, and the transition system of one `DSound8OAL`:
calls, polls of the notify thread, and what happens outside the object, in any
order.

What an `Op` may be is restricted only by `Op.Legal`, which says that the memory
allocator returns arrays that overlap no live one.  A call through a pointer to a
destroyed buffer has no step.
-/

namespace Dsoal

/-- A call on a buffer that changes nothing but the buffer. -/
inductive BufferCall where
  | setVolume (volume : Int32)
  | setPan (pan : Int32)
  | setFrequency (frequency : UInt32)
  | setCurrentPosition (newPosition : UInt32)
  | restore
  /-- A call of `IDirectSound3DBuffer`. -/
  | call3D (c : Buffer3DCall) (apply : UInt32)

/-- Perform a call.  Only a 3D buffer has an `IDirectSound3DBuffer` interface. -/
def Buffer.call (parent : Parent) (b : Buffer) : BufferCall → Option (HResult × Buffer)
  | .setVolume volume => b.setVolume volume
  | .setPan pan => b.setPan parent pan
  | .setFrequency frequency => b.setFrequency frequency
  | .setCurrentPosition newPosition => b.setCurrentPosition newPosition
  | .restore => some (b.restore parent false)
  | .call3D c apply => if b.is3D then some (b.call3D parent c apply) else none

namespace DSound8OAL

/-! ## Secondary buffers -/

/-- A call on a secondary buffer. -/
def bufferCall (s : DSound8OAL) (p : Ptr) (c : BufferCall) : Option (HResult × DSound8OAL) := do
  let b ← s.getBuffer p
  let (hr, b) ← b.call s.parent c
  some (hr, s.setBuffer p b)

/-- `Buffer::AcquireResources`. -/
def acquireResources (s : DSound8OAL) (p : Ptr) (flags effectsCount : UInt32)
    (resultCodes : Bool) : Option (HResult × DSound8OAL) := do
  let b ← s.getBuffer p
  let dev ← s.mShared
  let (hr, b, dev) ← b.acquireResources s.parent dev flags effectsCount resultCodes
  some (hr, { s.setBuffer p b with mShared := some dev })

/-- `Buffer::Play`. -/
def play (s : DSound8OAL) (p : Ptr) (priority flags : UInt32) (started : Bool) :
    Option (HResult × DSound8OAL) := do
  let b ← s.getBuffer p
  let dev ← s.mShared
  let (hr, b, dev, notify) ← b.play s.parent dev priority flags started
  let s := { s.setBuffer p b with mShared := some dev }
  some (hr, if notify then s.addNotifyBuffer p b else s)

/-- `Buffer::Stop`. -/
def stop (s : DSound8OAL) (p : Ptr) : Option (HResult × DSound8OAL) := do
  let b ← s.getBuffer p
  match b.mSource with
  | none => some (.ok, s)
  | some src => do
    let sb ← b.mBuffer
    let s := s.setBuffer p b.pause
    let s ←
      if hasFlag sb.mFlags Caps.ctrlPositionNotify then
        s.triggerNotifies.map fun s ↦ s.removeNotifyBuffer p
      else some s
    let b ← s.getBuffer p
    some (.ok, s.setBuffer p { b with mLastPos := Buffer.stopPos sb src.pause })

/-- `SetNotificationPositions`; `none` is a null pointer with a positive count.  Only
a buffer with `DSBCAPS_CTRLPOSITIONNOTIFY` has an `IDirectSoundNotify` interface. -/
def setNotificationPositions (s : DSound8OAL) (p : Ptr)
    (notifies : Option (List (PositionNotify EventHandle))) : Option (HResult × DSound8OAL) := do
  let b ← s.getBuffer p
  let sb ← b.mBuffer
  if !hasFlag sb.mFlags Caps.ctrlPositionNotify then none
  else
    match notifies with
    | none => some (.invalidParam, s)
    | some notifies =>
      if isPlaying b.mSource then some (.invalidCall, s)
      else do
        let s ←
          if b.mSource.isSome && s.isPendingNotify p then
            s.triggerNotifies.map fun s ↦ s.removeNotifyBuffer p
          else some s
        match notificationPositions sb.dataSize.toNat notifies with
        | none => some (.invalidParam, s)
        | some newNots => do
          let b ← s.getBuffer p
          some (.ok, s.setBuffer p { b with mNotifies := newNots })

/-- `Prop::Set` of an EAX property of the buffer; `accepted` is the verdict of the EAX
implementation.  An immediate property commits the deferred settings. -/
def eaxSet (s : DSound8OAL) (p : Ptr) (immediate accepted : Bool) :
    Option (HResult × DSound8OAL) := do
  let b ← s.getBuffer p
  if !s.mExtensions.eax then some (.propIdUnsupported, s)
  else
    let s := s.setBuffer p b.genSource
    if !accepted then some (.fail, s)
    else if immediate then s.commit.map fun s ↦ (.ok, s)
    else some (.ok, s)

/-! ## The primary buffer -/

/-- `PrimaryBuffer::Initialize`. -/
def primaryInitialize (s : DSound8OAL) (dsBufferDesc : Option BufferDesc) (mem : Memory) :
    Option (HResult × DSound8OAL) :=
  match dsBufferDesc with
  | none => some (.invalidParam, s)
  | some desc =>
    if desc.lpwfxFormat.isSome ∨ desc.dwBufferBytes ≠ 0 then some (.invalidParam, s)
    else if hasFlag desc.dwFlags (Caps.ctrlFX ||| Caps.ctrlPositionNotify) then
      some (.invalidParam, s)
    else if s.mPrimaryBuffer.mFlags ≠ 0 then some (.alreadyInitialized, s)
    else do
      let (hr, s) ←
        if s.mPrioLevel = Level.writePrimary then
          s.destroyWriteEmu.bind fun s ↦ s.createWriteEmu desc.dwFlags mem
        else some (.ok, s)
      if hr.failed then some (hr, s)
      else do
        let primary := { s.mPrimaryBuffer with
          mFlags := (desc.dwFlags &&& ~~~Caps.locSoftware) ||| Caps.locHardware
          mImmediate := PrimaryBuffer.defaultParams
          mDeferred := PrimaryBuffer.defaultParams
          mDirty := .none }
        let s ← { s with mPrimaryBuffer := primary }.setListenerParams primary.mDeferred .all
        some (.ok, s)

/-- The part of `CreateSoundBuffer` that returns the primary buffer. -/
def createPrimary (s : DSound8OAL) (desc : BufferDesc) (mem : Memory) :
    Option (HResult × DSound8OAL) :=
  let (ref, primary) := s.mPrimaryBuffer.addRef
  let s := { s with mPrimaryBuffer := primary }
  if ref = 1 ∧ primary.mFlags = 0 then do
    let (hr, s) ← s.primaryInitialize (some desc) mem
    if hr.failed then some (hr, { s with mPrimaryBuffer := s.mPrimaryBuffer.release })
    else some (hr, s)
  else some (.ok, s)

/-- `PrimaryBuffer::Play`. -/
def primaryPlay (s : DSound8OAL) (priority flags : UInt32) (started : Bool) :
    Option (HResult × DSound8OAL) :=
  if !hasFlag flags PlayFlags.looping then some (.invalidParam, s)
  else
    match s.mPrimaryBuffer.mWriteEmu with
    | none => some (.ok, { s with mPrimaryBuffer := { s.mPrimaryBuffer with mPlaying := true } })
    | some emu => do
      let dev ← s.mShared
      let (hr, emu, dev, _) ← emu.play s.parent dev priority flags started
      let playing := if hr.succeeded then true else s.mPrimaryBuffer.mPlaying
      some (hr, { s with
        mShared := some dev
        mPrimaryBuffer := { s.mPrimaryBuffer with mWriteEmu := some emu, mPlaying := playing } })

/-- `PrimaryBuffer::Stop`; the write-emulation buffer returns to its start. -/
def primaryStop (s : DSound8OAL) : Option (HResult × DSound8OAL) :=
  match s.mPrimaryBuffer.mWriteEmu with
  | none => some (.ok, { s with mPrimaryBuffer := { s.mPrimaryBuffer with mPlaying := false } })
  | some emu => do
    let sb ← emu.mBuffer
    let emu := match emu.mSource with
      | none => emu
      | some src => { emu.pause with mLastPos := Buffer.stopPos sb src.pause }
    let (_, emu) ← emu.setCurrentPosition 0
    some (.ok, { s with
      mPrimaryBuffer := { s.mPrimaryBuffer with mWriteEmu := some emu, mPlaying := false } })

/-- `PrimaryBuffer::SetFormat`; a new format makes a new write-emulation buffer. -/
def setFormat (s : DSound8OAL) (wfx : Option WaveFormat) (mem : Memory) :
    Option (HResult × DSound8OAL) :=
  match wfx with
  | none => some (.invalidParam, s)
  | some wfx =>
    if s.mPrioLevel < Level.priority then some (.prioLevelNeeded, s)
    else if wfx.wFormatTag = formatExtensible ∧ wfx.cbSize < extExtraSize then some (.ok, s)
    else
      match PrimaryBuffer.copyFormat wfx with
      | none => some (.invalidParam, s)
      | some format =>
        let s := { s with mPrimaryBuffer := { s.mPrimaryBuffer with mFormat := format } }
        if s.mPrimaryBuffer.mWriteEmu.isSome then
          s.destroyWriteEmu.bind fun s ↦ s.createWriteEmu s.mPrimaryBuffer.mFlags mem
        else some (.ok, s)

/-- `PrimaryBuffer::SetVolume`. -/
def primarySetVolume (s : DSound8OAL) (volume : Int32) : HResult × DSound8OAL :=
  if !validVolume volume then (.invalidParam, s)
  else if !hasFlag s.mPrimaryBuffer.mFlags Caps.ctrlVolume then (.controlUnavail, s)
  else (.ok, { s with
    mPrimaryBuffer := { s.mPrimaryBuffer with mVolume := volume }
    alListener := { s.alListener with gain := mBToGain volume } })

/-- `PrimaryBuffer::SetPan`. -/
def primarySetPan (s : DSound8OAL) (pan : Int32) : Option (HResult × DSound8OAL) :=
  if !validPan pan then some (.invalidParam, s)
  else if !hasFlag s.mPrimaryBuffer.mFlags Caps.ctrlPan then some (.controlUnavail, s)
  else
    match s.mPrimaryBuffer.mWriteEmu with
    | none => some (.ok, { s with mPrimaryBuffer := { s.mPrimaryBuffer with mPan := pan } })
    | some emu => do
      let (hr, emu) ← emu.setPan s.parent pan
      let pan := if hr.succeeded then pan else s.mPrimaryBuffer.mPan
      some (hr, { s with
        mPrimaryBuffer := { s.mPrimaryBuffer with mWriteEmu := some emu, mPan := pan } })

/-- `PrimaryBuffer::Restore`. -/
def primaryRestore (s : DSound8OAL) : HResult × DSound8OAL :=
  match s.mPrimaryBuffer.mWriteEmu with
  | none => (.ok, s)
  | some emu =>
    let (hr, emu) := emu.restore s.parent true
    (hr, { s with mPrimaryBuffer := { s.mPrimaryBuffer with mWriteEmu := some emu } })

/-! ## The object -/

/-- `CreateSoundBuffer`.  The flags say whether the pointer for the result and the
outer object are given. -/
def createSoundBuffer [Abi] (s : DSound8OAL) (bufferDesc : Option BufferDesc)
    (dsBuffer outer : Bool) (mem : Memory) : Option (HResult × DSound8OAL) :=
  if !dsBuffer then some (.invalidParam, s)
  else if outer then some (.noAggregation, s)
  else
    match bufferDesc with
    | none => some (.invalidParam, s)
    | some desc =>
      if desc.dwSize < sizeofBufferDesc1 then some (.invalidParam, s)
      else if s.mShared.isNone then some (.uninitialized, s)
      else if hasFlag desc.dwFlags Caps.primaryBuffer then s.createPrimary desc mem
      else if hasFlag desc.dwFlags Caps.ctrl3D ∧ hasFlag desc.dwFlags Caps.ctrlPan ∧ s.mIs8 then
        some (.invalidParam, s)
      else do
        let (p, s) ← s.construct (.fresh s.nextBorn s.mIs8) mem
        s.initializeNew p (some desc) mem.samples

/-- `DuplicateSoundBuffer` of a secondary buffer. -/
def duplicateSoundBuffer [Abi] (s : DSound8OAL) (original : Option Ptr) (duplicate : Bool)
    (mem : Memory) : Option (HResult × DSound8OAL) :=
  if s.mShared.isNone then some (.uninitialized, s)
  else
    match original with
    | none => some (.invalidParam, s)
    | some p =>
      if !duplicate then some (.invalidParam, s)
      else do
        let orig ← s.getBuffer p
        let sb ← orig.mBuffer
        if hasFlag sb.mFlags Caps.primaryBuffer then some (.invalidParam, s)
        else if hasFlag sb.mFlags Caps.ctrlFX then some (.invalidParam, s)
        else
          let b ← Buffer.duplicate s.nextBorn s.mIs8 orig
          match s.construct b mem with
          | none => some (.outOfMemory, s)
          | some (q, s) => s.initializeNew q none mem.samples

/-- The walk of `SetCooperativeLevel` over the live buffers, which stops at a playing
one. -/
def loseBuffers : List Ptr → DSound8OAL → Option (HResult × DSound8OAL)
  | [], s => some (.ok, s)
  | p :: ps, s => do
    let b ← s.getBuffer p
    let status ← b.getStatus
    if hasFlag status Status.playing then some (.invalidCall, s)
    else loseBuffers ps (s.setBuffer p { b with mBufferLost := true })

/-- The part of `SetCooperativeLevel` that enters `DSSCL_WRITEPRIMARY`. -/
def enterWritePrimary (s : DSound8OAL) (mem : Memory) : Option (HResult × DSound8OAL) := do
  let s ← s.destroyWriteEmu
  let (hr, s) ← s.loseBuffers (livePtrs s.mSecondaryBuffers)
  if hr.failed then some (hr, s)
  else if s.mPrimaryBuffer.mFlags ≠ 0 then s.createWriteEmu s.mPrimaryBuffer.mFlags mem
  else some (hr, s)

/-- `SetCooperativeLevel`. -/
def setCooperativeLevel (s : DSound8OAL) (level : UInt32) (mem : Memory) :
    Option (HResult × DSound8OAL) :=
  if s.mShared.isNone then some (.uninitialized, s)
  else if level > Level.writePrimary ∨ level < Level.normal then some (.invalidParam, s)
  else do
    let (hr, s) ←
      if level = Level.writePrimary ∧ s.mPrioLevel ≠ Level.writePrimary then
        s.enterWritePrimary mem
      else if level < Level.writePrimary ∧ s.mPrioLevel = Level.writePrimary then
        s.destroyWriteEmu.map fun s ↦ (.ok, s)
      else some (.ok, s)
    some (hr, if hr.succeeded then { s with mPrioLevel := level } else s)

/-- `DSound8OAL::Initialize`.  The device, with its extensions, is what
`SharedDevice::GetById` returns, and `allocs` is what the allocator does in the loop
that preallocates groups. -/
def initializeObject (s : DSound8OAL) (shared : Except HResult (DeviceSources × Extensions))
    (allocs : List (Option ℕ × Bool)) : HResult × DSound8OAL :=
  if s.mShared.isSome then (.alreadyInitialized, s)
  else
    match shared with
    | .error hr => (hr, s)
    | .ok (dev, exts) => (.ok, { s with
        mShared := some dev
        mExtensions := exts
        mSecondaryBuffers := preallocate allocs s.mSecondaryBuffers })

/-- The number of groups `Initialize` preallocates. -/
def numGroups (dev : DeviceSources) : ℕ := ((dev.mMaxSources .hw + 63) / 64).toNat

/-! ## Outside the object -/

/-- A round of the notify thread, once it has been started. -/
def poll (s : DSound8OAL) : Option DSound8OAL :=
  if s.mNotifyThread then s.triggerNotifies else none

/-- OpenAL mixes the source of a buffer; `none` stands for the write-emulation
buffer. -/
def mix (s : DSound8OAL) (p : Option Ptr) (offset : UInt32) (ended : Bool) : Option DSound8OAL :=
  match p with
  | none => do
    let emu ← s.mPrimaryBuffer.mWriteEmu
    some { s with mPrimaryBuffer := { s.mPrimaryBuffer with
      mWriteEmu := some (emu.mix offset ended) } }
  | some p => do
    let b ← s.getBuffer p
    some (s.setBuffer p (b.mix offset ended))

/-- Other objects on the device take and return sources. -/
def otherSources (s : DSound8OAL) (current : Pool → UInt32) : DSound8OAL :=
  { s with mShared := s.mShared.map fun dev ↦ { dev with mCurrentSources := current } }

end DSound8OAL

/-! ## The transition system -/

/-- A call on the primary buffer. -/
inductive PrimaryCall where
  | addRef
  | release
  | listenerAddRef
  | listenerRelease
  | propAddRef
  | propRelease
  | initializePrimary (dsBufferDesc : Option BufferDesc) (mem : Memory)
  | play (priority flags : UInt32) (started : Bool)
  | stop
  | setFormat (wfx : Option WaveFormat) (mem : Memory)
  | setVolume (volume : Int32)
  | setPan (pan : Int32)
  | restore

/-- What happens in one step. -/
inductive Op where
  | initializeObject (shared : Except HResult (DeviceSources × Extensions))
      (allocs : List (Option ℕ × Bool))
  | createSoundBuffer (bufferDesc : Option BufferDesc) (dsBuffer outer : Bool) (mem : Memory)
  | duplicateSoundBuffer (original : Option Ptr) (duplicate : Bool) (mem : Memory)
  | setCooperativeLevel (level : UInt32) (mem : Memory)
  /-- The last `Release` of a buffer. -/
  | release (p : Ptr)
  | bufferInitialize (p : Ptr) (dsBufferDesc : Option BufferDesc) (mem : Memory)
  | buffer (p : Ptr) (c : BufferCall)
  | acquireResources (p : Ptr) (flags effectsCount : UInt32) (resultCodes : Bool)
  | play (p : Ptr) (priority flags : UInt32) (started : Bool)
  | stop (p : Ptr)
  | setNotificationPositions (p : Ptr) (notifies : Option (List (PositionNotify EventHandle)))
  | eaxSet (p : Ptr) (immediate accepted : Bool)
  | primary (c : PrimaryCall)
  | listener (c : ListenerCall) (apply : UInt32)
  | commitDeferredSettings
  | poll
  | mix (p : Option Ptr) (offset : UInt32) (ended : Bool)
  | otherSources (current : Pool → UInt32)

namespace DSound8OAL

/-- Perform a call on the primary buffer. -/
def primaryCall (s : DSound8OAL) : PrimaryCall → Option (HResult × DSound8OAL)
  | .addRef => some (.ok, { s with mPrimaryBuffer := s.mPrimaryBuffer.addRef.2 })
  | .release => some (.ok, { s with mPrimaryBuffer := s.mPrimaryBuffer.release })
  | .listenerAddRef => some (.ok, { s with mPrimaryBuffer := s.mPrimaryBuffer.listenerAddRef })
  | .listenerRelease => some (.ok, { s with mPrimaryBuffer := s.mPrimaryBuffer.listenerRelease })
  | .propAddRef => some (.ok, { s with mPrimaryBuffer := s.mPrimaryBuffer.propAddRef })
  | .propRelease => some (.ok, { s with mPrimaryBuffer := s.mPrimaryBuffer.propRelease })
  | .initializePrimary dsBufferDesc mem => s.primaryInitialize dsBufferDesc mem
  | .play priority flags started => s.primaryPlay priority flags started
  | .stop => s.primaryStop
  | .setFormat wfx mem => s.setFormat wfx mem
  | .setVolume volume => some (s.primarySetVolume volume)
  | .setPan pan => s.primarySetPan pan
  | .restore => some s.primaryRestore

/-- Perform one step. -/
def exec [Abi] (s : DSound8OAL) : Op → Option (HResult × DSound8OAL)
  | .initializeObject shared allocs => some (s.initializeObject shared allocs)
  | .createSoundBuffer bufferDesc dsBuffer outer mem =>
    s.createSoundBuffer bufferDesc dsBuffer outer mem
  | .duplicateSoundBuffer original duplicate mem => s.duplicateSoundBuffer original duplicate mem
  | .setCooperativeLevel level mem => s.setCooperativeLevel level mem
  | .release p => do
    let _ ← s.getBuffer p
    let s ← s.dispose p
    some (.ok, s)
  | .bufferInitialize p dsBufferDesc mem => s.initializeBuffer p dsBufferDesc mem.samples
  | .buffer p c => s.bufferCall p c
  | .acquireResources p flags effectsCount resultCodes =>
    s.acquireResources p flags effectsCount resultCodes
  | .play p priority flags started => s.play p priority flags started
  | .stop p => s.stop p
  | .setNotificationPositions p notifies => s.setNotificationPositions p notifies
  | .eaxSet p immediate accepted => s.eaxSet p immediate accepted
  | .primary c => s.primaryCall c
  | .listener c apply => s.callListener c apply
  | .commitDeferredSettings => s.commit.map fun s ↦ (.ok, s)
  | .poll => s.poll.map fun s ↦ (.ok, s)
  | .mix p offset ended => (s.mix p offset ended).map fun s ↦ (.ok, s)
  | .otherSources current => some (.ok, s.otherSources current)

/-- A new object. -/
def new (is8 : Bool) : DSound8OAL where
  mIs8 := is8

end DSound8OAL

/-- The memory allocator returns arrays that overlap no live one, and the loop of
`Initialize` runs as often as it is written. -/
def Op.Legal [Abi] (s : DSound8OAL) : Op → Prop
  | .initializeObject (.ok (dev, _)) allocs =>
    allocs.length = DSound8OAL.numGroups dev ∧ FreshAllocs allocs s.mSecondaryBuffers
  | .createSoundBuffer _ _ _ mem | .duplicateSoundBuffer _ _ mem =>
    ∀ b, mem.group = some b → FreshBase b s.mSecondaryBuffers
  | _ => True

/-- One step of a `DSound8OAL`. -/
def DSoundStep [Abi] (s : DSound8OAL) (op : Op) (s' : DSound8OAL) : Prop :=
  op.Legal s ∧ ∃ hr, s.exec op = some (hr, s')

/-- A new object, before `Initialize`. -/
def DSound8OAL.IsNew (s : DSound8OAL) : Prop := ∃ is8, s = .new is8

end Dsoal
