import Dsoal.Core.Format
import Dsoal.Core.Source

/-!
# Secondary buffers

The data of a `Buffer` and the methods that touch nothing but the buffer itself
and the source counters of the device.  What a method reads of the object it
belongs to is collected in `Parent`; what it does to the lists of that object is
left to `DSound8OAL`, and the methods that have such an effect report it.

A method that may dereference a null `mBuffer` is an `Option`.
-/

namespace Dsoal

/-- A `HANDLE` of an event. -/
abbrev EventHandle := ℕ

/-- `Buffer::DirtyFlags`. -/
inductive BufferFlag where
  | position | velocity | coneAngles | coneOrientation | coneVolume | minDistance | maxDistance
  | mode
  deriving DecidableEq, Repr

/-- `std::bitset<FlagCount>` of the buffer flags. -/
abbrev BufferFlags := BufferFlag → Bool

namespace BufferFlags

/-- No flag. -/
def none : BufferFlags := fun _ ↦ false

/-- Every flag, `~0ull`. -/
def all : BufferFlags := fun _ ↦ true

/-- One flag. -/
def only (f : BufferFlag) : BufferFlags := fun g ↦ g = f

/-- The flags of either set. -/
def union (F G : BufferFlags) : BufferFlags := fun f ↦ F f || G f

/-- `flags.any()`. -/
def any (F : BufferFlags) : Bool :=
  F .position || F .velocity || F .coneAngles || F .coneOrientation || F .coneVolume ||
    F .minDistance || F .maxDistance || F .mode

end BufferFlags

/-- What a buffer reads of its `mParent`. -/
structure Parent where
  /-- `haveExtension`. -/
  mExtensions : Extensions
  /-- `getPrimary().getCurrentRolloffFactor()`. -/
  rolloffFactor : Float32
  /-- `getPriorityLevel()`. -/
  mPrioLevel : UInt32

/-- `Buffer`.  The number `born` is not part of the program: it counts the
constructions, and tells a buffer from a later one in the same slot. -/
structure Buffer where
  born : ℕ
  mBuffer : Option SharedBuffer
  /-- The source named by `mSource`, `none` for 0. -/
  mSource : Option Source := none
  mLastPos : UInt32 := 0
  mBufferLost : Bool := false
  mVolume : Int32 := 0
  mPan : Int32 := 0
  mFrequency : UInt32 := 0
  mImmediate : DS3DBuffer
  mDeferred : DS3DBuffer
  mDirty : BufferFlags := .none
  mLocStatus : LocStatus := .none
  mNotifies : List (PositionNotify EventHandle) := []
  mIs8 : Bool
  mIsInitialized : Bool := false

namespace Buffer

/-- Whether the buffer has one of the flags `mask` of its description. -/
def hasCaps (b : Buffer) (mask : UInt32) : Bool := b.mBuffer.any fun sb ↦ hasFlag sb.mFlags mask

/-- `mBuffer->mFlags & DSBCAPS_CTRL3D`. -/
def is3D (b : Buffer) : Bool := b.hasCaps Caps.ctrl3D

/-! ## Construction -/

/-- The 3D parameters of a new buffer. -/
def defaultParams : DS3DBuffer where
  dwSize := sizeofDS3DBuffer
  vPosition := .zero
  vVelocity := .zero
  dwInsideConeAngle := maxConeAngle
  dwOutsideConeAngle := maxConeAngle
  vConeOrientation := ⟨0, 0, 1⟩
  lConeOutsideVolume := 0
  flMinDistance := 1
  flMaxDistance := 1000000000
  dwMode := Mode.normal

/-- A buffer constructed without an original. -/
def fresh (born : ℕ) (is8 : Bool) : Buffer where
  born := born
  mBuffer := none
  mImmediate := defaultParams
  mDeferred := defaultParams
  mIs8 := is8

/-- A buffer constructed as a duplicate, which shares the storage of `orig` and
copies what its controls can have changed, apart from the volume. -/
def duplicate (born : ℕ) (is8 : Bool) (orig : Buffer) : Option Buffer := do
  let sb ← orig.mBuffer
  let b := fresh born is8
  let immediate := if hasFlag sb.mFlags Caps.ctrl3D then orig.mImmediate else b.mImmediate
  some { b with
    mBuffer := some sb
    mPan := if hasFlag sb.mFlags Caps.ctrlPan then orig.mPan else b.mPan
    mFrequency := if hasFlag sb.mFlags Caps.ctrlFrequency then orig.mFrequency else b.mFrequency
    mImmediate := immediate
    mDeferred := immediate }

end Buffer

namespace Buffer

open Store

/-! ## Writing to the source -/

/-- The calls that apply the mode `mode` to the source of a buffer with the parameters
`imm`.  The same block occurs in `setLocation`, in `setParams` and in `SetMode`. -/
def modeWrites (parent : Parent) (mode : UInt32) (imm : DS3DBuffer) : SourceWrites :=
  (if mode = Mode.disable then
    [(.position, .vector ⟨0, 0, -1⟩), (.velocity, .vector ⟨0, 0, 0⟩),
      (.direction, .vector ⟨0, 0, 0⟩), (.rolloffFactor, .float 0)] ++
    when parent.mExtensions.sourceSpatialize [(.sourceSpatialize, .bool false)]
  else
    [(.position, .vector imm.vPosition.flipZ), (.velocity, .vector imm.vVelocity.flipZ),
      (.direction, .vector imm.vConeOrientation.flipZ),
      (.rolloffFactor, .float parent.rolloffFactor)] ++
    when parent.mExtensions.sourceSpatialize [(.sourceSpatialize, .bool true)]) ++
  [(.sourceRelative, .bool (mode ≠ Mode.normal))]

/-- The calls of `setLocation` that set the attributes of the source. -/
def locationWrites (parent : Parent) (b : Buffer) (sb : SharedBuffer) : SourceWrites :=
  [(.gain, .float (mBToGain b.mVolume)),
    (.pitch, .float (if b.mFrequency = 0 then 1
      else floatOfDword b.mFrequency / floatOfDword sb.mWfxFormat.nSamplesPerSec))] ++
  if hasFlag sb.mFlags Caps.ctrl3D then
    modeWrites parent b.mImmediate.dwMode b.mImmediate ++
    [(.coneInnerAngle, .float (floatOfDword b.mImmediate.dwInsideConeAngle)),
      (.coneOuterAngle, .float (floatOfDword b.mImmediate.dwOutsideConeAngle)),
      (.coneOuterGain, .float (mBToGain b.mImmediate.lConeOutsideVolume)),
      (.referenceDistance, .float b.mImmediate.flMinDistance),
      (.maxDistance, .float b.mImmediate.flMaxDistance)]
  else
    [(.rolloffFactor, .float 0), (.sourceRelative, .bool true)] ++
    when parent.mExtensions.sourcePanning
      [(.panningEnabled, .bool true), (.pan, .float (panValue b.mPan))]

/-- Set attributes of the source, if the buffer has one. -/
def writeSource (b : Buffer) (ws : SourceWrites) : Buffer :=
  { b with mSource := b.mSource.map fun src ↦ { src with attrs := write ws src.attrs } }

/-! ## Locations -/

/-- The part of `setLocation` that gives up the source of another location. -/
def leaveLocation (b : Buffer) (dev : DeviceSources) : Buffer × DeviceSources :=
  match b.mLocStatus with
  | .none => (b, dev)
  | l => ({ b with mSource := none, mLocStatus := .none }, dev.decSources l)

/-- `Buffer::setLocation`; generating a source succeeds. -/
def setLocation (parent : Parent) (b : Buffer) (dev : DeviceSources) (want : LocStatus) :
    Option (HResult × Buffer × DeviceSources) :=
  if want ≠ .none ∧ b.mLocStatus = want then some (.ok, b, dev)
  else if want = .none ∧ b.mLocStatus ≠ .none then some (.ok, b, dev)
  else
    let (b, dev) := b.leaveLocation dev
    match dev.acquire want with
    | none => some (.allocated, b, dev)
    | some (k, dev) => do
      let sb ← b.mBuffer
      let b := { b with mSource := some (b.mSource.getD {}) }
      some (.ok, { b.writeSource (b.locationWrites parent sb) with mLocStatus := .loc k }, dev)

/-- The location `Play` and `AcquireResources` ask for with their flags. -/
def wantedLocation (flags : UInt32) : LocStatus :=
  if hasFlag flags PlayFlags.locHardware then .hardware
  else if hasFlag flags PlayFlags.locSoftware then .software
  else .none

/-- How `Play` and `AcquireResources` locate a buffer with `DSBCAPS_LOCDEFER`. -/
def deferredLocation (parent : Parent) (b : Buffer) (dev : DeviceSources) (flags : UInt32) :
    Option (HResult × Buffer × DeviceSources) :=
  if hasFlag flags PlayFlags.locSoftware ∧ hasFlag flags PlayFlags.locHardware then
    some (.invalidParam, b, dev)
  else
    let loc := wantedLocation flags
    if loc ≠ .none ∧ b.mLocStatus ≠ .none ∧ loc ≠ b.mLocStatus ∧ isPlaying b.mSource then
      some (.invalidParam, b, dev)
    else b.setLocation parent dev loc

/-! ## Initialization and destruction

`Initialize` registers a 3D buffer between its two halves. -/

/-- The storage `Buffer::Initialize` works with: the one of the original for a
duplicate, otherwise a new one. -/
def storage (b : Buffer) (exts : Extensions) (dsBufferDesc : Option BufferDesc) (memory : Bool) :
    Except HResult SharedBuffer :=
  match b.mBuffer, dsBufferDesc with
  | some sb, _ => .ok sb
  | none, none => .error .invalidParam
  | none, some desc =>
    match desc.lpwfxFormat with
    | none => .error .invalidParam
    | some format =>
      if hasFlag desc.dwFlags Caps.ctrl3D ∧ format.nChannels ≠ 1 ∧ b.mIs8 then
        .error .invalidParam
      else SharedBuffer.create desc format exts memory

/-- The first half of `Buffer::Initialize`: find the storage and the frequency. -/
def attach (b : Buffer) (exts : Extensions) (dsBufferDesc : Option BufferDesc) (memory : Bool) :
    Except HResult Buffer :=
  if b.mIsInitialized then .error .alreadyInitialized
  else
    match b.storage exts dsBufferDesc memory with
    | .error hr => .error hr
    | .ok sb => .ok { b with
        mBuffer := some sb
        mFrequency := if b.mFrequency = 0 then sb.mWfxFormat.nSamplesPerSec else b.mFrequency }

/-- The location a description asks for. -/
def describedLocation (flags : UInt32) : LocStatus :=
  if hasFlag flags Caps.locHardware then .hardware
  else if hasFlag flags Caps.locSoftware then .software
  else .none

/-- The second half of `Buffer::Initialize`: locate the buffer, unless that is
deferred. -/
def initLocation (parent : Parent) (b : Buffer) (dev : DeviceSources) :
    Option (HResult × Buffer × DeviceSources) := do
  let sb ← b.mBuffer
  let (hr, b, dev) ←
    if hasFlag sb.mFlags Caps.locDefer then some (.ok, b, dev)
    else b.setLocation parent dev (describedLocation sb.mFlags)
  some (hr, { b with mIsInitialized := hr.succeeded }, dev)

/-! ## Playing -/

/-- `Play`, once the buffer is located.  `started` says whether OpenAL starts the
source.  The last component says whether the buffer is to be polled. -/
def start (b : Buffer) (sb : SharedBuffer) (flags : UInt32) (started : Bool) :
    HResult × Buffer × Bool :=
  match b.mSource with
  | none => (.generic, { b with mLastPos := b.mLastPos % sb.dataSize }, false)
  | some src =>
    let src := { src with looping := hasFlag flags PlayFlags.looping }
    if src.state = .playing then (.ok, { b with mSource := some src }, false)
    else
      let lastPos := b.mLastPos % sb.dataSize
      let src := if src.state = .initial then { src with byteOffset := lastPos } else src
      if started then
        (.ok, { b with mSource := some { src with state := .playing }, mLastPos := lastPos },
          hasFlag sb.mFlags Caps.ctrlPositionNotify && !b.mNotifies.isEmpty)
      else (.generic, { b with mSource := some src, mLastPos := lastPos }, false)

/-- `Buffer::Play`. -/
def play (parent : Parent) (b : Buffer) (dev : DeviceSources) (priority flags : UInt32)
    (started : Bool) : Option (HResult × Buffer × DeviceSources × Bool) := do
  if b.mBufferLost then some (.bufferLost, b, dev, false)
  else
    let sb ← b.mBuffer
    if hasFlag sb.mFlags Caps.locDefer then
      let (hr, b, dev) ← b.deferredLocation parent dev flags
      if hr.failed then some (hr, b, dev, false)
      else
        let (hr, b, notify) := b.start sb flags started
        some (hr, b, dev, notify)
    else if priority ≠ 0 then some (.invalidParam, b, dev, false)
    else
      let (hr, b, notify) := b.start sb flags started
      some (hr, b, dev, notify)

/-- What `Buffer::Stop` does to a source. -/
def pause (b : Buffer) : Buffer := { b with mSource := b.mSource.map Source.pause }

/-- The position `Buffer::Stop` keeps. -/
def stopPos (sb : SharedBuffer) (src : Source) : UInt32 :=
  if src.state = .stopped then sb.dataSize else src.ioffset

/-- `Buffer::updateNotify`: the notifications it signals, the buffer afterwards, and
whether the buffer is to be polled again. -/
def updateNotify (b : Buffer) : Option (List (PositionNotify EventHandle) × Buffer × Bool) := do
  let sb ← b.mBuffer
  let state := b.mSource.elim .initial Source.state
  let ioffset := b.mSource.elim 0 Source.ioffset
  let (hit, lastPos, again) :=
    Dsoal.updateNotify sb.dataSize.toNat b.mNotifies b.mLastPos state ioffset
  some (hit, { b with mLastPos := lastPos }, again)

/-- `Buffer::SetCurrentPosition`. -/
def setCurrentPosition (b : Buffer) (newPosition : UInt32) : Option (HResult × Buffer) := do
  let sb ← b.mBuffer
  if newPosition ≥ sb.dataSize then some (.invalidParam, b)
  else
    let newPosition := newPosition - newPosition % sb.mWfxFormat.nBlockAlign.toUInt32
    some (.ok, { b with
      mSource := b.mSource.map fun src ↦ { src with byteOffset := newPosition }
      mLastPos := newPosition })

/-- `Buffer::GetStatus`. -/
def getStatus (b : Buffer) : Option UInt32 :=
  if b.mBufferLost then some Status.bufferLost
  else do
    let sb ← b.mBuffer
    let loc : UInt32 :=
      if hasFlag sb.mFlags Caps.locDefer then
        match b.mLocStatus with
        | .none => 0
        | .hardware => Status.locHardware
        | .software => Status.locSoftware
      else 0
    let looping : UInt32 := if b.mSource.any Source.looping then Status.looping else 0
    some (if isPlaying b.mSource then loc ||| (Status.playing ||| looping) else loc)

/-! ## Volume, pan and frequency -/

/-- `Buffer::SetVolume`. -/
def setVolume (b : Buffer) (volume : Int32) : Option (HResult × Buffer) := do
  if !validVolume volume then some (.invalidParam, b)
  else
    let sb ← b.mBuffer
    if !hasFlag sb.mFlags Caps.ctrlVolume then some (.controlUnavail, b)
    else
      let b := { b with mVolume := volume }
      some (.ok, b.writeSource [(.gain, .float (mBToGain volume))])

/-- `Buffer::SetPan`. -/
def setPan (parent : Parent) (b : Buffer) (pan : Int32) : Option (HResult × Buffer) := do
  if !validPan pan then some (.invalidParam, b)
  else
    let sb ← b.mBuffer
    if !hasFlag sb.mFlags Caps.ctrlPan then some (.controlUnavail, b)
    else
      let b := { b with mPan := pan }
      if !hasFlag sb.mFlags Caps.ctrl3D ∧ parent.mExtensions.sourcePanning then
        some (.ok, b.writeSource [(.pan, .float (panValue pan))])
      else some (.ok, b)

/-- `Buffer::SetFrequency`; 0 stands for the rate of the format. -/
def setFrequency (b : Buffer) (frequency : UInt32) : Option (HResult × Buffer) := do
  if frequency ≠ 0 ∧ (frequency < frequencyMin ∨ frequency > frequencyMax) then
    some (.invalidParam, b)
  else
    let sb ← b.mBuffer
    if !hasFlag sb.mFlags Caps.ctrlFrequency then some (.controlUnavail, b)
    else
      let rate := sb.mWfxFormat.nSamplesPerSec
      let b := { b with mFrequency := if frequency ≠ 0 then frequency else rate }
      some (.ok, b.writeSource [(.pitch, .float (floatOfDword b.mFrequency / floatOfDword rate))])

/-! ## Lost buffers and resources -/

/-- `Buffer::Restore`; `isWriteEmu` says whether the buffer emulates writing to the
primary buffer. -/
def restore (parent : Parent) (isWriteEmu : Bool) (b : Buffer) : HResult × Buffer :=
  if parent.mPrioLevel = Level.writePrimary ∧ !isWriteEmu then (.bufferLost, b)
  else (.ok, { b with mBufferLost := false })

/-- `Buffer::AcquireResources`; `resultCodes` says whether that pointer is given. -/
def acquireResources (parent : Parent) (b : Buffer) (dev : DeviceSources)
    (flags effectsCount : UInt32) (resultCodes : Bool) :
    Option (HResult × Buffer × DeviceSources) := do
  if b.mBufferLost then some (.bufferLost, b, dev)
  else if effectsCount ≠ 0 ∨ resultCodes then some (.invalidParam, b, dev)
  else
    let sb ← b.mBuffer
    if hasFlag sb.mFlags Caps.locDefer then b.deferredLocation parent dev flags
    else some (.ok, b, dev)

/-- OpenAL mixes the source of the buffer. -/
def mix (b : Buffer) (offset : UInt32) (ended : Bool) : Buffer :=
  { b with mSource := b.mSource.map fun src ↦ src.advance offset ended }

/-- The source `Prop::Set` generates for a buffer that has none. -/
def genSource (b : Buffer) : Buffer := { b with mSource := some (b.mSource.getD {}) }

end Buffer

end Dsoal
