import Dsoal.Core.Buffer

/-!
# The primary buffer and the listener

The data of the `PrimaryBuffer`, which is a member of `DSound8OAL`, and the parts
of its methods that touch nothing else.  The setters of `IDirectSound3DListener`
defer and apply parameters as the setters of a 3D buffer do; the rolloff factor
belongs to the sources in OpenAL, and changing it is a walk over the 3D buffers.
-/

namespace Dsoal

/-- `PrimaryBuffer::DirtyFlags`. -/
inductive ListenerFlag where
  | position | velocity | orientation | distanceFactor | rolloffFactor | dopplerFactor
  deriving DecidableEq, Repr

/-- `std::bitset<FlagCount>` of the listener flags. -/
abbrev ListenerFlags := ListenerFlag → Bool

namespace ListenerFlags

/-- No flag. -/
def none : ListenerFlags := fun _ ↦ false

/-- Every flag, `~0ull`. -/
def all : ListenerFlags := fun _ ↦ true

/-- One flag. -/
def only (f : ListenerFlag) : ListenerFlags := fun g ↦ g = f

/-- The flags of either set. -/
def union (F G : ListenerFlags) : ListenerFlags := fun f ↦ F f || G f

/-- `flags.any()`. -/
def any (F : ListenerFlags) : Bool :=
  F .position || F .velocity || F .orientation || F .distanceFactor || F .rolloffFactor ||
    F .dopplerFactor

end ListenerFlags

/-- A call of `IDirectSound3DListener`, without its argument `apply`. -/
inductive ListenerCall where
  | setAllParameters (listener : Option DS3DListener)
  | setDistanceFactor (distanceFactor : Float32)
  | setDopplerFactor (dopplerFactor : Float32)
  | setOrientation (xFront yFront zFront xTop yTop zTop : Float32)
  | setPosition (x y z : Float32)
  | setRolloffFactor (rolloffFactor : Float32)
  | setVelocity (x y z : Float32)

/-- `PrimaryBuffer`. -/
structure PrimaryBuffer where
  mTotalRef : UInt32 := 0
  mDsRef : UInt32 := 0
  mDs3dRef : UInt32 := 0
  mPropRef : UInt32 := 0
  mFlags : UInt32 := 0
  mVolume : Int32 := 0
  mPan : Int32 := 0
  mImmediate : DS3DListener := ⟨0, .zero, .zero, .zero, .zero, 0, 0, 0⟩
  mDeferred : DS3DListener := ⟨0, .zero, .zero, .zero, .zero, 0, 0, 0⟩
  mDirty : ListenerFlags := .none
  mWriteEmu : Option Buffer := none
  /-- By default 16-bit stereo at 44.1 kHz. -/
  mFormat : WaveFormat := {
    wFormatTag := formatPcm, nChannels := 2, nSamplesPerSec := 44100, nAvgBytesPerSec := 44100 * 4,
    nBlockAlign := 4, wBitsPerSample := 16 }
  mPlaying : Bool := false

namespace PrimaryBuffer

/-! ## References -/

/-- `PrimaryBuffer::AddRef` and the value it returns: the first reference makes the
buffer uninitialized again. -/
def addRef (p : PrimaryBuffer) : UInt32 × PrimaryBuffer :=
  (p.mDsRef + 1, { p with
    mTotalRef := p.mTotalRef + 1
    mDsRef := p.mDsRef + 1
    mFlags := if p.mTotalRef = 0 then 0 else p.mFlags })

/-- `PrimaryBuffer::Release`. -/
def release (p : PrimaryBuffer) : PrimaryBuffer :=
  if p.mDsRef = 0 then p else { p with mTotalRef := p.mTotalRef - 1, mDsRef := p.mDsRef - 1 }

/-- `Listener3D::AddRef`. -/
def listenerAddRef (p : PrimaryBuffer) : PrimaryBuffer :=
  { p with mTotalRef := p.mTotalRef + 1, mDs3dRef := p.mDs3dRef + 1 }

/-- `Listener3D::Release`. -/
def listenerRelease (p : PrimaryBuffer) : PrimaryBuffer :=
  { p with mTotalRef := p.mTotalRef - 1, mDs3dRef := p.mDs3dRef - 1 }

/-- `Prop::AddRef`. -/
def propAddRef (p : PrimaryBuffer) : PrimaryBuffer :=
  { p with mTotalRef := p.mTotalRef + 1, mPropRef := p.mPropRef + 1 }

/-- `Prop::Release`. -/
def propRelease (p : PrimaryBuffer) : PrimaryBuffer :=
  { p with mTotalRef := p.mTotalRef - 1, mPropRef := p.mPropRef - 1 }

/-! ## The format -/

/-- `PrimaryBufSize`. -/
def primaryBufSize : UInt32 := 32768

/-- The description `createWriteEmu` makes a buffer from. -/
def emuDesc (p : PrimaryBuffer) (flags : UInt32) : BufferDesc where
  dwSize := 36
  dwFlags := Caps.locHardware ||| (flags &&& Caps.ctrlPan)
  dwBufferBytes := primaryBufSize - primaryBufSize % p.mFormat.nBlockAlign.toUInt32
  lpwfxFormat := some p.mFormat

/-- The checks `SetFormat` makes by format tag. -/
def validFormatTag (wfx : WaveFormat) : Bool :=
  if wfx.wFormatTag = formatPcm then wfx.wBitsPerSample ≤ 32
  else if wfx.wFormatTag = formatIeeeFloat then wfx.wBitsPerSample = 32
  else if wfx.wFormatTag = formatExtensible then
    if wfx.wValidBitsPerSample > wfx.wBitsPerSample then false
    else
      match wfx.subFormat with
      | .pcm => wfx.wBitsPerSample ≤ 32
      | .ieeeFloat => wfx.wBitsPerSample = 32
      | .other => false
  else false

/-- `copy_format` of `SetFormat`: the format that is stored. -/
def copyFormat (wfx : WaveFormat) : Option WaveFormat :=
  if !validFormat wfx then none
  else if wfx.nAvgBytesPerSec ≠ wfx.nBlockAlign.toUInt32 * wfx.nSamplesPerSec then none
  else if !validFormatTag wfx then none
  else
    let dst : WaveFormat :=
      if wfx.wFormatTag = formatExtensible then
        { cbSize := extExtraSize
          wValidBitsPerSample :=
            if wfx.wValidBitsPerSample = 0 then wfx.wBitsPerSample else wfx.wValidBitsPerSample
          dwChannelMask := wfx.dwChannelMask
          subFormat := wfx.subFormat }
      else {}
    some { dst with
      wFormatTag := wfx.wFormatTag
      nChannels := wfx.nChannels
      nSamplesPerSec := wfx.nSamplesPerSec
      nAvgBytesPerSec := wfx.nSamplesPerSec * wfx.nBlockAlign.toUInt32
      nBlockAlign := UInt16.ofNat (wfx.wBitsPerSample.toNat * wfx.nChannels.toNat / 8)
      wBitsPerSample := wfx.wBitsPerSample }

/-! ## Listener parameters -/

/-- The parameters `Initialize` sets. -/
def defaultParams : DS3DListener where
  dwSize := sizeofDS3DListener
  vPosition := .zero
  vVelocity := .zero
  vOrientFront := ⟨0, 0, 1⟩
  vOrientTop := ⟨0, 1, 0⟩
  flDistanceFactor := 1
  flRolloffFactor := 1
  flDopplerFactor := 1

/-- Copy the parameters with a flag in `flags` from `params` to `dst`. -/
def copyParams (flags : ListenerFlags) (params dst : DS3DListener) : DS3DListener where
  dwSize := dst.dwSize
  vPosition := if flags .position then params.vPosition else dst.vPosition
  vVelocity := if flags .velocity then params.vVelocity else dst.vVelocity
  vOrientFront := if flags .orientation then params.vOrientFront else dst.vOrientFront
  vOrientTop := if flags .orientation then params.vOrientTop else dst.vOrientTop
  flDistanceFactor :=
    if flags .distanceFactor then params.flDistanceFactor else dst.flDistanceFactor
  flRolloffFactor := if flags .rolloffFactor then params.flRolloffFactor else dst.flRolloffFactor
  flDopplerFactor := if flags .dopplerFactor then params.flDopplerFactor else dst.flDopplerFactor

/-- `AL_POSITION` of the listener. -/
def writePosition (v : D3DVector) (l : ListenerAttrs) : ListenerAttrs :=
  { l with position := v.flipZ }

/-- `AL_VELOCITY` of the listener. -/
def writeVelocity (v : D3DVector) (l : ListenerAttrs) : ListenerAttrs :=
  { l with velocity := v.flipZ }

/-- `AL_ORIENTATION`. -/
def writeOrientation (front top : D3DVector) (l : ListenerAttrs) : ListenerAttrs :=
  { l with orientFront := front.flipZ, orientTop := top.flipZ }

/-- The speed of sound and `AL_METERS_PER_UNIT`. -/
def writeDistanceFactor (exts : Extensions) (distanceFactor : Float32) (l : ListenerAttrs) :
    ListenerAttrs :=
  let l := { l with speedOfSound := 343.3 / distanceFactor }
  if exts.efx then { l with metersPerUnit := distanceFactor } else l

/-- The doppler factor of the context. -/
def writeDopplerFactor (dopplerFactor : Float32) (l : ListenerAttrs) : ListenerAttrs :=
  { l with dopplerFactor := dopplerFactor }

/-- What `PrimaryBuffer::setParams` writes to the listener and the context. -/
def writeParams (exts : Extensions) (params : DS3DListener) (flags : ListenerFlags)
    (l : ListenerAttrs) : ListenerAttrs :=
  let l := if flags .position then writePosition params.vPosition l else l
  let l := if flags .velocity then writeVelocity params.vVelocity l else l
  let l := if flags .orientation then
    writeOrientation params.vOrientFront params.vOrientTop l else l
  let l := if flags .distanceFactor then
    writeDistanceFactor exts params.flDistanceFactor l else l
  if flags .dopplerFactor then writeDopplerFactor params.flDopplerFactor l else l

/-- The range check of a distance factor: from the smallest normal to the largest
finite float. -/
def validDistanceFactor (x : Float32) : Bool :=
  !(x > Float32.ofBits 0x7F7FFFFF ∨ x < Float32.ofBits 0x00800000)

/-- The range check of a doppler factor and of a rolloff factor. -/
def validFactor (x : Float32) : Bool := !(x > 10 ∨ x < 0)

/-- The checks of `SetAllParameters`. -/
def validParams (params : DS3DListener) : Bool :=
  validDistanceFactor params.flDistanceFactor ∧ validFactor params.flDopplerFactor ∧
  validFactor params.flRolloffFactor

end PrimaryBuffer

/-- Write a rolloff factor to the source of a buffer, as the walks over the 3D
buffers do, unless the buffer is disabled. -/
def Buffer.writeRolloff (rolloffFactor : Float32) (b : Buffer) : Buffer :=
  if b.mImmediate.dwMode ≠ Mode.disable then
    b.writeSource [(.rolloffFactor, .float rolloffFactor)]
  else b

end Dsoal
