import Dsoal.Core.Basic
import Dsoal.Core.Notify
import Dsoal.Core.SourcePool
import Dsoal.Lib.Store

/-!
# OpenAL sources and 3D parameters

The OpenAL objects a `DSound8OAL` works on.  A source is a store: it keeps every
attribute it is given, and starts with the defaults of OpenAL.  Every source is
named by the `mSource` of one buffer, so the model keeps it in that buffer.
Besides the attributes a source has a playback state, which also changes without
the program doing anything.

The 3D parameters of DirectSound are kept in the structures of its interface,
`DS3DBUFFER` and `DS3DLISTENER`.
-/

namespace Dsoal

/-! ## Vectors -/

/-- `D3DVECTOR`. -/
structure D3DVector where
  x : Float32
  y : Float32
  z : Float32

/-- The zero vector. -/
def D3DVector.zero : D3DVector := ⟨0, 0, 0⟩

/-- The vector as it is passed to OpenAL, whose z axis points the other way. -/
def D3DVector.flipZ (v : D3DVector) : D3DVector := ⟨v.x, v.y, -v.z⟩

/-- The conversion of an unsigned integer to a float. -/
def floatOfDword (n : UInt32) : Float32 := Float32.ofNat n.toNat

/-- The conversion of an integer attribute to a float, as `alSourcei` makes it. -/
def floatOfInt (n : Int32) : Float32 := Float32.ofInt n.toInt

/-! ## 3D parameters -/

/-- `DS3DBUFFER`. -/
structure DS3DBuffer where
  dwSize : UInt32
  vPosition : D3DVector
  vVelocity : D3DVector
  dwInsideConeAngle : UInt32
  dwOutsideConeAngle : UInt32
  vConeOrientation : D3DVector
  lConeOutsideVolume : Int32
  flMinDistance : Float32
  flMaxDistance : Float32
  dwMode : UInt32

/-- `sizeof(DS3DBUFFER)`. -/
def sizeofDS3DBuffer : UInt32 := 64

/-- `DS3DLISTENER`. -/
structure DS3DListener where
  dwSize : UInt32
  vPosition : D3DVector
  vVelocity : D3DVector
  vOrientFront : D3DVector
  vOrientTop : D3DVector
  flDistanceFactor : Float32
  flRolloffFactor : Float32
  flDopplerFactor : Float32

/-- `sizeof(DS3DLISTENER)`. -/
def sizeofDS3DListener : UInt32 := 64

namespace Mode

/-- `DS3DMODE_NORMAL`. -/
def normal : UInt32 := 0

/-- `DS3DMODE_HEADRELATIVE`. -/
def headRelative : UInt32 := 1

/-- `DS3DMODE_DISABLE`. -/
def disable : UInt32 := 2

end Mode

/-- `DS3D_MAXCONEANGLE`, also the default cone angle. -/
def maxConeAngle : UInt32 := 360

/-- `DS3D_DEFERRED`; every other value of `apply` is immediate. -/
def ds3dDeferred : UInt32 := 1

/-- `DS3D_IMMEDIATE`. -/
def ds3dImmediate : UInt32 := 0

/-! ## Sources -/

/-- The attributes of a source that the program sets. -/
inductive SourceAttr where
  | gain | pitch | position | velocity | direction | rolloffFactor
  | sourceSpatialize | sourceRelative
  | coneInnerAngle | coneOuterAngle | coneOuterGain
  | referenceDistance | maxDistance
  | panningEnabled | pan
  deriving DecidableEq, Repr

/-- The value of an attribute, as `alSourcef`, `alSource3f` or `alSourcei` takes it. -/
inductive ALValue where
  | float (x : Float32)
  | vector (v : D3DVector)
  | int (n : ℕ)

namespace ALValue

/-- `AL_TRUE` or `AL_FALSE`. -/
def bool (x : Bool) : ALValue := int x.toNat

/-- `AL_AUTO_SOFT`. -/
def auto : ALValue := int 2

end ALValue

/-- The attributes of a source. -/
abbrev SourceAttrs := SourceAttr → ALValue

/-- A sequence of calls that set attributes of one source. -/
abbrev SourceWrites := Store.Writes SourceAttr ALValue

/-- The attributes of a new source. -/
def defaultAttrs : SourceAttrs
  | .gain | .pitch | .rolloffFactor | .referenceDistance => .float 1
  | .position | .velocity | .direction => .vector .zero
  | .sourceSpatialize => .auto
  | .sourceRelative | .panningEnabled => .bool false
  | .coneInnerAngle | .coneOuterAngle => .float 360
  | .coneOuterGain | .pan => .float 0
  | .maxDistance => .float (Float32.ofBits 0x7F7FFFFF)

/-- A source. -/
structure Source where
  attrs : SourceAttrs := defaultAttrs
  looping : Bool := false
  state : ALState := .initial
  /-- The play position of a source that is playing or paused, and the position any other
  source starts at. -/
  byteOffset : UInt32 := 0

namespace Source

/-- `AL_BYTE_OFFSET`: a source that is neither playing nor paused reports 0. -/
def ioffset (src : Source) : UInt32 :=
  match src.state with
  | .playing | .paused => src.byteOffset
  | .initial | .stopped => 0

/-- `alSourcePause`. -/
def pause (src : Source) : Source :=
  if src.state = .playing then { src with state := .paused } else src

/-- OpenAL mixes: a playing source moves to another position, or stops at its end. -/
def advance (src : Source) (offset : UInt32) (ended : Bool) : Source :=
  if src.state ≠ .playing then src
  else if ended then { src with state := .stopped, byteOffset := 0 }
  else { src with byteOffset := offset }

end Source

/-- `alGetSourcei(source, AL_SOURCE_STATE, &state) == AL_PLAYING`, false for no source. -/
def isPlaying (source : Option Source) : Bool := source.any fun src ↦ src.state = .playing

/-- The attributes of the AL listener and of the context that the program sets. -/
structure ListenerAttrs where
  gain : Float32 := 1
  position : D3DVector := .zero
  velocity : D3DVector := .zero
  orientFront : D3DVector := ⟨0, 0, -1⟩
  orientTop : D3DVector := ⟨0, 1, 0⟩
  speedOfSound : Float32 := 343.3
  metersPerUnit : Float32 := 1
  dopplerFactor : Float32 := 1

/-! ## The source counters of the device -/

/-- The part of the `SharedDevice` that the buffers of one object use, between the
atomic operations of other objects. -/
structure DeviceSources where
  /-- `mMaxHwSources` and `mMaxSwSources`. -/
  mMaxSources : Pool → UInt32
  /-- `mCurrentHwSources` and `mCurrentSwSources`. -/
  mCurrentSources : Pool → UInt32

namespace DeviceSources

/-- `incHwSources` and `incSwSources`; `none` if all sources are taken. -/
def incSources (dev : DeviceSources) (k : Pool) : Option DeviceSources :=
  if dev.mCurrentSources k = dev.mMaxSources k then none
  else some { dev with
    mCurrentSources := Function.update dev.mCurrentSources k (dev.mCurrentSources k + 1) }

/-- `decHwSources` and `decSwSources`, by location. -/
def decSources (dev : DeviceSources) : LocStatus → DeviceSources
  | .none => dev
  | .loc k => { dev with
      mCurrentSources := Function.update dev.mCurrentSources k (dev.mCurrentSources k - 1) }

/-- The part of `setLocation` that takes a source: from the hardware pool unless
software is wanted, then from the software pool unless hardware is wanted. -/
def acquire (dev : DeviceSources) (want : LocStatus) : Option (Pool × DeviceSources) :=
  match if want ≠ .software then dev.incSources .hw else none with
  | some dev => some (.hw, dev)
  | none =>
    if want ≠ .hardware then (dev.incSources .sw).map fun dev ↦ (.sw, dev) else none

end DeviceSources

end Dsoal
