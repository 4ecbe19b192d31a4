import Mathlib.Tactic.TypeStar

/-!
# Result codes, flags and constants

The part of the DirectSound interface that the methods of `DSound8OAL`, `Buffer`
and `PrimaryBuffer` are written with.  A `DWORD` is a `UInt32`, a `LONG` an
`Int32`, a `D3DVALUE` and an `ALfloat` a `Float32`; a pointer argument that may
be null is an `Option`.
-/

namespace Dsoal

/-- `HRESULT`: `DS_OK` (the same value as `S_OK`) and the failures the modelled
methods return. -/
inductive HResult where
  | ok
  | invalidParam | invalidCall | controlUnavail | allocated | bufferLost | prioLevelNeeded
  | alreadyInitialized | uninitialized | bufferTooSmall | outOfMemory | noAggregation | generic
  | fail | propIdUnsupported | noDriver | noInterface | badFormat
  deriving DecidableEq, Repr

/-- `FAILED(hr)`. -/
def HResult.failed (hr : HResult) : Bool := hr ≠ .ok

/-- `SUCCEEDED(hr)`. -/
def HResult.succeeded (hr : HResult) : Bool := hr = .ok

@[simp] theorem HResult.failed_eq_false {hr : HResult} : hr.failed = false ↔ hr = .ok := by
  simp [HResult.failed]

@[simp] theorem HResult.failed_eq_true {hr : HResult} : hr.failed = true ↔ hr ≠ .ok := by
  simp [HResult.failed]

@[simp] theorem HResult.succeeded_eq_true {hr : HResult} : hr.succeeded = true ↔ hr = .ok := by
  simp [HResult.succeeded]

/-- The test `flags & mask`. -/
def hasFlag (flags mask : UInt32) : Bool := flags &&& mask ≠ 0

/-! ## Flags

`DSBCAPS_…` of buffers, `DSBPLAY_…` of `Play` and `AcquireResources`, `DSBSTATUS_…`
of `GetStatus`, and the cooperative levels `DSSCL_…`. -/

namespace Caps

def primaryBuffer : UInt32 := 0x1

def locHardware : UInt32 := 0x4

def locSoftware : UInt32 := 0x8

def ctrl3D : UInt32 := 0x10

def ctrlFrequency : UInt32 := 0x20

def ctrlPan : UInt32 := 0x40

def ctrlVolume : UInt32 := 0x80

def ctrlPositionNotify : UInt32 := 0x100

def ctrlFX : UInt32 := 0x200

def locDefer : UInt32 := 0x40000

end Caps

namespace PlayFlags

def looping : UInt32 := 0x1

def locHardware : UInt32 := 0x2

def locSoftware : UInt32 := 0x4

end PlayFlags

namespace Status

def playing : UInt32 := 0x1

def bufferLost : UInt32 := 0x2

def looping : UInt32 := 0x4

def locHardware : UInt32 := 0x8

def locSoftware : UInt32 := 0x10

end Status

namespace Level

def normal : UInt32 := 1

def priority : UInt32 := 2

def exclusive : UInt32 := 3

def writePrimary : UInt32 := 4

end Level

/-! ## Ranges -/

/-- `DSBVOLUME_MIN`; `DSBVOLUME_MAX` is 0. -/
def volumeMin : Int32 := -10000

/-- `DSBPAN_RIGHT`; `DSBPAN_LEFT` is its negative. -/
def panRight : Int32 := 10000

/-- The range check of a volume in hundredths of a decibel. -/
def validVolume (v : Int32) : Bool := volumeMin ≤ v ∧ v ≤ 0

/-- The range check of a pan. -/
def validPan (p : Int32) : Bool := -panRight ≤ p ∧ p ≤ panRight

/-- `DSBFREQUENCY_MIN`. -/
def frequencyMin : UInt32 := 100

/-- `DSBFREQUENCY_MAX`. -/
def frequencyMax : UInt32 := 200000

/-- `DSBSIZE_MIN`. -/
def sizeMin : UInt32 := 4

/-- `DSBSIZE_MAX`. -/
def sizeMax : UInt32 := 0x0FFFFFFF

/-! ## Gains -/

/-- `mB_to_gain`. -/
def mBToGain (millibels : Int32) : Float32 :=
  if millibels ≤ volumeMin then 0
  else Float32.pow 10 (Float32.ofInt millibels.toInt / 2000)

/-- The value of `AL_PAN_SOFT` for a pan. -/
def panValue (pan : Int32) : Float32 :=
  if pan ≤ 0 then mBToGain pan - 1 else 1 - mBToGain (-pan)

/-! ## Extensions -/

/-- `mExtensions`, one field for each member of `Extensions` that is tested. -/
structure Extensions where
  eax : Bool := false
  efx : Bool := false
  float32 : Bool := false
  mcFormats : Bool := false
  sourcePanning : Bool := false
  sourceSpatialize : Bool := false
  deriving DecidableEq, Repr

end Dsoal
