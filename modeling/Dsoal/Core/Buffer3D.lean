import Dsoal.Core.Buffer

/-!
# The 3D parameters of a buffer

The setters of `IDirectSound3DBuffer`.  With `DS3D_DEFERRED` a setter stores its
arguments in `mDeferred` and sets a dirty flag; otherwise it stores them in
`mImmediate` and writes them to the source.  `Buffer::commit` later applies what
is dirty with `setParams`.

The setters have one shape, `setter`: a check, the flag, what is stored, and what
is written to the source for the new immediate parameters.
-/

namespace Dsoal

/-- A call of `IDirectSound3DBuffer`, without its argument `apply`. -/
inductive Buffer3DCall where
  | setAllParameters (ds3dBuffer : Option DS3DBuffer)
  | setConeAngles (insideConeAngle outsideConeAngle : UInt32)
  | setConeOrientation (x y z : Float32)
  | setConeOutsideVolume (coneOutsideVolume : Int32)
  | setMaxDistance (maxDistance : Float32)
  | setMinDistance (minDistance : Float32)
  | setMode (mode : UInt32)
  | setPosition (x y z : Float32)
  | setVelocity (x y z : Float32)

namespace Buffer

open Store

/-! ## Applying a set of parameters -/

/-- Copy the parameters with a flag in `flags` from `params` to `dst`. -/
def copyParams (flags : BufferFlags) (params dst : DS3DBuffer) : DS3DBuffer where
  dwSize := dst.dwSize
  vPosition := if flags .position then params.vPosition else dst.vPosition
  vVelocity := if flags .velocity then params.vVelocity else dst.vVelocity
  dwInsideConeAngle :=
    if flags .coneAngles then params.dwInsideConeAngle else dst.dwInsideConeAngle
  dwOutsideConeAngle :=
    if flags .coneAngles then params.dwOutsideConeAngle else dst.dwOutsideConeAngle
  vConeOrientation :=
    if flags .coneOrientation then params.vConeOrientation else dst.vConeOrientation
  lConeOutsideVolume :=
    if flags .coneVolume then params.lConeOutsideVolume else dst.lConeOutsideVolume
  flMinDistance := if flags .minDistance then params.flMinDistance else dst.flMinDistance
  flMaxDistance := if flags .maxDistance then params.flMaxDistance else dst.flMaxDistance
  dwMode := if flags .mode then params.dwMode else dst.dwMode

/-- The calls of `alSourcei` that set the cone angles. -/
def coneAngleWrites (insideConeAngle outsideConeAngle : UInt32) : SourceWrites :=
  [(.coneInnerAngle, .float (floatOfInt insideConeAngle.toInt32)),
    (.coneOuterAngle, .float (floatOfInt outsideConeAngle.toInt32))]

/-- The calls of `setParams`, when `imm` are the new immediate parameters. -/
def paramWrites (parent : Parent) (params imm : DS3DBuffer) (flags : BufferFlags) : SourceWrites :=
  when (imm.dwMode ≠ Mode.disable)
    (when (flags .position) [(.position, .vector params.vPosition.flipZ)] ++
      when (flags .velocity) [(.velocity, .vector params.vVelocity.flipZ)] ++
      when (flags .coneOrientation) [(.direction, .vector params.vConeOrientation.flipZ)]) ++
  when (flags .coneAngles)
    (coneAngleWrites params.dwInsideConeAngle params.dwOutsideConeAngle) ++
  when (flags .coneVolume) [(.coneOuterGain, .float (mBToGain params.lConeOutsideVolume))] ++
  when (flags .minDistance) [(.referenceDistance, .float params.flMinDistance)] ++
  when (flags .maxDistance) [(.maxDistance, .float params.flMaxDistance)] ++
  when (flags .mode) (modeWrites parent params.dwMode imm)

/-- `Buffer::setParams`. -/
def setParams (parent : Parent) (params : DS3DBuffer) (flags : BufferFlags) (b : Buffer) : Buffer :=
  let imm := copyParams flags params b.mImmediate
  { b with mImmediate := imm }.writeSource (paramWrites parent params imm flags)

/-- `Buffer::commit`. -/
def commit (parent : Parent) (b : Buffer) : Buffer :=
  let flags := b.mDirty
  let b := { b with mDirty := .none }
  if flags.any then b.setParams parent b.mDeferred flags else b

/-! ## The setters -/

/-- The common shape of the setters. -/
def setter (valid : Bool) (flag : BufferFlag) (store : DS3DBuffer → DS3DBuffer)
    (writes : DS3DBuffer → SourceWrites) (apply : UInt32) (b : Buffer) : HResult × Buffer :=
  if !valid then (.invalidParam, b)
  else if apply = ds3dDeferred then
    (.ok, { b with mDeferred := store b.mDeferred, mDirty := b.mDirty.union (.only flag) })
  else
    let imm := store b.mImmediate
    (.ok, { b with mImmediate := imm }.writeSource (writes imm))

/-- The check of a mode. -/
def validMode (mode : UInt32) : Bool :=
  mode = Mode.normal ∨ mode = Mode.headRelative ∨ mode = Mode.disable

/-- The checks of `SetAllParameters`. -/
def validParams (params : DS3DBuffer) : Bool :=
  params.dwInsideConeAngle ≤ maxConeAngle ∧ params.dwOutsideConeAngle ≤ maxConeAngle ∧
  validVolume params.lConeOutsideVolume ∧
  params.flMinDistance ≥ 0 ∧ params.flMaxDistance ≥ 0 ∧ validMode params.dwMode

/-- `Buffer3D::SetAllParameters`. -/
def setAllParameters (parent : Parent) (ds3dBuffer : Option DS3DBuffer) (apply : UInt32)
    (b : Buffer) : HResult × Buffer :=
  match ds3dBuffer with
  | none => (.invalidParam, b)
  | some params =>
    if params.dwSize < sizeofDS3DBuffer then (.invalidParam, b)
    else if !validParams params then (.invalidParam, b)
    else if apply = ds3dDeferred then
      (.ok, { b with mDeferred := { params with dwSize := sizeofDS3DBuffer }, mDirty := .all })
    else (.ok, b.setParams parent params .all)

/-- `Buffer3D::SetConeAngles`. -/
def setConeAngles (insideConeAngle outsideConeAngle : UInt32) : UInt32 → Buffer → HResult × Buffer :=
  setter (insideConeAngle ≤ maxConeAngle ∧ outsideConeAngle ≤ maxConeAngle) .coneAngles
    (fun p ↦ { p with
      dwInsideConeAngle := insideConeAngle, dwOutsideConeAngle := outsideConeAngle })
    fun _ ↦ coneAngleWrites insideConeAngle outsideConeAngle

/-- `Buffer3D::SetConeOrientation`. -/
def setConeOrientation (x y z : Float32) : UInt32 → Buffer → HResult × Buffer :=
  setter true .coneOrientation (fun p ↦ { p with vConeOrientation := ⟨x, y, z⟩ })
    fun imm ↦ when (imm.dwMode ≠ Mode.disable) [(.direction, .vector ⟨x, y, -z⟩)]

/-- `Buffer3D::SetConeOutsideVolume`. -/
def setConeOutsideVolume (coneOutsideVolume : Int32) : UInt32 → Buffer → HResult × Buffer :=
  setter (validVolume coneOutsideVolume) .coneVolume
    (fun p ↦ { p with lConeOutsideVolume := coneOutsideVolume })
    fun _ ↦ [(.coneOuterGain, .float (mBToGain coneOutsideVolume))]

/-- `Buffer3D::SetMaxDistance`. -/
def setMaxDistance (maxDistance : Float32) : UInt32 → Buffer → HResult × Buffer :=
  setter (maxDistance ≥ 0) .maxDistance (fun p ↦ { p with flMaxDistance := maxDistance })
    fun _ ↦ [(.maxDistance, .float maxDistance)]

/-- `Buffer3D::SetMinDistance`. -/
def setMinDistance (minDistance : Float32) : UInt32 → Buffer → HResult × Buffer :=
  setter (minDistance ≥ 0) .minDistance (fun p ↦ { p with flMinDistance := minDistance })
    fun _ ↦ [(.referenceDistance, .float minDistance)]

/-- `Buffer3D::SetMode`. -/
def setMode (parent : Parent) (mode : UInt32) : UInt32 → Buffer → HResult × Buffer :=
  setter (validMode mode) .mode (fun p ↦ { p with dwMode := mode })
    fun imm ↦ modeWrites parent mode imm

/-- `Buffer3D::SetPosition`. -/
def setPosition (x y z : Float32) : UInt32 → Buffer → HResult × Buffer :=
  setter true .position (fun p ↦ { p with vPosition := ⟨x, y, z⟩ })
    fun imm ↦ when (imm.dwMode ≠ Mode.disable) [(.position, .vector ⟨x, y, -z⟩)]

/-- `Buffer3D::SetVelocity`. -/
def setVelocity (x y z : Float32) : UInt32 → Buffer → HResult × Buffer :=
  setter true .velocity (fun p ↦ { p with vVelocity := ⟨x, y, z⟩ })
    fun imm ↦ when (imm.dwMode ≠ Mode.disable) [(.velocity, .vector ⟨x, y, -z⟩)]

/-- Perform a call of `IDirectSound3DBuffer`. -/
def call3D (parent : Parent) : Buffer3DCall → UInt32 → Buffer → HResult × Buffer
  | .setAllParameters ds3dBuffer => setAllParameters parent ds3dBuffer
  | .setConeAngles insideConeAngle outsideConeAngle => setConeAngles insideConeAngle outsideConeAngle
  | .setConeOrientation x y z => setConeOrientation x y z
  | .setConeOutsideVolume coneOutsideVolume => setConeOutsideVolume coneOutsideVolume
  | .setMaxDistance maxDistance => setMaxDistance maxDistance
  | .setMinDistance minDistance => setMinDistance minDistance
  | .setMode mode => setMode parent mode
  | .setPosition x y z => setPosition x y z
  | .setVelocity x y z => setVelocity x y z

end Buffer

end Dsoal
