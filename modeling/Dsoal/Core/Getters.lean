import Dsoal.Core.DSound

/-!
# Reading the settings

The getters of `IDirectSoundBuffer` and `IDirectSound3DBuffer`, and those of the primary buffer
and of `IDirectSound3DListener`.  Their arguments say whether the pointers for the results are
given.

The volume, the pan and the frequency have one shape, `control`: a check of the pointer, then one
of the description.  Those of the 3D parameters, `param`, check the pointer only.
-/

namespace Dsoal

namespace Buffer

variable {α : Type}

/-- Read what only a buffer with the flag `caps` can be asked for. -/
def control (b : Buffer) (ptr : Bool) (caps : UInt32) (value : α) : Option (Except HResult α) :=
  if !ptr then some (.error .invalidParam)
  else do
    let sb ← b.mBuffer
    some (if !hasFlag sb.mFlags caps then .error .controlUnavail else .ok value)

/-- `Buffer::GetVolume`. -/
def getVolume (b : Buffer) (volume : Bool) : Option (Except HResult Int32) :=
  b.control volume Caps.ctrlVolume b.mVolume

/-- `Buffer::GetPan`. -/
def getPan (b : Buffer) (pan : Bool) : Option (Except HResult Int32) :=
  b.control pan Caps.ctrlPan b.mPan

/-- `Buffer::GetFrequency`. -/
def getFrequency (b : Buffer) (frequency : Bool) : Option (Except HResult UInt32) :=
  b.control frequency Caps.ctrlFrequency b.mFrequency

/-- Read of the immediate parameters. -/
def param (b : Buffer) (ptr : Bool) (value : DS3DBuffer → α) : Except HResult α :=
  if !ptr then .error .invalidParam else .ok (value b.mImmediate)

/-- `Buffer3D::GetAllParameters`; the argument is the `dwSize` of the structure, which is left
in it. -/
def getAllParameters (b : Buffer) (ds3dBuffer : Option UInt32) : Except HResult DS3DBuffer :=
  match ds3dBuffer with
  | none => .error .invalidParam
  | some dwSize =>
    if dwSize < sizeofDS3DBuffer then .error .invalidParam
    else .ok { b.mImmediate with dwSize := dwSize }

/-- `Buffer3D::GetConeAngles`. -/
def getConeAngles (b : Buffer) (insideConeAngle outsideConeAngle : Bool) :
    Except HResult (UInt32 × UInt32) :=
  b.param (insideConeAngle && outsideConeAngle) fun imm ↦
    (imm.dwInsideConeAngle, imm.dwOutsideConeAngle)

/-- `Buffer3D::GetConeOrientation`. -/
def getConeOrientation (b : Buffer) (orientation : Bool) : Except HResult D3DVector :=
  b.param orientation DS3DBuffer.vConeOrientation

/-- `Buffer3D::GetConeOutsideVolume`. -/
def getConeOutsideVolume (b : Buffer) (coneOutsideVolume : Bool) : Except HResult Int32 :=
  b.param coneOutsideVolume DS3DBuffer.lConeOutsideVolume

/-- `Buffer3D::GetMaxDistance`. -/
def getMaxDistance (b : Buffer) (maxDistance : Bool) : Except HResult Float32 :=
  b.param maxDistance DS3DBuffer.flMaxDistance

/-- `Buffer3D::GetMinDistance`. -/
def getMinDistance (b : Buffer) (minDistance : Bool) : Except HResult Float32 :=
  b.param minDistance DS3DBuffer.flMinDistance

/-- `Buffer3D::GetMode`. -/
def getMode (b : Buffer) (mode : Bool) : Except HResult UInt32 := b.param mode DS3DBuffer.dwMode

/-- `Buffer3D::GetPosition`. -/
def getPosition (b : Buffer) (position : Bool) : Except HResult D3DVector :=
  b.param position DS3DBuffer.vPosition

/-- `Buffer3D::GetVelocity`. -/
def getVelocity (b : Buffer) (velocity : Bool) : Except HResult D3DVector :=
  b.param velocity DS3DBuffer.vVelocity

end Buffer

/-! ## The primary buffer and the listener -/

namespace PrimaryBuffer

variable {α : Type}

/-- Read what only a primary buffer with the flag `caps` can be asked for. -/
def control (p : PrimaryBuffer) (ptr : Bool) (caps : UInt32) (value : α) : Except HResult α :=
  if !ptr then .error .invalidParam
  else if !hasFlag p.mFlags caps then .error .controlUnavail
  else .ok value

/-- `PrimaryBuffer::GetVolume`. -/
def getVolume (p : PrimaryBuffer) (volume : Bool) : Except HResult Int32 :=
  p.control volume Caps.ctrlVolume p.mVolume

/-- `PrimaryBuffer::GetPan`. -/
def getPan (p : PrimaryBuffer) (pan : Bool) : Except HResult Int32 :=
  p.control pan Caps.ctrlPan p.mPan

/-- `PrimaryBuffer::GetFrequency`. -/
def getFrequency (p : PrimaryBuffer) (frequency : Bool) : Except HResult UInt32 :=
  p.control frequency Caps.ctrlFrequency p.mFormat.nSamplesPerSec

/-- Read of the immediate parameters. -/
def param (p : PrimaryBuffer) (ptr : Bool) (value : DS3DListener → α) : Except HResult α :=
  if !ptr then .error .invalidParam else .ok (value p.mImmediate)

/-- `Listener3D::GetAllParameters`; the argument is the `dwSize` of the structure, which is left
in it. -/
def getAllParameters (p : PrimaryBuffer) (listener : Option UInt32) : Except HResult DS3DListener :=
  match listener with
  | none => .error .invalidParam
  | some dwSize =>
    if dwSize < sizeofDS3DListener then .error .invalidParam
    else .ok { p.mImmediate with dwSize := dwSize }

/-- `Listener3D::GetDistanceFactor`. -/
def getDistanceFactor (p : PrimaryBuffer) (distanceFactor : Bool) : Except HResult Float32 :=
  p.param distanceFactor DS3DListener.flDistanceFactor

/-- `Listener3D::GetDopplerFactor`. -/
def getDopplerFactor (p : PrimaryBuffer) (dopplerFactor : Bool) : Except HResult Float32 :=
  p.param dopplerFactor DS3DListener.flDopplerFactor

/-- `Listener3D::GetOrientation`. -/
def getOrientation (p : PrimaryBuffer) (orientFront orientTop : Bool) :
    Except HResult (D3DVector × D3DVector) :=
  p.param (orientFront && orientTop) fun imm ↦ (imm.vOrientFront, imm.vOrientTop)

/-- `Listener3D::GetPosition`. -/
def getPosition (p : PrimaryBuffer) (position : Bool) : Except HResult D3DVector :=
  p.param position DS3DListener.vPosition

/-- `Listener3D::GetRolloffFactor`. -/
def getRolloffFactor (p : PrimaryBuffer) (rolloffFactor : Bool) : Except HResult Float32 :=
  p.param rolloffFactor DS3DListener.flRolloffFactor

/-- `Listener3D::GetVelocity`. -/
def getVelocity (p : PrimaryBuffer) (velocity : Bool) : Except HResult D3DVector :=
  p.param velocity DS3DListener.vVelocity

end PrimaryBuffer

namespace DSound8OAL

/-- The walk of `PrimaryBuffer::GetStatus` over the live buffers, which looks for one that
plays. -/
def anyPlaying (s : DSound8OAL) : Bool :=
  (livePtrs s.mSecondaryBuffers).any fun p ↦ (s.getBuffer p).any fun b ↦ isPlaying b.mSource

/-- `PrimaryBuffer::GetStatus`.  The primary buffer plays while a secondary buffer does, unless
the application writes to it itself. -/
def primaryGetStatus (s : DSound8OAL) (status : Bool) : Except HResult UInt32 :=
  if !status then .error .invalidParam
  else
    let playing := s.mPrimaryBuffer.mPlaying ||
      decide (s.mPrioLevel < Level.writePrimary) && s.anyPlaying
    .ok (if playing then
      let loc : UInt32 :=
        if hasFlag s.mPrimaryBuffer.mFlags Caps.locDefer then Status.locHardware else 0
      Status.playing ||| Status.looping ||| loc
    else 0)

end DSound8OAL

end Dsoal
