import Dsoal.Core.CaptureBuffer
import Dsoal.Core.CaptureObject

/-!
# What the capture thread reads

Every ten milliseconds `captureThread` asks the device how many frames it has, reads all of
them into the buffer of the `DSCBuffer`, which it treats as a ring, and signals the
notifications between the old and the new write position.  It holds the mutex of the parent
meanwhile, so that a pass is one step here, as are `Initialize`, `Start`, `Stop` and
`SetNotificationPositions`.

A division by zero is `none`.
-/

namespace Dsoal

/-- A call `alcCaptureSamples(mDevice, &mBuffer[offset], frames)`. -/
structure CaptureCall where
  offset : UInt32
  frames : UInt32
  deriving DecidableEq, Repr

/-- `ds::saturate_cast` to `ALCsizei`. -/
def saturateSizei (n : UInt32) : UInt32 := if n > 0x7FFFFFFF then 0x7FFFFFFF else n

/-- `ds::saturate_cast` of an `ALCint` to an unsigned type of the same width. -/
def saturateUnsigned (n : Int32) : UInt32 := if n < 0 then 0 else n.toUInt32

namespace DSCBuffer

/-- The inner loop of `captureThread`: the calls it makes, and where it ends.  `fuel` bounds
the number of passes. -/
def readFrames (b : DSCBuffer) : ℕ → UInt32 → UInt32 → Option (List CaptureCall × UInt32)
  | fuel, availframes, writepos =>
    if availframes = 0 then some ([], writepos)
    else
      match fuel with
      | 0 => none
      | fuel + 1 => do
        let block := b.mWaveFmt.nBlockAlign.toUInt32
        if block = 0 then none
        else
          let room := (b.size - writepos) / block
          let toread := if room < availframes then room else availframes
          let next := writepos + toread * block
          let next := if next = b.size then 0 else next
          let (calls, last) ← b.readFrames fuel (availframes - toread) next
          some (⟨writepos, saturateSizei toread⟩ :: calls, last)

end DSCBuffer

/-- The notification at `dwOffset` is signalled after a pass from `oldpos` to `writepos`. -/
def captureNotified (oldpos writepos dwOffset : UInt32) : Bool :=
  if oldpos > writepos then
    dwOffset ≠ offsetStop ∧ (dwOffset ≥ oldpos ∨ dwOffset < writepos)
  else dwOffset ≥ oldpos ∧ dwOffset < writepos

/-- A `DSCBuffer` with what its capture thread works with. -/
structure CaptureRing where
  buffer : DSCBuffer
  mWritePos : UInt32 := 0
  mCapturing : Bool := false
  mNotifies : List (PositionNotify ℕ) := []

/-- What a pass of the capture thread does. -/
structure CapturePass where
  calls : List CaptureCall := []
  signalled : List (PositionNotify ℕ) := []
  ring : CaptureRing

namespace CaptureRing

/-- A pass of `captureThread`, for the number `ALC_CAPTURE_SAMPLES` gives.  Without a device
the query fails and leaves the number at zero. -/
def captureThread (r : CaptureRing) (avails : Int32) : Option CapturePass := do
  let avails := if r.buffer.mDevice.isNone then 0 else avails
  if avails < 0 then some { ring := r }
  else
    let availframes := saturateUnsigned avails
    if availframes = 0 then some { ring := r }
    else
      let oldpos := r.mWritePos
      let (calls, writepos) ← r.buffer.readFrames availframes.toNat availframes oldpos
      some {
        calls := calls
        signalled := r.mNotifies.filter fun notify ↦
          captureNotified oldpos writepos notify.dwOffset
        ring := { r with mWritePos := writepos } }

/-- `GetCurrentPosition`: the capture position and the read position. -/
def getCurrentPosition (r : CaptureRing) : Option (UInt32 × UInt32) :=
  let readpos := r.mWritePos
  if r.mCapturing then
    let format := r.buffer.mWaveFmt
    let cappos := readpos + format.nSamplesPerSec / 100 * format.nBlockAlign.toUInt32
    if r.buffer.size = 0 then none else some (cappos % r.buffer.size, readpos)
  else some (readpos, readpos)

/-- `Initialize`; `name` is the device name of the parent. -/
def initializeRing (r : CaptureRing) (name : String) (desc : DSCBufferDesc) (env : CaptureEnv) :
    CaptureRing :=
  { r with buffer := (r.buffer.initializeBuffer name desc env).2 }

/-- `SetNotificationPositions`; `none` is a null pointer with a positive count. -/
def setNotificationPositions (r : CaptureRing) (notifies : Option (List (PositionNotify ℕ))) :
    CaptureRing :=
  match notifies with
  | none => r
  | some notifies =>
    if r.mCapturing then r
    else
      match notificationPositions r.buffer.size.toNat notifies with
      | none => r
      | some newnots => { r with mNotifies := newnots }

end CaptureRing

/-- What happens in one step. -/
inductive CaptureRingOp where
  | initializeRing (name : String) (desc : DSCBufferDesc) (env : CaptureEnv)
  | start (dwFlags : UInt32)
  | stop
  | setNotificationPositions (notifies : Option (List (PositionNotify ℕ)))
  | captureThread (avails : Int32)

namespace CaptureRing

/-- Perform one step. -/
def exec (r : CaptureRing) : CaptureRingOp → Option CaptureRing
  | .initializeRing name desc env => some (r.initializeRing name desc env)
  | .start dwFlags =>
    some (if hasFlag dwFlags captureLooping then { r with mCapturing := true } else r)
  | .stop => some { r with mCapturing := false }
  | .setNotificationPositions notifies => some (r.setNotificationPositions notifies)
  | .captureThread avails => (r.captureThread avails).map CapturePass.ring

/-- A new buffer, on which nothing has been called. -/
def IsNew (r : CaptureRing) : Prop := ∃ mIs8, r = { buffer := { mIs8 := mIs8 } }

end CaptureRing

end Dsoal
