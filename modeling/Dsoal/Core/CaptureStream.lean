import Dsoal.Core.CaptureLoop
import Dsoal.Core.Locks
import Dsoal.Lib.StreamRing

/-!
# The samples of a capture buffer

What the capture device has recorded is a stream of bytes, of which `alcCaptureSamples` stores
the next.  A client reads them from the regions that `DSCBuffer::Lock` returns.
-/

namespace Dsoal

/-- What a client reads from the two regions, one after the other, of samples at `data`. -/
def LockedRegions.read {w : ℕ} (regions : LockedRegions w) (mBuffer : ℕ → UInt8)
    (data : BitVec w) : List UInt8 :=
  Ring.read mBuffer (regions.audioPtr1 - data).toNat regions.audioBytes1.toNat ++
    Ring.read mBuffer (regions.audioPtr2 - data).toNat regions.audioBytes2.toNat

/-- A capture ring with its samples. -/
structure CaptureStream where
  ring : CaptureRing
  /-- The bytes of `mBuffer`, by their positions. -/
  mBuffer : ℕ → UInt8 := fun _ ↦ 0
  /-- How many bytes have been read from the device. -/
  taken : ℕ := 0

namespace CaptureStream

/-- `alcCaptureSamples`, which stores the next frames of `recorded`. -/
def captureSamples (recorded : ℕ → UInt8) (frame : ℕ) (s : CaptureStream) (c : CaptureCall) :
    CaptureStream :=
  let len := c.frames.toNat * frame
  { s with
    mBuffer := Ring.store s.mBuffer c.offset.toNat len fun i ↦ recorded (s.taken + i)
    taken := s.taken + len }

/-- A pass of `captureThread`. -/
def captureThread (recorded : ℕ → UInt8) (s : CaptureStream) (avails : Int32) :
    Option CaptureStream := do
  let pass ← s.ring.captureThread avails
  let frame := s.ring.buffer.mWaveFmt.nBlockAlign.toNat
  some { pass.calls.foldl (captureSamples recorded frame) s with ring := pass.ring }

/-- Perform one step.  `Initialize` resizes `mBuffer`, which has only zeros then. -/
def exec (recorded : ℕ → UInt8) (s : CaptureStream) : CaptureRingOp → Option CaptureStream
  | .captureThread avails => s.captureThread recorded avails
  | op => (s.ring.exec op).map fun ring ↦ { s with ring := ring }

/-- A new buffer, on which nothing has been called. -/
def IsNew (s : CaptureStream) : Prop := ∃ ring : CaptureRing, ring.IsNew ∧ s = { ring := ring }

end CaptureStream

end Dsoal
