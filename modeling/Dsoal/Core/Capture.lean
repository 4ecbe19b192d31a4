import Dsoal.Core.CaptureBuffer
import Dsoal.Core.ComObject

/-!
# A capture object and its buffers

`DSCapture::CreateCaptureBuffer` makes `DSCBuffer`s, which keep a plain C++ reference
to the `DSCapture` and lock its mutex in their methods and in the capture thread.
Both classes count their own references and delete themselves with the last one;
`~DSCBuffer` first makes its capture thread quit and joins it.

The model has one `DSCapture`, any number of buffers created from it, and the threads
of the client, which hold references to either (`RefStep`) and call methods of the
buffers (`CaptureBuffer.exec`).  A call through a reference to a deleted object has no
step; what the model records is the use of the mutex of a deleted `DSCapture`.
-/

namespace Dsoal

/-- A `DSCBuffer`: its references, and what it captures. -/
structure CaptureChild (θ : Type) where
  refs : RefState θ
  buffer : CaptureBuffer θ

/-- A `DSCapture` and the `DSCBuffer`s that have been created from it and not been
deleted. -/
structure CaptureFamily (θ β : Type) where
  mIs8 : Bool
  refs : RefState θ
  buffers : β → Option (CaptureChild θ)
  /-- The mutex of the `DSCapture` has been used after its deletion. -/
  usedDeleted : Bool := false

/-- What happens in one step. -/
inductive CaptureFamilyOp (θ β : Type) where
  /-- An operation on the references to the `DSCapture`. -/
  | parent (op : RefOp θ)
  /-- `CreateCaptureBuffer` of a buffer of `size` bytes. -/
  | createCaptureBuffer (t : θ) (b : β) (size : ℕ)
  /-- An operation on the references to a buffer. -/
  | child (b : β) (op : RefOp θ)
  /-- A step of a method of a buffer, or of its capture thread. -/
  | method (b : β) (op : CaptureOp θ)
  /-- `~DSCBuffer` sets `mQuitNow`. -/
  | quit (b : β)
  /-- `~DSCBuffer` has joined the capture thread, if there is one. -/
  | delete (b : β)

namespace CaptureOp

variable {θ : Type}

/-- The thread that makes the call and the interface it is made through; none for a step
of the capture thread. -/
def caller : CaptureOp θ → Option (θ × RefCounter)
  | start t _ | stop t | stopNext t => some (t, .mDsRef)
  | setNotificationPositions t _ => some (t, .mNotRef)
  | captureThread _ => none

/-- The step locks or unlocks the mutex of the parent. -/
def usesParent (b : CaptureBuffer θ) : CaptureOp θ → Bool
  | start _ dwFlags => hasFlag dwFlags captureLooping
  | stop _ | captureThread _ => true
  | stopNext t => b.pc t = .relocking
  | setNotificationPositions _ notifies => notifies.isSome

end CaptureOp

namespace CaptureFamily

variable {θ β : Type} [DecidableEq θ] [DecidableEq β]

/-- Change a buffer. -/
def setBuffer (s : CaptureFamily θ β) (b : β) (c : Option (CaptureChild θ)) :
    CaptureFamily θ β := { s with buffers := Function.update s.buffers b c }

/-- The `DSCapture` exists. -/
def Alive (s : CaptureFamily θ β) : Prop := s.refs.disposed = 0

instance (s : CaptureFamily θ β) : Decidable s.Alive := inferInstanceAs (Decidable (_ = _))

/-- A new `DSCapture`, created by the thread `t`. -/
def IsNew (s : CaptureFamily θ β) : Prop :=
  ∃ mIs8 t, s = { mIs8 := mIs8, refs := .created .dscapture t, buffers := fun _ ↦ none }

end CaptureFamily

/-- One step. -/
inductive CaptureStep {θ β : Type} [DecidableEq θ] [DecidableEq β] :
    CaptureFamily θ β → CaptureFamilyOp θ β → CaptureFamily θ β → Prop
  | parent {s : CaptureFamily θ β} {op : RefOp θ} {refs : RefState θ} (alive : s.Alive)
      (step : RefStep .dscapture s.refs op refs) :
      CaptureStep s (.parent op) { s with refs := refs }
  | createCaptureBuffer {s : CaptureFamily θ β} {t : θ} {b : β} {size : ℕ} (alive : s.Alive)
      (idle : s.refs.threads.phase t = .idle) (holds : 0 < s.refs.threads.held t .mDsRef)
      (free : s.buffers b = none) :
      CaptureStep s (.createCaptureBuffer t b size)
        (s.setBuffer b (some ⟨.created (.dscbuffer s.mIs8) t, { size := size }⟩))
  | child {s : CaptureFamily θ β} {b : β} {op : RefOp θ} {c : CaptureChild θ} {refs : RefState θ}
      (live : s.buffers b = some c) (alive : c.refs.disposed = 0)
      (step : RefStep (.dscbuffer s.mIs8) c.refs op refs) :
      CaptureStep s (.child b op) (s.setBuffer b (some { c with refs := refs }))
  | method {s : CaptureFamily θ β} {b : β} {op : CaptureOp θ} {c : CaptureChild θ}
      {buffer : CaptureBuffer θ} (live : s.buffers b = some c)
      (calls : ∀ t i, op.caller = some (t, i) →
        c.refs.disposed = 0 ∧ c.refs.threads.phase t = .idle ∧ 0 < c.refs.threads.held t i)
      (step : c.buffer.exec op = some buffer) :
      CaptureStep s (.method b op)
        { s.setBuffer b (some { c with buffer := buffer }) with
          usedDeleted := s.usedDeleted || (op.usesParent c.buffer && !decide s.Alive) }
  | quit {s : CaptureFamily θ β} {b : β} {c : CaptureChild θ} (live : s.buffers b = some c)
      (disposed : c.refs.disposed ≠ 0) (joinable : c.buffer.mCaptureThread.isSome) :
      CaptureStep s (.quit b)
        (s.setBuffer b (some { c with buffer := { c.buffer with mQuitNow := true } }))
  | delete {s : CaptureFamily θ β} {b : β} {c : CaptureChild θ} (live : s.buffers b = some c)
      (disposed : c.refs.disposed ≠ 0)
      (joined : ∀ k, c.buffer.mCaptureThread = some k → c.buffer.threads[k]? = some .exited) :
      CaptureStep s (.delete b) (s.setBuffer b none)

end Dsoal
