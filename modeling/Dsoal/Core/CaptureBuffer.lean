import Dsoal.Core.Basic
import Dsoal.Core.Notify
import Dsoal.Lib.Transition
import Mathlib.Logic.Function.Basic

/-!
# The capture thread of a buffer

`DSCBuffer::Start` spawns a thread that reads the captured samples, and `Stop` makes
it quit and joins it.  Both are serialized by the mutex of the parent, but `Stop`
gives it up for the join, with `mCapturing` still set.

The model takes `Stop` and the capture thread apart where another thread can run;
`Start` and `SetNotificationPositions` have the mutex from beginning to end.  The
capture threads are numbered in the order they are spawned in, and `mCaptureThread`
holds the number of one, or none if it is not joinable.
-/

namespace Dsoal

/-- Where a capture thread is. -/
inductive CapturePc where
  /-- About to lock the mutex for the first time. -/
  | starting
  /-- With the mutex: about to read `mQuitNow`. -/
  | checking
  /-- Asleep, without the mutex. -/
  | sleeping
  | exited
  deriving DecidableEq, Repr

/-- Where a thread is in `Stop`. -/
inductive StopPc where
  /-- In no `Stop`, or before its first critical section. -/
  | idle
  /-- After the first critical section: about to set `mQuitNow`. -/
  | quitting
  /-- About to call `mCaptureThread.join()`. -/
  | calling
  /-- In `join` of the thread `k`. -/
  | joining (k : ℕ)
  /-- About to lock the mutex again. -/
  | relocking
  /-- `join` has found no thread, which throws an exception nobody catches. -/
  | terminated
  deriving DecidableEq, Repr

/-- `DSCBSTART_LOOPING`. -/
def captureLooping : UInt32 := 0x1

/-- The part of a `DSCBuffer` that has to do with its thread, and the threads. -/
structure CaptureBuffer (θ : Type) where
  /-- `mBuffer.size()`. -/
  size : ℕ
  mCapturing : Bool := false
  mQuitNow : Bool := false
  /-- The thread `mCaptureThread` stands for. -/
  mCaptureThread : Option ℕ := none
  mNotifies : List (PositionNotify ℕ) := []
  /-- The capture threads, in the order they were spawned in. -/
  threads : List CapturePc := []
  /-- The threads that call the methods. -/
  pc : θ → StopPc := fun _ ↦ .idle
  /-- What the calls of `join` found in `mCaptureThread`. -/
  joins : List (Option ℕ) := []
  /-- `mNotifies` has been replaced while a capture thread was running. -/
  replacedRunning : Bool := false

/-- What happens in one step. -/
inductive CaptureOp (θ : Type) where
  | start (t : θ) (dwFlags : UInt32)
  /-- `Stop`, to the end of its first critical section. -/
  | stop (t : θ)
  /-- The next step of a `Stop`. -/
  | stopNext (t : θ)
  /-- `SetNotificationPositions`; `none` is a null pointer with a positive count. -/
  | setNotificationPositions (t : θ) (notifies : Option (List (PositionNotify ℕ)))
  /-- A step of the capture thread `k`. -/
  | captureThread (k : ℕ)
  deriving DecidableEq

namespace CaptureBuffer

variable {θ : Type} [DecidableEq θ]

/-- No capture thread has the mutex. -/
def Unlocked (b : CaptureBuffer θ) : Prop := .checking ∉ b.threads

/-- Some capture thread is running. -/
def Running (b : CaptureBuffer θ) : Prop := ∃ pc ∈ b.threads, pc ≠ .exited

instance (b : CaptureBuffer θ) : Decidable b.Unlocked := inferInstanceAs (Decidable (_ ∉ _))

instance (b : CaptureBuffer θ) : Decidable b.Running :=
  inferInstanceAs (Decidable (∃ _ ∈ _, _))

/-- Set the position of a thread. -/
def goto (b : CaptureBuffer θ) (t : θ) (p : StopPc) : CaptureBuffer θ :=
  { b with pc := Function.update b.pc t p }

/-- `Start`, of a thread that is in no `Stop`. -/
def start (b : CaptureBuffer θ) (dwFlags : UInt32) : Option (CaptureBuffer θ) :=
  if !hasFlag dwFlags captureLooping then some b
  else if ¬ b.Unlocked then none
  else if b.mCapturing then some b
  else some { b with
    mQuitNow := false
    mCaptureThread := some b.threads.length
    threads := b.threads ++ [.starting]
    mCapturing := true }

/-- The first critical section of `Stop`. -/
def stop (b : CaptureBuffer θ) (t : θ) : Option (CaptureBuffer θ) :=
  if ¬ b.Unlocked then none
  else if b.mCapturing then some (b.goto t .quitting)
  else some b

/-- The rest of `Stop`. -/
def stopNext (b : CaptureBuffer θ) (t : θ) : Option (CaptureBuffer θ) :=
  match b.pc t with
  | .idle | .terminated => none
  | .quitting => some { b.goto t .calling with mQuitNow := true }
  | .calling =>
    match b.mCaptureThread with
    | none => some { b.goto t .terminated with joins := b.joins ++ [none] }
    | some k => some { b.goto t (.joining k) with joins := b.joins ++ [some k] }
  | .joining k =>
    if b.threads[k]? = some .exited then
      some { b.goto t .relocking with mCaptureThread := none }
    else none
  | .relocking =>
    if ¬ b.Unlocked then none else some { b.goto t .idle with mCapturing := false }

/-- `Notify::SetNotificationPositions`. -/
def setNotificationPositions (b : CaptureBuffer θ) (notifies : Option (List (PositionNotify ℕ))) :
    Option (CaptureBuffer θ) :=
  match notifies with
  | none => some b
  | some notifies =>
    if ¬ b.Unlocked then none
    else if b.mCapturing then some b
    else
      match notificationPositions b.size notifies with
      | none => some b
      | some newnots => some { b with
        mNotifies := newnots
        replacedRunning := b.replacedRunning || b.Running }

/-- A step of `captureThread`. -/
def captureThread (b : CaptureBuffer θ) (k : ℕ) : Option (CaptureBuffer θ) := do
  let pc ← b.threads[k]?
  match pc with
  | .starting | .sleeping =>
    if ¬ b.Unlocked then none else some { b with threads := b.threads.set k .checking }
  | .checking =>
    some { b with threads := b.threads.set k (if b.mQuitNow then .exited else .sleeping) }
  | .exited => none

/-- Perform one step. -/
def exec (b : CaptureBuffer θ) : CaptureOp θ → Option (CaptureBuffer θ)
  | .start t dwFlags => if b.pc t = .idle then b.start dwFlags else none
  | .stop t => if b.pc t = .idle then b.stop t else none
  | .stopNext t => b.stopNext t
  | .setNotificationPositions t notifies =>
    if b.pc t = .idle then b.setNotificationPositions notifies else none
  | .captureThread k => b.captureThread k

/-- An initialized buffer, on which nothing has been called. -/
def IsNew (b : CaptureBuffer θ) : Prop := ∃ size, b = { size := size }

end CaptureBuffer

end Dsoal
