import Dsoal.Core.Methods
import Dsoal.Lib.Transition

/-!
# The notify thread

`DSound8OAL::notifyThread` polls the registered buffers and waits on `mNotifyCond`
in between, without a time limit while there are none.  It is started by the first
`addNotifyBuffer`, is woken by one that makes the list nonempty, and is told to
quit by the destructor.

The model takes the thread and the destructor apart where another thread can run.
A call of `Play`, `Stop` or `SetNotificationPositions` has `mDsMutex` from beginning
to end and is one step; anything else that happens to the object leaves
`mNotifyBuffers` and `mNotifyThread` alone.  A wait can end at any time, whether or
not it was notified.
-/

namespace Dsoal

/-- Where the notify thread is. -/
inductive NotifyPc where
  /-- There is no thread. -/
  | unstarted
  /-- About to lock the mutex, at the start or at the end of a wait. -/
  | locking
  /-- With the mutex: about to read `mQuitNotify`. -/
  | checking
  /-- With the mutex: `mQuitNotify` was not set, about to look at the list. -/
  | looking
  /-- Blocked in `wait`, and whether it has been notified. -/
  | waiting (notified : Bool)
  /-- Blocked in `wait_for`. -/
  | waitingFor
  | exited
  deriving DecidableEq, Repr

namespace NotifyPc

/-- The thread has the mutex. -/
def locks : NotifyPc → Bool
  | checking | looking => true
  | _ => false

/-- `mNotifyCond.notify_all()`. -/
def notifyAll : NotifyPc → NotifyPc
  | waiting _ => waiting true
  | pc => pc

end NotifyPc

/-- Where the thread that runs `~DSound8OAL` is. -/
inductive DestructorPc where
  | uncalled
  /-- The notify thread is joinable, about to set `mQuitNotify`. -/
  | quitting
  /-- About to lock the mutex. -/
  | locking
  /-- With the mutex. -/
  | locked
  /-- About to notify. -/
  | unlocked
  /-- In `mNotifyThread.join()`. -/
  | joining
  | finished
  deriving DecidableEq, Repr

/-- The destructor has called `notify_all`. -/
def DestructorPc.HasNotified (pc : DestructorPc) : Prop := pc = joining ∨ pc = finished

/-- A `DSound8OAL` with its notify thread and its destructor. -/
structure NotifyRun where
  object : DSound8OAL
  thread : NotifyPc := .unstarted
  mQuitNotify : Bool := false
  destructor : DestructorPc := .uncalled

/-- What happens in one step. -/
inductive NotifyOp where
  | play (p : Ptr) (priority flags : UInt32) (started : Bool)
  | stop (p : Ptr)
  | setNotificationPositions (p : Ptr) (notifies : Option (List (PositionNotify EventHandle)))
  /-- Anything that does not register a buffer, remove one or start the thread. -/
  | other (object : DSound8OAL)
  /-- The notify thread. -/
  | notifyThread
  /-- The destructor. -/
  | destructor

namespace NotifyRun

/-- `addNotifyBuffer`. -/
def addNotifyBuffer (r : NotifyRun) (p : Ptr) (b : Buffer) : NotifyRun :=
  if r.object.isPendingNotify p then r
  else
    let object := r.object.addNotifyBuffer p b
    if !r.object.mNotifyThread then { r with object := object, thread := .locking }
    else if object.mNotifyBuffers.length = 1 then
      { r with object := object, thread := r.thread.notifyAll }
    else { r with object := object }

/-- `Buffer::Play`. -/
def play (r : NotifyRun) (p : Ptr) (priority flags : UInt32) (started : Bool) :
    Option (HResult × NotifyRun) := do
  let b ← r.object.getBuffer p
  let dev ← r.object.mShared
  let (hr, b, dev, notify) ← b.play r.object.parent dev priority flags started
  let r := { r with object := { r.object.setBuffer p b with mShared := some dev } }
  some (hr, if notify then r.addNotifyBuffer p b else r)

/-- A step of `notifyThread`. -/
def notifyThread (r : NotifyRun) : Option NotifyRun :=
  match r.thread with
  | .unstarted | .exited => none
  | .locking => if r.destructor = .locked then none else some { r with thread := .checking }
  | .checking => some { r with thread := if r.mQuitNotify then .exited else .looking }
  | .looking =>
    if r.object.mNotifyBuffers.isEmpty then some { r with thread := .waiting false }
    else r.object.triggerNotifies.map fun object ↦
      { r with object := object, thread := .waitingFor }
  | .waiting _ | .waitingFor => some { r with thread := .locking }

/-- A step of `~DSound8OAL`. -/
def destroy (r : NotifyRun) : Option NotifyRun :=
  match r.destructor with
  | .uncalled =>
    some { r with destructor := if r.object.mNotifyThread then .quitting else .finished }
  | .quitting => some { r with mQuitNotify := true, destructor := .locking }
  | .locking => if r.thread.locks then none else some { r with destructor := .locked }
  | .locked => some { r with destructor := .unlocked }
  | .unlocked => some { r with thread := r.thread.notifyAll, destructor := .joining }
  | .joining =>
    if r.thread = .exited then
      some { r with object := { r.object with mNotifyThread := false }, destructor := .finished }
    else none
  | .finished => none

/-- Another thread can have the mutex, and the object still exists. -/
def Callable (r : NotifyRun) : Prop :=
  r.thread.locks = false ∧ r.destructor ≠ .locked ∧ r.destructor ≠ .finished

instance (r : NotifyRun) : Decidable r.Callable := inferInstanceAs (Decidable (_ ∧ _ ∧ _))

/-- Perform one step. -/
def exec (r : NotifyRun) : NotifyOp → Option NotifyRun
  | .play p priority flags started =>
    if r.Callable then (r.play p priority flags started).map Prod.snd else none
  | .stop p =>
    if r.Callable then (r.object.stop p).map fun (_, object) ↦ { r with object := object }
    else none
  | .setNotificationPositions p notifies =>
    if r.Callable then
      (r.object.setNotificationPositions p notifies).map fun (_, object) ↦
        { r with object := object }
    else none
  | .other object =>
    if object.mNotifyBuffers = r.object.mNotifyBuffers ∧
        object.mNotifyThread = r.object.mNotifyThread then
      some { r with object := object }
    else none
  | .notifyThread => r.notifyThread
  | .destructor => r.destroy

/-- A new object, whose thread has not been started. -/
def IsNew (r : NotifyRun) : Prop := ∃ is8, r = { object := .new is8 }

end NotifyRun

end Dsoal
