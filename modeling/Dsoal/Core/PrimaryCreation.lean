import Dsoal.Core.Methods

/-!
# Threads that create the primary buffer

`CreateSoundBuffer` of the primary buffer takes a reference with `AddRef`, which returns the
new count, looks at the flags if the count is one, calls `Initialize`, which locks the mutex,
and takes the reference back if that fails.  Nothing keeps other threads out between these
steps.  A thread that has been returned the buffer releases it at some time.
-/

namespace Dsoal

/-- Where a thread is in `CreateSoundBuffer`. -/
inductive PrimaryPc where
  | idle
  /-- After `AddRef`, which has returned `ref`. -/
  | added (ref : UInt32) (bufdesc : BufferDesc)
  /-- About to call `Initialize`. -/
  | initializing (bufdesc : BufferDesc)
  /-- About to call `Release`, after `Initialize` has failed. -/
  | releasing (hr : HResult)
  deriving DecidableEq

/-- An object, the threads that create its primary buffer, and how often each has been returned
the buffer and not released it. -/
structure PrimaryThreads (θ : Type) where
  object : DSound8OAL
  pc : θ → PrimaryPc := fun _ ↦ .idle
  held : θ → ℕ := fun _ ↦ 0

/-- What happens in one step. -/
inductive PrimaryOp (θ : Type) where
  /-- A call of `CreateSoundBuffer` comes to `AddRef`, having checked its arguments. -/
  | addRef (t : θ) (bufdesc : BufferDesc)
  /-- The test of the count and the flags. -/
  | check (t : θ)
  /-- `Initialize`. -/
  | initializePrimary (t : θ) (mem : Memory)
  /-- `Release` after it has failed. -/
  | releaseFailed (t : θ)
  /-- `Release` of a buffer that was returned. -/
  | release (t : θ)
  /-- Another method, which leaves the references and the flags of the primary buffer alone. -/
  | elsewhere (object : DSound8OAL)

namespace PrimaryThreads

variable {θ : Type} [DecidableEq θ]

/-- Set the position of a thread. -/
def goto (s : PrimaryThreads θ) (t : θ) (pc : PrimaryPc) : PrimaryThreads θ :=
  { s with pc := Function.update s.pc t pc }

/-- Change the primary buffer. -/
def setPrimary (s : PrimaryThreads θ) (primary : PrimaryBuffer) : PrimaryThreads θ :=
  { s with object := { s.object with mPrimaryBuffer := primary } }

/-- Return the buffer to a thread. -/
def giveBuffer (s : PrimaryThreads θ) (t : θ) : PrimaryThreads θ :=
  { s.goto t .idle with held := Function.update s.held t (s.held t + 1) }

/-- Take a buffer that was returned back from a thread. -/
def dropBuffer (s : PrimaryThreads θ) (t : θ) : PrimaryThreads θ :=
  { s with held := Function.update s.held t (s.held t - 1) }

/-- Perform one step. -/
def exec (s : PrimaryThreads θ) : PrimaryOp θ → Option (PrimaryThreads θ)
  | .addRef t bufdesc =>
    match s.pc t with
    | .idle =>
      if s.object.mShared.isSome ∧ sizeofBufferDesc1 ≤ bufdesc.dwSize ∧
          hasFlag bufdesc.dwFlags Caps.primaryBuffer then
        let (ref, primary) := s.object.mPrimaryBuffer.addRef
        some ((s.setPrimary primary).goto t (.added ref bufdesc))
      else none
    | _ => none
  | .check t =>
    match s.pc t with
    | .added ref bufdesc =>
      if ref = 1 ∧ s.object.mPrimaryBuffer.mFlags = 0 then some (s.goto t (.initializing bufdesc))
      else some (s.giveBuffer t)
    | _ => none
  | .initializePrimary t mem =>
    match s.pc t with
    | .initializing bufdesc => do
      let (hr, object) ← s.object.primaryInitialize (some bufdesc) mem
      let s := { s with object := object }
      some (if hr.failed then s.goto t (.releasing hr) else s.giveBuffer t)
    | _ => none
  | .releaseFailed t =>
    match s.pc t with
    | .releasing _ => some ((s.setPrimary s.object.mPrimaryBuffer.release).goto t .idle)
    | _ => none
  | .release t =>
    if s.pc t = .idle ∧ 0 < s.held t then
      some ((s.setPrimary s.object.mPrimaryBuffer.release).dropBuffer t)
    else none
  | .elsewhere object =>
    if (object.mPrimaryBuffer.mTotalRef, object.mPrimaryBuffer.mDsRef,
        object.mPrimaryBuffer.mFlags) = (s.object.mPrimaryBuffer.mTotalRef,
        s.object.mPrimaryBuffer.mDsRef, s.object.mPrimaryBuffer.mFlags) then
      some { s with object := object }
    else none

/-- No thread has a reference or is in a call. -/
def IsNew (s : PrimaryThreads θ) : Prop :=
  ∃ object : DSound8OAL, s = { object := object } ∧ object.mPrimaryBuffer.mTotalRef = 0 ∧
    object.mPrimaryBuffer.mDsRef = 0

end PrimaryThreads

end Dsoal
