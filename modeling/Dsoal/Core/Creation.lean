import Dsoal.Core.Methods
import Dsoal.Lib.Transition

/-!
# Creating buffers from several threads

`CreateSoundBuffer` and `DuplicateSoundBuffer` construct a buffer in
`createSecondaryBuffer`, with the mutex of the object, initialize it in
`Buffer::Initialize`, with the mutex again, and release it if that fails.  Between
these steps other threads can have the mutex, and the mask of the group already says
that the slot is in use.

The model has a thread for each of these calls and takes them apart into their steps.
Any other call is a step, or several: the last `Release` of a buffer, a change of a
buffer that leaves its samples alone, and a change of what is outside the buffers.
-/

namespace Dsoal

/-- Where a thread is in `CreateSoundBuffer` or `DuplicateSoundBuffer`. -/
inductive CreatePc where
  | idle
  /-- The buffer has been constructed, and `Initialize` is next. -/
  | constructed (p : Ptr) (dsBufferDesc : Option BufferDesc)
  /-- `Initialize` has failed, with or without having stored the samples, and the buffer
  is about to be released. -/
  | releasing (p : Ptr) (stored : Bool)

namespace CreatePc

/-- The buffer the thread is creating, and whether its samples are stored. -/
def slot : CreatePc → Option (Ptr × Bool)
  | idle => none
  | constructed p dsBufferDesc => some (p, dsBufferDesc.isNone)
  | releasing p stored => some (p, stored)

end CreatePc

/-- A `DSound8OAL` and the threads that create buffers. -/
structure CreateRun (θ : Type) where
  object : DSound8OAL
  pc : θ → CreatePc
  /-- `GetStatus` has been called on a buffer whose `mBuffer` is null. -/
  nullStatus : Bool := false

/-- What happens in one step. -/
inductive CreateOp (θ : Type) where
  | initializeObject (shared : Except HResult (DeviceSources × Extensions))
      (allocs : List (Option ℕ × Bool))
  /-- `CreateSoundBuffer` of a secondary buffer, up to `createSecondaryBuffer`. -/
  | createSoundBuffer (t : θ) (desc : BufferDesc) (mem : Memory)
  /-- `DuplicateSoundBuffer`, up to `createSecondaryBuffer`. -/
  | duplicateSoundBuffer (t : θ) (original : Ptr) (mem : Memory)
  /-- `Buffer::Initialize` of the buffer the thread is creating. -/
  | initializeBuffer (t : θ) (memory : Bool)
  /-- The release of a buffer whose initialization has failed. -/
  | release (t : θ)
  | setCooperativeLevel (level : UInt32) (mem : Memory)
  /-- The last `Release` of a buffer. -/
  | dispose (p : Ptr)
  /-- A call that changes a buffer. -/
  | change (p : Ptr) (b : Buffer)
  /-- A change of what is outside the buffers. -/
  | outside (object : DSound8OAL)

namespace DSound8OAL

/-- `SetCooperativeLevel` enters `DSSCL_WRITEPRIMARY`, and walks over the buffers. -/
def EntersWritePrimary (s : DSound8OAL) (level : UInt32) : Prop :=
  s.mShared.isSome ∧ level = Level.writePrimary ∧ s.mPrioLevel ≠ Level.writePrimary

instance (s : DSound8OAL) (level : UInt32) : Decidable (s.EntersWritePrimary level) :=
  inferInstanceAs (Decidable (_ ∧ _ ∧ _))

/-- `GetStatus` says that the buffer is playing. -/
def plays (s : DSound8OAL) (p : Ptr) : Bool :=
  (s.getBuffer p).any fun b ↦ !b.mBufferLost && isPlaying b.mSource

/-- The buffers the walk calls `GetStatus` on: it stops at the first that plays. -/
def walked (s : DSound8OAL) : List Ptr → List Ptr
  | [] => []
  | p :: ps => p :: if s.plays p then [] else s.walked ps

/-- The buffer at `p` has no samples. -/
def lacksStorage (s : DSound8OAL) (p : Ptr) : Bool :=
  (s.getBuffer p).any fun b ↦ b.mBuffer.isNone

end DSound8OAL

namespace CreateRun

variable {θ : Type} [DecidableEq θ]

/-- Change the object and the position of a thread. -/
def goto (r : CreateRun θ) (t : θ) (object : DSound8OAL) (pc : CreatePc) : CreateRun θ :=
  { r with object := object, pc := Function.update r.pc t pc }

/-- `Initialize`, by a thread that has constructed the buffer at `p`. -/
def initializeBuffer (r : CreateRun θ) (t : θ) (p : Ptr) (dsBufferDesc : Option BufferDesc)
    (memory : Bool) : Option (CreateRun θ) := do
  let (hr, object) ← r.object.initializeBuffer p dsBufferDesc memory
  some (r.goto t object (if hr.failed then .releasing p (!object.lacksStorage p) else .idle))

/-- Perform one step. -/
def exec [Abi] (r : CreateRun θ) : CreateOp θ → Option (CreateRun θ)
  | .initializeObject shared allocs =>
    some { r with object := (r.object.initializeObject shared allocs).2 }
  | .createSoundBuffer t desc mem => do
    let (p, object) ← r.object.construct (.fresh r.object.nextBorn r.object.mIs8) mem
    some (r.goto t object (.constructed p (some desc)))
  | .duplicateSoundBuffer t original mem => do
    let orig ← r.object.getBuffer original
    let b ← Buffer.duplicate r.object.nextBorn r.object.mIs8 orig
    let (p, object) ← r.object.construct b mem
    some (r.goto t object (.constructed p none))
  | .initializeBuffer t memory =>
    match r.pc t with
    | .constructed p dsBufferDesc => r.initializeBuffer t p dsBufferDesc memory
    | _ => none
  | .release t =>
    match r.pc t with
    | .releasing p _ => do
      let object ← r.object.dispose p
      some (r.goto t object .idle)
    | _ => none
  | .setCooperativeLevel level mem =>
    if r.object.EntersWritePrimary level ∧
        (r.object.walked (livePtrs r.object.mSecondaryBuffers)).any r.object.lacksStorage then
      some { r with nullStatus := true }
    else do
      let (_, object) ← r.object.setCooperativeLevel level mem
      some { r with object := object }
  | .dispose p => do
    let _ ← r.object.getBuffer p
    let object ← r.object.dispose p
    some { r with object := object }
  | .change p b => some { r with object := r.object.setBuffer p b }
  | .outside object => some { r with object := object }

end CreateRun

/-- When a step can be taken: what `CreateSoundBuffer` and `DuplicateSoundBuffer` check
first, and for the calls that are not modelled further what they leave alone.  Nobody
else has a pointer to a buffer that is being created. -/
def CreateOp.Legal [Abi] {θ : Type} (r : CreateRun θ) : CreateOp θ → Prop
  | .initializeObject shared allocs => (Op.initializeObject shared allocs).Legal r.object
  | .createSoundBuffer t desc mem =>
    r.pc t = .idle ∧ r.object.mShared.isSome ∧ sizeofBufferDesc1 ≤ desc.dwSize ∧
    hasFlag desc.dwFlags Caps.primaryBuffer = false ∧
    ¬ (hasFlag desc.dwFlags Caps.ctrl3D ∧ hasFlag desc.dwFlags Caps.ctrlPan ∧ r.object.mIs8) ∧
    ∀ base, mem.group = some base → FreshBase base r.object.mSecondaryBuffers
  | .duplicateSoundBuffer t original mem =>
    r.pc t = .idle ∧ r.object.mShared.isSome ∧ (∀ t, (r.pc t).slot.map Prod.fst ≠ some original) ∧
    ∀ base, mem.group = some base → FreshBase base r.object.mSecondaryBuffers
  | .initializeBuffer _ _ | .release _ | .setCooperativeLevel _ _ => True
  | .dispose p => ∀ t, (r.pc t).slot.map Prod.fst ≠ some p
  | .change p b => (r.object.getBuffer p).map Buffer.mBuffer = some b.mBuffer
  | .outside object => object.mSecondaryBuffers = r.object.mSecondaryBuffers

/-- One step. -/
def CreateStep [Abi] {θ : Type} [DecidableEq θ] (r : CreateRun θ) (op : CreateOp θ)
    (r' : CreateRun θ) : Prop := op.Legal r ∧ r.exec op = some r'

/-- A new object, on which nothing has been called. -/
def CreateRun.IsNew {θ : Type} (r : CreateRun θ) : Prop :=
  ∃ is8, r = { object := .new is8, pc := fun _ ↦ .idle }

end Dsoal
