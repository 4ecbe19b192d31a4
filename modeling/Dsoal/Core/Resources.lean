import Dsoal.Core.Methods
import Dsoal.Lib.RefHeap

/-!
# What buffers own

A buffer owns the OpenAL source named by `mSource` and a reference to a `SharedBuffer`,
which is destroyed with the last reference and takes its OpenAL buffer with it.  The
model of the object has a copy of the `SharedBuffer` in each buffer, and no names; here
the calls that create and destroy secondary buffers are gone through once more, with the
names, the counters, and the variable the caller gets its pointer in.

Other calls are steps of the object.  They may generate and delete sources, and so may
other objects on the device, which can also share the `SharedBuffer`s.

`mRef` of a `SharedBuffer` is a natural number: it is at most one more than there are live
`Buffer`s, and wraps around in a `ULONG` only with `2 ^ 32` of these.
-/

namespace Dsoal

/-- An `ALuint` that names a source or a buffer; 0 names none. -/
abbrev AlName := ℕ

/-- What is live in the OpenAL context and in memory. -/
structure Resources where
  alSources : Finset AlName := ∅
  alBuffers : Finset AlName := ∅
  /-- The `SharedBuffer`s by address, each with `mRef` and `mAlBuffer`. -/
  shared : RefHeap ℕ AlName := fun _ ↦ none

/-- The address and the names a call gets if it asks for them. -/
structure Names where
  shared : ℕ
  alBuffer : AlName
  alSource : AlName

/-- What a buffer owns. -/
structure Owned where
  mSource : AlName := 0
  /-- The address of the `SharedBuffer`, `none` for a null pointer. -/
  mBuffer : Option ℕ := none

namespace Resources

/-- The names are of nothing that is live. -/
def Fresh (r : Resources) (names : Names) : Prop :=
  r.shared names.shared = none ∧ names.alBuffer ≠ 0 ∧ names.alBuffer ∉ r.alBuffers ∧
    names.alSource ≠ 0 ∧ names.alSource ∉ r.alSources

instance (r : Resources) (names : Names) : Decidable (r.Fresh names) :=
  inferInstanceAs (Decidable (_ ∧ _ ∧ _ ∧ _ ∧ _))

/-- `alGenSourcesDirect`. -/
def genSource (r : Resources) (name : AlName) : Resources :=
  { r with alSources := insert name r.alSources }

/-- `alDeleteSourcesDirect`, for a name that is not 0. -/
def deleteSource (r : Resources) (name : AlName) : Resources :=
  if name = 0 then r else { r with alSources := r.alSources.erase name }

/-- `SharedBuffer::Release`, with `~SharedBuffer`. -/
def releaseShared (r : Resources) (a : ℕ) : Option Resources := do
  let (freed, shared) ← r.shared.release a
  match freed with
  | none => some { r with shared := shared }
  | some mAlBuffer => some { r with
      shared := shared
      alBuffers := if mAlBuffer ≠ 0 then r.alBuffers.erase mAlBuffer else r.alBuffers }

/-- Copy a pointer to a `SharedBuffer`. -/
def copyShared (r : Resources) : Option ℕ → Option Resources
  | none => some r
  | some a => (r.shared.addRef a).map fun shared ↦ { r with shared := shared }

/-- Set a pointer to a `SharedBuffer` to null. -/
def resetShared (r : Resources) : Option ℕ → Option Resources
  | none => some r
  | some a => r.releaseShared a

/-- `SharedBuffer::Create`.  The object is allocated before its format is looked at, and
released if there is none for it. -/
def createShared (r : Resources) (bufferDesc : BufferDesc) (format : WaveFormat)
    (exts : Extensions) (memory : Bool) (names : Names) :
    Option (Except HResult SharedBuffer × Resources) :=
  if !validFormat format then some (.error .invalidParam, r)
  else if format.nAvgBytesPerSec = 0 then some (.error .invalidParam, r)
  else if hasFlag bufferDesc.dwFlags Caps.locSoftware ∧
      hasFlag bufferDesc.dwFlags Caps.locHardware then some (.error .invalidParam, r)
  else
    let bufSize := bufferSize bufferDesc.dwBufferBytes format.nBlockAlign
    if bufSize < sizeMin then some (.error .bufferTooSmall, r)
    else if bufSize > sizeMax then some (.error .invalidParam, r)
    else if !memory then some (.error .outOfMemory, r)
    else
      let r := { r with shared := r.shared.alloc names.shared 0 }
      match convertAny format with
      | none => do
        let r ← r.releaseShared names.shared
        some (.error .invalidParam, r)
      | some (mWfxFormat, sampleType, config) =>
        if !hasALFormat sampleType config exts then do
          let r ← r.releaseShared names.shared
          some (.error .invalidParam, r)
        else do
          let shared ← r.shared.store names.shared names.alBuffer
          some (.ok { dataSize := bufSize, mFlags := bufferDesc.dwFlags, mWfxFormat := mWfxFormat },
            { r with shared := shared, alBuffers := insert names.alBuffer r.alBuffers })

end Resources

/-- A `DSound8OAL` with the resources of the device. -/
structure ResourceRun where
  object : DSound8OAL
  resources : Resources := {}
  /-- What the secondary buffers own. -/
  owned : Ptr → Owned := fun _ ↦ {}

/-- What `DuplicateSoundBuffer` can be asked to duplicate. -/
inductive Original where
  | secondary (p : Ptr)
  | primary
  deriving DecidableEq, Repr

/-- The calls that create a secondary buffer. -/
inductive Creation where
  | createSoundBuffer (bufferDesc : Option BufferDesc) (outer : Bool)
  | duplicateSoundBuffer (original : Option Original)

namespace ResourceRun

/-- `createSecondaryBuffer`, for the constructed buffer `b`.  The constructor copies the
pointer `mBuffer` of the original. -/
def construct (w : ResourceRun) (b : Buffer) (mBuffer : Option ℕ) (mem : Memory) :
    Option (Ptr × ResourceRun) := do
  let (p, object) ← w.object.construct b mem
  let resources ← w.resources.copyShared mBuffer
  some (p, {
    object := object
    resources := resources
    owned := Function.update w.owned p { mBuffer := mBuffer } })

/-- The storage `Buffer::Initialize` works with. -/
def storage (w : ResourceRun) (p : Ptr) (b : Buffer) (dsBufferDesc : Option BufferDesc)
    (memory : Bool) (names : Names) : Option (Except HResult SharedBuffer × ResourceRun) :=
  match b.mBuffer, dsBufferDesc with
  | some sb, _ => some (.ok sb, w)
  | none, none => some (.error .invalidParam, w)
  | none, some desc =>
    match desc.lpwfxFormat with
    | none => some (.error .invalidParam, w)
    | some format =>
      if hasFlag desc.dwFlags Caps.ctrl3D ∧ format.nChannels ≠ 1 ∧ b.mIs8 then
        some (.error .invalidParam, w)
      else do
        let (stored, resources) ←
          w.resources.createShared desc format w.object.mExtensions memory names
        let w := { w with resources := resources }
        match stored with
        | .error hr => some (.error hr, w)
        | .ok sb => some (.ok sb, { w with
            owned := Function.update w.owned p
              { w.owned p with mBuffer := some names.shared } })

/-- Generate the source of the buffer at `p`. -/
def genSource (w : ResourceRun) (p : Ptr) (name : AlName) : ResourceRun :=
  { w with
    resources := w.resources.genSource name
    owned := Function.update w.owned p { w.owned p with mSource := name } }

/-- `Buffer::Initialize`.  In `setLocation` the buffer gets a source if it is located. -/
def initializeBuffer (w : ResourceRun) (p : Ptr) (dsBufferDesc : Option BufferDesc)
    (memory : Bool) (names : Names) : Option (HResult × ResourceRun) := do
  let b ← w.object.getBuffer p
  if b.mIsInitialized then some (.alreadyInitialized, w)
  else do
    let (stored, w) ← w.storage p b dsBufferDesc memory names
    match stored with
    | .error hr => some (hr, w)
    | .ok sb => do
      let b := { b with
        mBuffer := some sb
        mFrequency := if b.mFrequency = 0 then sb.mWfxFormat.nSamplesPerSec else b.mFrequency }
      let s := if b.is3D then w.object.add3dBuffer p b else w.object
      let dev ← s.mShared
      let (hr, b, dev) ← b.initLocation s.parent dev
      let w := { w with object := { s.setBuffer p b with mShared := some dev } }
      some (hr, if b.mSource.isSome ∧ (w.owned p).mSource = 0 then w.genSource p names.alSource
        else w)

/-- `DSound8OAL::dispose` of a buffer, with `Buffer::~Buffer`. -/
def dispose [Abi] (w : ResourceRun) (p : Ptr) : Option ResourceRun := do
  let object ← w.object.dispose p
  let resources := w.resources.deleteSource (w.owned p).mSource
  let resources ← resources.resetShared (w.owned p).mBuffer
  some { object := object, resources := resources, owned := Function.update w.owned p {} }

/-- Initialize a buffer that has just been constructed.  The pointer to it goes to the
caller, or is released if the initialization fails. -/
def initializeNew [Abi] (w : ResourceRun) (p : Ptr) (dsBufferDesc : Option BufferDesc)
    (memory : Bool) (names : Names) : Option (HResult × Option Ptr × ResourceRun) := do
  let (hr, w) ← w.initializeBuffer p dsBufferDesc memory names
  if hr.failed then
    let w ← w.dispose p
    some (hr, none, w)
  else some (hr, some p, w)

/-- `CreateSoundBuffer` of a secondary buffer.  `dsBuffer` is what the caller's variable
holds, where `none` is a null pointer, or `none` if the pointer to the variable is null;
the second component of the result is what it holds afterwards. -/
def createSoundBuffer [Abi] (w : ResourceRun) (bufferDesc : Option BufferDesc)
    (dsBuffer : Option (Option Ptr)) (outer : Bool) (mem : Memory) (names : Names) :
    Option (HResult × Option (Option Ptr) × ResourceRun) :=
  match dsBuffer with
  | none => some (.invalidParam, none, w)
  | some _ =>
    if outer then some (.noAggregation, some none, w)
    else
      match bufferDesc with
      | none => some (.invalidParam, some none, w)
      | some desc =>
        if desc.dwSize < sizeofBufferDesc1 then some (.invalidParam, some none, w)
        else if w.object.mShared.isNone then some (.uninitialized, some none, w)
        else if hasFlag desc.dwFlags Caps.primaryBuffer then none
        else if hasFlag desc.dwFlags Caps.ctrl3D ∧ hasFlag desc.dwFlags Caps.ctrlPan ∧
            w.object.mIs8 then
          some (.invalidParam, some none, w)
        else do
          let (p, w) ← w.construct (.fresh w.object.nextBorn w.object.mIs8) none mem
          let (hr, q, w) ← w.initializeNew p (some desc) mem.samples names
          some (hr, some q, w)

/-- `DuplicateSoundBuffer`. -/
def duplicateSoundBuffer [Abi] (w : ResourceRun) (original : Option Original)
    (duplicate : Option (Option Ptr)) (mem : Memory) (names : Names) :
    Option (HResult × Option (Option Ptr) × ResourceRun) :=
  if w.object.mShared.isNone then some (.uninitialized, duplicate, w)
  else
    match original, duplicate with
    | none, _ | _, none => some (.invalidParam, duplicate, w)
    | some .primary, some _ =>
      -- anything but a primary buffer is cast to a `Buffer`
      if hasFlag w.object.mPrimaryBuffer.mFlags Caps.primaryBuffer then
        some (.invalidParam, some none, w)
      else none
    | some (.secondary p), some _ => do
      let orig ← w.object.getBuffer p
      let sb ← orig.mBuffer
      if hasFlag sb.mFlags Caps.primaryBuffer then some (.invalidParam, some none, w)
      else if hasFlag sb.mFlags Caps.ctrlFX then some (.invalidParam, some none, w)
      else
        let b ← Buffer.duplicate w.object.nextBorn w.object.mIs8 orig
        if (w.object.construct b mem).isNone then some (.outOfMemory, some none, w)
        else
          let (q, w) ← w.construct b (w.owned p).mBuffer mem
          let (hr, q, w) ← w.initializeNew q none mem.samples names
          some (hr, some q, w)

/-- Perform a call that creates a secondary buffer. -/
def create [Abi] (w : ResourceRun) (c : Creation) (result : Option (Option Ptr))
    (mem : Memory) (names : Names) : Option (HResult × Option (Option Ptr) × ResourceRun) :=
  match c with
  | .createSoundBuffer bufferDesc outer => w.createSoundBuffer bufferDesc result outer mem names
  | .duplicateSoundBuffer original => w.duplicateSoundBuffer original result mem names

/-- The call returns before it has cleared the caller's variable. -/
def Skips (w : ResourceRun) : Creation → Prop
  | .createSoundBuffer _ _ => False
  | .duplicateSoundBuffer original => w.object.mShared = none ∨ original = none

instance (w : ResourceRun) (c : Creation) : Decidable (w.Skips c) :=
  match c with
  | .createSoundBuffer _ _ => inferInstanceAs (Decidable False)
  | .duplicateSoundBuffer original =>
    decidable_of_iff (w.object.mShared.isNone ∨ original.isNone) <| by
      simp [Skips]

/-- The live secondary buffers. -/
def live (w : ResourceRun) : Finset Ptr := (livePtrs w.object.mSecondaryBuffers).toFinset

/-- The resources `r` come from those of `w` without anybody returning a reference that a
secondary buffer holds: the `SharedBuffer` is live as before, and counts at least the
secondary buffers that hold it. -/
def Respects (w : ResourceRun) (r : Resources) : Prop :=
  ∀ p ∈ w.live, ∀ a c, (w.owned p).mBuffer = some a → w.resources.shared a = some c →
    ∃ c', r.shared a = some c' ∧ c'.value = c.value ∧
      (RefHeap.holders w.live (fun q ↦ (w.owned q).mBuffer) a).card ≤ c'.count

end ResourceRun

/-- A call that creates or destroys secondary buffers; `CreateSoundBuffer` does unless it
is for the primary buffer. -/
def Op.managesBuffers : Op → Bool
  | .createSoundBuffer bufferDesc _ _ _ =>
    !bufferDesc.any fun desc ↦ hasFlag desc.dwFlags Caps.primaryBuffer
  | .duplicateSoundBuffer _ _ _ | .release _ => true
  | _ => false

/-- What happens in one step. -/
inductive ResourceOp where
  | create (c : Creation) (result : Option (Option Ptr)) (mem : Memory) (names : Names)
  /-- The last `Release` of a buffer. -/
  | release (p : Ptr)
  /-- Another step of the object, with what becomes of the resources, and of the sources
  of the buffers. -/
  | other (op : Op) (resources : Resources) (mSource : Ptr → AlName)

/-- Perform one step. -/
def ResourceRun.exec [Abi] (w : ResourceRun) : ResourceOp → Option ResourceRun
  | .create c result mem names => do
    let (_, _, w) ← w.create c result mem names
    some w
  | .release p => do
    let _ ← w.object.getBuffer p
    w.dispose p
  | .other op resources mSource => do
    let (_, object) ← w.object.exec op
    some { object := object, resources := resources, owned := fun p ↦
      { w.owned p with mSource := mSource p } }

/-- When a step can be taken.  New names are of nothing that is live, and others return
their own references only. -/
def ResourceOp.Legal [Abi] (w : ResourceRun) : ResourceOp → Prop
  | .create _ _ mem names =>
    (∀ b, mem.group = some b → FreshBase b w.object.mSecondaryBuffers) ∧
      w.resources.Fresh names
  | .release _ => True
  | .other op resources _ =>
    op.Legal w.object ∧ op.managesBuffers = false ∧ w.Respects resources

/-- One step. -/
def ResourceStep [Abi] (w : ResourceRun) (op : ResourceOp) (w' : ResourceRun) : Prop :=
  op.Legal w ∧ w.exec op = some w'

/-- A new object, on a device on which there may be other objects. -/
def ResourceRun.IsNew (w : ResourceRun) : Prop := w.object.IsNew

end Dsoal
