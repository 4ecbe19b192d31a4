import Dsoal.Core.Buffer3D
import Dsoal.Core.Primary
import Dsoal.Core.Slots

/-!
# The `DSound8OAL` object

The state of a `DSound8OAL` and its methods, together with the methods of its
buffers that reach beyond the buffer.  A method holds the mutex of the object from
beginning to end, so that it is one step of the model; the two exceptions,
`CreateSoundBuffer` and `DuplicateSoundBuffer`, release it between the
construction and the initialization of a buffer nobody else has a pointer to.

A method returns `none` where the program has no defined behaviour: a call
through a pointer to a destroyed buffer, or a null pointer dereferenced.
-/

namespace Dsoal

/-- An element of `m3dBuffers` or `mNotifyBuffers`.  The pointer is all the program
stores; `born` records which buffer was registered. -/
structure Registered where
  ptr : Ptr
  born : ℕ
  deriving DecidableEq, Repr

/-- What the memory allocator does in a call: the array for a new group of buffers
and whether the vector of groups grows, whether there is memory for the samples,
and whether there is memory for the write-emulation buffer. -/
structure Memory where
  group : Option ℕ := none
  grow : Bool := false
  samples : Bool := true
  emu : Bool := true
  deriving DecidableEq, Repr

/-- `DSound8OAL`. -/
structure DSound8OAL where
  mIs8 : Bool
  mPrioLevel : UInt32 := 0
  /-- `none` until `Initialize` succeeds. -/
  mShared : Option DeviceSources := none
  mExtensions : Extensions := {}
  mSecondaryBuffers : List (BufferSubList Buffer) := []
  mPrimaryBuffer : PrimaryBuffer := {}
  m3dBuffers : List Registered := []
  mNotifyBuffers : List Registered := []
  /-- `mNotifyThread.joinable()`. -/
  mNotifyThread : Bool := false
  /-- The listener of the OpenAL context. -/
  alListener : ListenerAttrs := {}
  /-- The notifications whose events have been signalled. -/
  signalled : List (PositionNotify EventHandle) := []
  /-- The number of constructions so far. -/
  nextBorn : ℕ := 0

namespace DSound8OAL

/-- What the buffers read of the object. -/
def parent (s : DSound8OAL) : Parent where
  mExtensions := s.mExtensions
  rolloffFactor := s.mPrimaryBuffer.mImmediate.flRolloffFactor
  mPrioLevel := s.mPrioLevel

/-- The secondary buffer at a pointer, if there is one. -/
def getBuffer (s : DSound8OAL) (p : Ptr) : Option Buffer := lookup p s.mSecondaryBuffers

/-- Change the secondary buffer at a pointer. -/
def setBuffer (s : DSound8OAL) (p : Ptr) (b : Buffer) : DSound8OAL :=
  { s with mSecondaryBuffers := modify p (fun _ ↦ b) s.mSecondaryBuffers }

/-! ## The lists of buffers -/

/-- `add3dBuffer`. -/
def add3dBuffer (s : DSound8OAL) (p : Ptr) (b : Buffer) : DSound8OAL :=
  { s with m3dBuffers := s.m3dBuffers ++ [⟨p, b.born⟩] }

/-- `remove3dBuffer`. -/
def remove3dBuffer (s : DSound8OAL) (p : Ptr) : DSound8OAL :=
  { s with m3dBuffers := s.m3dBuffers.filter fun e ↦ e.ptr ≠ p }

/-- `isPendingNotify`. -/
def isPendingNotify (s : DSound8OAL) (p : Ptr) : Bool := s.mNotifyBuffers.any fun e ↦ e.ptr = p

/-- `addNotifyBuffer`, which starts the notify thread if it is not running. -/
def addNotifyBuffer (s : DSound8OAL) (p : Ptr) (b : Buffer) : DSound8OAL :=
  if s.isPendingNotify p then s
  else { s with mNotifyBuffers := s.mNotifyBuffers ++ [⟨p, b.born⟩], mNotifyThread := true }

/-- `removeNotifyBuffer`. -/
def removeNotifyBuffer (s : DSound8OAL) (p : Ptr) : DSound8OAL :=
  { s with mNotifyBuffers := s.mNotifyBuffers.filter fun e ↦ e.ptr ≠ p }

/-- Poll the buffers of a list; the list that is left is the first component. -/
def pollBuffers : List Registered → DSound8OAL → Option (List Registered × DSound8OAL)
  | [], s => some ([], s)
  | e :: es, s => do
    let b ← s.getBuffer e.ptr
    let (hit, b, again) ← b.updateNotify
    let s := { s.setBuffer e.ptr b with signalled := s.signalled ++ hit }
    let (kept, s) ← pollBuffers es s
    some (if again then e :: kept else kept, s)

/-- `triggerNotifies`, also one round of `notifyThread`. -/
def triggerNotifies (s : DSound8OAL) : Option DSound8OAL := do
  let (kept, s) ← pollBuffers s.mNotifyBuffers s
  some { s with mNotifyBuffers := kept }

/-- A loop over the buffers of a list. -/
def forBuffers (f : Buffer → Buffer) : List Registered → DSound8OAL → Option DSound8OAL
  | [], s => some s
  | e :: es, s => do
    let b ← s.getBuffer e.ptr
    forBuffers f es (s.setBuffer e.ptr (f b))

/-! ## Creating and destroying buffers -/

/-- `createSecondaryBuffer`, for the constructed buffer `b`. -/
def construct (s : DSound8OAL) (b : Buffer) (mem : Memory) : Option (Ptr × DSound8OAL) := do
  let (p, gs) ← createSecondaryBuffer b mem.group mem.grow s.mSecondaryBuffers
  some (p, { s with mSecondaryBuffers := gs, nextBorn := s.nextBorn + 1 })

/-- `Buffer::Initialize` of a secondary buffer. -/
def initializeBuffer (s : DSound8OAL) (p : Ptr) (dsBufferDesc : Option BufferDesc)
    (memory : Bool) : Option (HResult × DSound8OAL) := do
  let b ← s.getBuffer p
  match b.attach s.mExtensions dsBufferDesc memory with
  | .error hr => some (hr, s)
  | .ok b =>
    let s := if b.is3D then s.add3dBuffer p b else s
    let dev ← s.mShared
    let (hr, b, dev) ← b.initLocation s.parent dev
    some (hr, { s.setBuffer p b with mShared := some dev })

/-- Return the source of a buffer that is destroyed. -/
def leaveSource (s : DSound8OAL) (b : Buffer) : Option DSound8OAL :=
  match b.mLocStatus with
  | .none => some s
  | l => s.mShared.map fun dev ↦ { s with mShared := some (dev.decSources l) }

/-- `Buffer::~Buffer` of a secondary buffer. -/
def destroyBuffer (s : DSound8OAL) (p : Ptr) (b : Buffer) : Option DSound8OAL := do
  let s ← s.leaveSource b
  some (if b.is3D then s.remove3dBuffer p else s)

/-- `DSound8OAL::dispose`, the end of the last `Release` of a buffer. -/
def dispose [Abi] (s : DSound8OAL) (p : Ptr) : Option DSound8OAL :=
  match findGroup p s.mSecondaryBuffers with
  | none => some s
  | some _ => do
    let b ← s.getBuffer p
    let s ← s.destroyBuffer p b
    some { s with mSecondaryBuffers := Dsoal.dispose p s.mSecondaryBuffers }

/-- Initialize a buffer that has just been constructed; if that fails, the only
reference to the buffer is released. -/
def initializeNew [Abi] (s : DSound8OAL) (p : Ptr) (dsBufferDesc : Option BufferDesc)
    (memory : Bool) : Option (HResult × DSound8OAL) := do
  let (hr, s) ← s.initializeBuffer p dsBufferDesc memory
  if hr.failed then
    let s ← s.dispose p
    some (hr, s)
  else some (hr, s)

/-! ## The write-emulation buffer -/

/-- `destroyWriteEmu`. -/
def destroyWriteEmu (s : DSound8OAL) : Option DSound8OAL :=
  match s.mPrimaryBuffer.mWriteEmu with
  | none => some s
  | some emu => do
    let s ← s.leaveSource emu
    some { s with mPrimaryBuffer := { s.mPrimaryBuffer with mWriteEmu := none } }

/-- `createWriteEmu`.  The new buffer is in no group; its description has neither
`DSBCAPS_CTRL3D` nor `DSBCAPS_CTRLPOSITIONNOTIFY`, so that it enters no list. -/
def createWriteEmu (s : DSound8OAL) (flags : UInt32) (mem : Memory) :
    Option (HResult × DSound8OAL) :=
  if !mem.emu then some (.outOfMemory, s)
  else
    let emu := Buffer.fresh s.nextBorn false
    let s := { s with nextBorn := s.nextBorn + 1 }
    match emu.attach s.mExtensions (some (s.mPrimaryBuffer.emuDesc flags)) mem.samples with
    | .error hr => some (hr, s)
    | .ok emu => do
      let dev ← s.mShared
      let (hr, emu, dev) ← emu.initLocation s.parent dev
      let s := { s with mShared := some dev }
      if hr.failed then
        let s ← s.leaveSource emu
        some (hr, s)
      else
        let s ← s.destroyWriteEmu
        some (hr, { s with mPrimaryBuffer := { s.mPrimaryBuffer with mWriteEmu := some emu } })

/-! ## The listener -/

/-- `PrimaryBuffer::setParams`. -/
def setListenerParams (s : DSound8OAL) (params : DS3DListener) (flags : ListenerFlags) :
    Option DSound8OAL :=
  let primary := { s.mPrimaryBuffer with
    mImmediate := PrimaryBuffer.copyParams flags params s.mPrimaryBuffer.mImmediate }
  let s := { s with
    mPrimaryBuffer := primary
    alListener := PrimaryBuffer.writeParams s.mExtensions params flags s.alListener }
  if flags .rolloffFactor then
    s.forBuffers (Buffer.writeRolloff params.flRolloffFactor) s.m3dBuffers
  else some s

/-- `PrimaryBuffer::commit`. -/
def commit (s : DSound8OAL) : Option DSound8OAL := do
  let flags := s.mPrimaryBuffer.mDirty
  let s := { s with mPrimaryBuffer := { s.mPrimaryBuffer with mDirty := .none } }
  let s ← if flags.any then s.setListenerParams s.mPrimaryBuffer.mDeferred flags else some s
  s.forBuffers (Buffer.commit s.parent) s.m3dBuffers

/-- Store listener parameters for a later commit. -/
def deferListener (s : DSound8OAL) (flags : ListenerFlags) (store : DS3DListener → DS3DListener) :
    DSound8OAL :=
  { s with mPrimaryBuffer := { s.mPrimaryBuffer with
      mDeferred := store s.mPrimaryBuffer.mDeferred
      mDirty := s.mPrimaryBuffer.mDirty.union flags } }

/-- The common shape of the listener setters. -/
def listenerSetter (valid : Bool) (flag : ListenerFlag) (store : DS3DListener → DS3DListener)
    (write : DSound8OAL → Option DSound8OAL) (apply : UInt32) (s : DSound8OAL) :
    Option (HResult × DSound8OAL) :=
  if !valid then some (.invalidParam, s)
  else if apply = ds3dDeferred then some (.ok, s.deferListener (.only flag) store)
  else do
    let primary := { s.mPrimaryBuffer with mImmediate := store s.mPrimaryBuffer.mImmediate }
    let s ← write { s with mPrimaryBuffer := primary }
    some (.ok, s)

/-- A change of the AL listener alone. -/
def writeListener (f : ListenerAttrs → ListenerAttrs) (s : DSound8OAL) : Option DSound8OAL :=
  some { s with alListener := f s.alListener }

/-- `Listener3D::SetAllParameters`. -/
def listenerSetAllParameters (listener : Option DS3DListener) (apply : UInt32) (s : DSound8OAL) :
    Option (HResult × DSound8OAL) :=
  match listener with
  | none => some (.invalidParam, s)
  | some params =>
    if params.dwSize < sizeofDS3DListener then some (.invalidParam, s)
    else if !PrimaryBuffer.validParams params then some (.invalidParam, s)
    else if apply = ds3dDeferred then
      some (.ok, s.deferListener .all fun _ ↦ { params with dwSize := sizeofDS3DListener })
    else do
      let s ← s.setListenerParams params .all
      some (.ok, s)

/-- `Listener3D::SetDistanceFactor`. -/
def setDistanceFactor (distanceFactor : Float32) (apply : UInt32) (s : DSound8OAL) :
    Option (HResult × DSound8OAL) :=
  listenerSetter (PrimaryBuffer.validDistanceFactor distanceFactor) .distanceFactor
    (fun p ↦ { p with flDistanceFactor := distanceFactor })
    (writeListener (PrimaryBuffer.writeDistanceFactor s.mExtensions distanceFactor)) apply s

/-- `Listener3D::SetDopplerFactor`. -/
def setDopplerFactor (dopplerFactor : Float32) :
    UInt32 → DSound8OAL → Option (HResult × DSound8OAL) :=
  listenerSetter (PrimaryBuffer.validFactor dopplerFactor) .dopplerFactor
    (fun p ↦ { p with flDopplerFactor := dopplerFactor })
    (writeListener (PrimaryBuffer.writeDopplerFactor dopplerFactor))

/-- `Listener3D::SetOrientation`. -/
def setOrientation (xFront yFront zFront xTop yTop zTop : Float32) :
    UInt32 → DSound8OAL → Option (HResult × DSound8OAL) :=
  listenerSetter true .orientation
    (fun p ↦ { p with
      vOrientFront := ⟨xFront, yFront, zFront⟩, vOrientTop := ⟨xTop, yTop, zTop⟩ })
    (writeListener (PrimaryBuffer.writeOrientation ⟨xFront, yFront, zFront⟩ ⟨xTop, yTop, zTop⟩))

/-- `Listener3D::SetPosition`. -/
def listenerSetPosition (x y z : Float32) :
    UInt32 → DSound8OAL → Option (HResult × DSound8OAL) :=
  listenerSetter true .position (fun p ↦ { p with vPosition := ⟨x, y, z⟩ })
    (writeListener (PrimaryBuffer.writePosition ⟨x, y, z⟩))

/-- `Listener3D::SetRolloffFactor`. -/
def setRolloffFactor (rolloffFactor : Float32) :
    UInt32 → DSound8OAL → Option (HResult × DSound8OAL) :=
  listenerSetter (PrimaryBuffer.validFactor rolloffFactor) .rolloffFactor
    (fun p ↦ { p with flRolloffFactor := rolloffFactor })
    fun s ↦ s.forBuffers (Buffer.writeRolloff rolloffFactor) s.m3dBuffers

/-- `Listener3D::SetVelocity`. -/
def listenerSetVelocity (x y z : Float32) :
    UInt32 → DSound8OAL → Option (HResult × DSound8OAL) :=
  listenerSetter true .velocity (fun p ↦ { p with vVelocity := ⟨x, y, z⟩ })
    (writeListener (PrimaryBuffer.writeVelocity ⟨x, y, z⟩))

/-- Perform a call of `IDirectSound3DListener`. -/
def callListener : ListenerCall → UInt32 → DSound8OAL → Option (HResult × DSound8OAL)
  | .setAllParameters listener => listenerSetAllParameters listener
  | .setDistanceFactor distanceFactor => setDistanceFactor distanceFactor
  | .setDopplerFactor dopplerFactor => setDopplerFactor dopplerFactor
  | .setOrientation xFront yFront zFront xTop yTop zTop =>
    setOrientation xFront yFront zFront xTop yTop zTop
  | .setPosition x y z => listenerSetPosition x y z
  | .setRolloffFactor rolloffFactor => setRolloffFactor rolloffFactor
  | .setVelocity x y z => listenerSetVelocity x y z

end DSound8OAL

end Dsoal
