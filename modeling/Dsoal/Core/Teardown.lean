import Dsoal.Core.DSound

/-!
# Destroying the object

The last `Release` of a `DSound8OAL` deletes it: the body of `~DSound8OAL` ends the
notify thread, and then the members are destroyed in the reverse order of their
declaration.  Two members own buffers, `mPrimaryBuffer` the one for write emulation
and `mSecondaryBuffers` all the others, and the destructor of a buffer reaches back
into the object through `mParent`.

The model records what happens as a list of events.
-/

namespace Dsoal

/-- The members of `DSound8OAL`. -/
inductive Member where
  | mUnknownIface | mTotalRef | mDsRef | mUnkRef | mDsMutex | mPrioLevel | mShared | mExtensions
  | mRefresh | mSecondaryBuffers | mPrimaryBuffer | m3dBuffers | mNotifyBuffers | mNotifyCond
  | mNotifyThread | mQuitNotify | mIs8
  deriving DecidableEq, Repr

/-- The members in the order of their declaration. -/
def Member.declared : List Member :=
  [.mUnknownIface, .mTotalRef, .mDsRef, .mUnkRef, .mDsMutex, .mPrioLevel, .mShared, .mExtensions,
    .mRefresh, .mSecondaryBuffers, .mPrimaryBuffer, .m3dBuffers, .mNotifyBuffers, .mNotifyCond,
    .mNotifyThread, .mQuitNotify, .mIs8]

/-- Where a buffer is. -/
inductive BufferAt where
  | secondary (p : Ptr)
  | writeEmu
  deriving DecidableEq, Repr

/-- What happens while the object is destroyed. -/
inductive TeardownEvent where
  /-- `mNotifyThread.join()`, after it has been told to quit. -/
  | joinNotifyThread
  /-- The destructor of a buffer starts. -/
  | destroyBuffer (x : BufferAt)
  /-- `alDeleteSourcesDirect(mContext, 1, &srcid)`. -/
  | deleteSource (x : BufferAt)
  /-- `mParent.getShared().decHwSources()` or `decSwSources()`. -/
  | decSources (x : BufferAt) (k : Pool)
  /-- `mParent.remove3dBuffer(this)`. -/
  | remove3dBuffer (x : BufferAt)
  /-- The destruction of a member ends. -/
  | destroyed (m : Member)
  deriving DecidableEq, Repr

/-- The members an event works with.  The context a source is deleted in belongs to the
device that `mShared` holds. -/
def TeardownEvent.needs : TeardownEvent → List Member
  | .joinNotifyThread => [.mNotifyThread, .mQuitNotify, .mDsMutex, .mNotifyCond]
  | .deleteSource _ | .decSources _ _ => [.mShared]
  | .remove3dBuffer _ => [.m3dBuffers]
  | .destroyBuffer _ | .destroyed _ => []

/-- `Buffer::~Buffer`. -/
def Buffer.destructor (x : BufferAt) (b : Buffer) : List TeardownEvent :=
  .destroyBuffer x ::
    ((if b.mSource.isSome then [.deleteSource x] else []) ++
      (match b.mLocStatus with
        | .none => []
        | .loc k => [.decSources x k]) ++
      if b.is3D then [.remove3dBuffer x] else [])

namespace DSound8OAL

/-- The destruction of one slot; `none` if nothing has been constructed there. -/
def destroySlot (p : Ptr) : Option Buffer → List TeardownEvent
  | some b => b.destructor (.secondary p)
  | none => [.destroyBuffer (.secondary p)]

/-- What the destructor of a member does. -/
def destroyMember (s : DSound8OAL) : Member → List TeardownEvent
  | .mPrimaryBuffer => s.mPrimaryBuffer.mWriteEmu.elim [] (Buffer.destructor .writeEmu)
  | .mSecondaryBuffers => s.mSecondaryBuffers.flatMap fun g ↦
    g.destroyedSlots.flatMap fun i ↦ destroySlot ⟨g.base, i⟩ (g.elem i)
  | _ => []

/-- `DSound8OAL::~DSound8OAL`. -/
def teardown (s : DSound8OAL) : List TeardownEvent :=
  (if s.mNotifyThread then [.joinNotifyThread] else []) ++
    Member.declared.reverse.flatMap fun m ↦ s.destroyMember m ++ [.destroyed m]

/-- The live buffer at a place. -/
def bufferAt (s : DSound8OAL) : BufferAt → Option Buffer
  | .secondary p => s.getBuffer p
  | .writeEmu => s.mPrimaryBuffer.mWriteEmu

end DSound8OAL

end Dsoal
