import Dsoal.Lib.RefLedger

/-!
# Objects with several interfaces

`Buffer`, `DSound8OAL`, `DSCapture`, `DSCBuffer` and `DSFullDuplex` implement
several COM interfaces each, and count the references of every interface on its
own and all of them together in `mTotalRef`.  `AddRef` raises the total and then
the counter of the interface; `Release` lowers the counter of the interface and
then the total, and destroys the object when the total was one.  These are two
separate atomic operations in each, with nothing to keep other threads out in
between.

A state is the counters, which are `std::atomic<ULONG>`, together with the ledger
of the threads: the references every thread holds and the call it is in.
-/

universe u

namespace Dsoal

open RefLedger

/-- The interface counters of the five classes. -/
inductive RefCounter where
  | mDsRef | mDs3dRef | mPropRef | mNotRef | mUnkRef | mFdRef | mDS8Ref | mDSCRef
  deriving DecidableEq, Repr

instance : Fintype RefCounter where
  elems := {.mDsRef, .mDs3dRef, .mPropRef, .mNotRef, .mUnkRef, .mFdRef, .mDS8Ref, .mDSCRef}
  complete i := by cases i <;> decide

/-- The interface identifiers `QueryInterface` knows. -/
inductive Riid where
  | iidUnknown | iidDirectSound | iidDirectSound8
  | iidDirectSoundBuffer | iidDirectSoundBuffer8 | iidDirectSound3DBuffer
  | iidDirectSound3DListener
  | iidDirectSoundNotify | iidKsPropertySet
  | iidDirectSoundCapture | iidDirectSoundCaptureBuffer | iidDirectSoundCaptureBuffer8
  | iidDirectSoundFullDuplex
  /-- Any other identifier. -/
  | unhandled
  deriving DecidableEq, Repr

/-- The classes with several interfaces, with the data their `QueryInterface`
consults. -/
inductive MultiObject where
  /-- `Buffer`; the flags tell whether it has the 3D and the notify interface. -/
  | buffer (mIs8 ctrl3d ctrlPositionNotify : Bool)
  | dsound8OAL (mIs8 : Bool)
  | dscapture
  | dscbuffer (mIs8 : Bool)
  | dsfullDuplex
  deriving DecidableEq, Repr

namespace MultiObject

/-- The counter of the interface the object is created with; it and `mTotalRef`
start at one, the others at zero. -/
def primary : MultiObject → RefCounter
  | buffer .. | dsound8OAL _ | dscapture | dscbuffer _ => .mDsRef
  | dsfullDuplex => .mFdRef

/-- `QueryInterface`: the interface it adds a reference to.  Every interface of an
object forwards to the same function. -/
def queryInterface : MultiObject → Riid → Option RefCounter
  | buffer .., .iidUnknown => some .mUnkRef
  | buffer .., .iidDirectSoundBuffer => some .mDsRef
  | buffer mIs8 _ _, .iidDirectSoundBuffer8 => if mIs8 then some .mDsRef else none
  | buffer _ ctrl3d _, .iidDirectSound3DBuffer => if ctrl3d then some .mDs3dRef else none
  | buffer _ _ notify, .iidDirectSoundNotify => if notify then some .mNotRef else none
  | buffer .., .iidKsPropertySet => some .mPropRef
  | dsound8OAL _, .iidUnknown => some .mUnkRef
  | dsound8OAL mIs8, .iidDirectSound8 => if mIs8 then some .mDsRef else none
  | dsound8OAL _, .iidDirectSound => some .mDsRef
  | dscapture, .iidUnknown => some .mUnkRef
  | dscapture, .iidDirectSoundCapture => some .mDsRef
  | dscbuffer _, .iidUnknown => some .mDsRef
  | dscbuffer _, .iidDirectSoundCaptureBuffer => some .mDsRef
  | dscbuffer mIs8, .iidDirectSoundCaptureBuffer8 => if mIs8 then some .mDsRef else none
  | dscbuffer _, .iidDirectSoundNotify => some .mNotRef
  | dsfullDuplex, .iidUnknown => some .mUnkRef
  | dsfullDuplex, .iidDirectSoundFullDuplex => some .mFdRef
  | dsfullDuplex, .iidDirectSound8 => some .mDS8Ref
  | dsfullDuplex, .iidDirectSound => some .mDS8Ref
  | dsfullDuplex, .iidDirectSoundCapture => some .mDSCRef
  | _, _ => none

end MultiObject

/-- The counters of an object and what the threads are doing with it. -/
structure RefState (θ : Type u) where
  /-- All references together. -/
  mTotalRef : UInt32
  /-- The references of each interface. -/
  mRef : RefCounter → UInt32
  /-- The references the threads hold and the calls they are in. -/
  threads : Ledger RefCounter θ
  /-- How often the object has been disposed of or deleted. -/
  disposed : ℕ

namespace RefState

variable {θ : Type u} [DecidableEq θ]

/-- The object right after its creation by `t`. -/
def created (o : MultiObject) (t : θ) : RefState θ where
  mTotalRef := 1
  mRef := Function.update (fun _ ↦ 0) o.primary 1
  threads := .single t o.primary
  disposed := 0

/-- `mTotalRef.fetch_add(1)`, the first operation of `AddRef`. -/
def addTotal (s : RefState θ) (t : θ) (i : RefCounter) : RefState θ :=
  { s with mTotalRef := s.mTotalRef + 1, threads := s.threads.beginAcquire t i }

/-- `mDsRef.fetch_add(1)`, the second operation of `AddRef`. -/
def addRef (s : RefState θ) (t : θ) (i : RefCounter) : RefState θ :=
  { s with mRef := Function.update s.mRef i (s.mRef i + 1), threads := s.threads.endAcquire t i }

/-- `mDsRef.fetch_sub(1)`, the first operation of `Release`. -/
def release (s : RefState θ) (t : θ) (i : RefCounter) : RefState θ :=
  { s with mRef := Function.update s.mRef i (s.mRef i - 1), threads := s.threads.beginRelease t i }

/-- `if(mTotalRef.fetch_sub(1) == 1) ...`, the second operation of `Release`. -/
def finalize (s : RefState θ) (t : θ) : RefState θ :=
  { s with
    mTotalRef := s.mTotalRef - 1
    threads := s.threads.endRelease t
    disposed := if s.mTotalRef = 1 then s.disposed + 1 else s.disposed }

end RefState

/-- What a thread does next. -/
inductive RefOp (θ : Type u) where
  /-- Call `AddRef` through a reference to `i`. -/
  | addRef (t : θ) (i : RefCounter)
  /-- Call `QueryInterface` through a reference to `i`. -/
  | queryInterface (t : θ) (i : RefCounter) (riid : Riid)
  /-- Finish the `AddRef` that is under way. -/
  | addRefDone (t : θ)
  /-- Call `Release` on a reference to `i`. -/
  | release (t : θ) (i : RefCounter)
  /-- Finish the `Release` that is under way. -/
  | releaseDone (t : θ)
  /-- Hand a reference to another thread. -/
  | pass (t t' : θ) (i : RefCounter)

/-- One atomic operation of one thread.  A thread calls through references it
holds and does one call at a time. -/
inductive RefStep {θ : Type u} [DecidableEq θ] (o : MultiObject) :
    RefState θ → RefOp θ → RefState θ → Prop
  | addRef {s : RefState θ} {t : θ} {i : RefCounter} (idle : s.threads.phase t = .idle)
      (holds : 0 < s.threads.held t i) : RefStep o s (.addRef t i) (s.addTotal t i)
  | queryInterface {s : RefState θ} {t : θ} {i j : RefCounter} {riid : Riid}
      (idle : s.threads.phase t = .idle) (holds : 0 < s.threads.held t i)
      (h : o.queryInterface riid = some j) :
      RefStep o s (.queryInterface t i riid) (s.addTotal t j)
  | addRefDone {s : RefState θ} {t : θ} {i : RefCounter}
      (h : s.threads.phase t = .acquiring i) : RefStep o s (.addRefDone t) (s.addRef t i)
  | release {s : RefState θ} {t : θ} {i : RefCounter} (idle : s.threads.phase t = .idle)
      (holds : 0 < s.threads.held t i) : RefStep o s (.release t i) (s.release t i)
  | releaseDone {s : RefState θ} {t : θ} {i : RefCounter}
      (h : s.threads.phase t = .releasing i) : RefStep o s (.releaseDone t) (s.finalize t)
  | pass {s : RefState θ} {t t' : θ} {i : RefCounter} (idle : s.threads.phase t = .idle)
      (holds : 0 < s.threads.held t i) :
      RefStep o s (.pass t t' i) { s with threads := s.threads.pass t t' i }

end Dsoal
