import Dsoal.Core.CaptureObject
import Dsoal.Core.Positions
import Dsoal.Lib.Toggle

/-!
# Locking, of both kinds of buffers

`DSCBuffer` has a `Lock` and an `Unlock` of its own.  What they and those of `Buffer` do to
`mLocked` is followed over any sequence of calls, each of which finds the buffer in some state
and, for `Unlock`, is given some regions.
-/

namespace Dsoal

/-- `DSCBLOCK_ENTIREBUFFER`. -/
def captureEntireBuffer : UInt32 := 1

namespace DSCBuffer

variable {w : ℕ}

/-- The samples in an address space of `w` bits: `mBuffer.data()`. -/
structure Samples (w : ℕ) (b : DSCBuffer) where
  data : BitVec w
  ne_null : b.size ≠ 0 → data ≠ 0
  fits : data.toNat + b.size.toNat ≤ 2 ^ w

/-- The number of bytes `Lock` works with: its argument, or all. -/
def lockBytes (b : DSCBuffer) (dwReadBytes dwFlags : UInt32) : UInt32 :=
  if hasFlag dwFlags captureEntireBuffer then b.size else dwReadBytes

/-- The regions of `Lock`; `second` says whether the pointers for the second are given. -/
def splitRegions (b : DSCBuffer) (data : BitVec w) (dwReadCusor dwReadBytes : UInt32)
    (second : Bool) : LockedRegions w :=
  let audioPtr1 := data + BitVec.ofNat w dwReadCusor.toNat
  if dwReadCusor > b.size - dwReadBytes then
    let audioBytes1 := b.size - dwReadCusor
    let remain := dwReadBytes - audioBytes1
    if second ∧ remain ≠ 0 then
      { audioPtr1 := audioPtr1, audioBytes1 := audioBytes1, audioPtr2 := data,
        audioBytes2 := remain }
    else { audioPtr1 := audioPtr1, audioBytes1 := audioBytes1 }
  else { audioPtr1 := audioPtr1, audioBytes1 := dwReadBytes }

/-- `DSCBuffer::Lock`; `first` and `second` say whether the pointers for each of the regions
are given.  The last component is the new `mLocked`. -/
def lock (b : DSCBuffer) (data : BitVec w) (mLocked : Bool)
    (dwReadCusor dwReadBytes dwFlags : UInt32) (first second : Bool) :
    HResult × LockedRegions w × Bool :=
  if !first then (.invalidParam, {}, mLocked)
  else if dwReadCusor > b.size then (.invalidParam, {}, mLocked)
  else if ¬ hasFlag dwFlags captureEntireBuffer ∧ dwReadBytes > b.size then
    (.invalidParam, {}, mLocked)
  else if mLocked then (.invalidParam, {}, true)
  else (.ok, b.splitRegions data dwReadCusor (b.lockBytes dwReadBytes dwFlags) second, true)

/-- `DSCBuffer::Unlock`. -/
def unlock (b : DSCBuffer) (data : BitVec w) (mLocked : Bool) (regions : LockedRegions w) :
    HResult × Bool :=
  if !mLocked then (.invalidParam, false)
  else
    let ofs1 := regions.audioPtr1 - data
    let ofs2 := if regions.audioPtr2 ≠ 0 then regions.audioPtr2 - data else 0
    if ofs1.toNat > b.size.toNat ∨ b.size.toNat - ofs1.toNat < regions.audioBytes1.toNat ∨
        regions.audioBytes2.toNat > ofs1.toNat then (.invalidParam, false)
    else if ofs2 ≠ 0 then (.invalidParam, false)
    else (.ok, false)

end DSCBuffer

/-! ## Sequences of calls -/

/-- The regions a secondary buffer can be unlocked with. -/
def Buffer.Accepts {w : ℕ} (b : Buffer) (data : BitVec w) (regions : LockedRegions w) : Prop :=
  ∀ sb ∈ b.mBuffer, (regions.audioPtr1 - data).toNat < sb.dataSize.toNat ∧
    regions.Fit sb.dataSize.toNat data

/-- The regions a capture buffer can be unlocked with. -/
def DSCBuffer.Accepts {w : ℕ} (b : DSCBuffer) (data : BitVec w) (regions : LockedRegions w) :
    Prop :=
  regions.Fit b.size.toNat data

/-- What `Lock` and `Unlock` of a kind of buffers do, but for the regions `Lock` returns. -/
structure LockMethods (β : Type) (w : ℕ) where
  lock : β → BitVec w → Bool → UInt32 → UInt32 → UInt32 → Bool → Bool → Option (HResult × Bool)
  unlock : β → BitVec w → Bool → LockedRegions w → Option (HResult × Bool)

/-- Those of the secondary buffers of a device. -/
def Buffer.lockMethods (refresh : Refresh) (w : ℕ) : LockMethods Buffer w where
  lock b data mLocked offset bytes flags first second :=
    (b.lock refresh data mLocked offset bytes flags first second).map fun r ↦ (r.1, r.2.2)
  unlock := Buffer.unlock

/-- Those of capture buffers. -/
def DSCBuffer.lockMethods (w : ℕ) : LockMethods DSCBuffer w where
  lock b data mLocked dwReadCusor dwReadBytes dwFlags first second :=
    let r := b.lock data mLocked dwReadCusor dwReadBytes dwFlags first second
    some (r.1, r.2.2)
  unlock b data mLocked regions := some (b.unlock data mLocked regions)

/-- A call, with the buffer and its samples as it finds them. -/
inductive LockCall (β : Type) (w : ℕ) where
  | lock (b : β) (data : BitVec w) (offset bytes flags : UInt32) (first second : Bool)
  | unlock (b : β) (data : BitVec w) (regions : LockedRegions w)

/-- Which of the two is called. -/
def LockCall.toggle {β : Type} {w : ℕ} : LockCall β w → Toggle
  | .lock .. => .set
  | .unlock .. => .clear

/-- `mLocked`, and the calls that have succeeded. -/
structure LockState where
  mLocked : Bool := false
  done : List Toggle := []
  deriving DecidableEq, Repr

namespace LockMethods

variable {β : Type} {w : ℕ}

/-- An `Unlock` of a locked buffer is given regions that the buffer accepts. -/
def Given (accepts : β → BitVec w → LockedRegions w → Prop) (mLocked : Bool) :
    LockCall β w → Prop
  | .lock .. => True
  | .unlock b data regions => mLocked = true → accepts b data regions

/-- What a call returns, and the new `mLocked`. -/
def call (m : LockMethods β w) (mLocked : Bool) : LockCall β w → Option (HResult × Bool)
  | .lock b data offset bytes flags first second =>
    m.lock b data mLocked offset bytes flags first second
  | .unlock b data regions => m.unlock b data mLocked regions

/-- Perform a call. -/
def exec (m : LockMethods β w) (s : LockState) (c : LockCall β w) : Option LockState :=
  (m.call s.mLocked c).map fun r ↦
    ⟨r.2, if r.1.succeeded then s.done ++ [c.toggle] else s.done⟩

/-- A buffer that nothing has been called on. -/
def IsNew (s : LockState) : Prop := s = {}

end LockMethods

end Dsoal
