import Dsoal.Core.Buffer

/-!
# Cursors and locked regions

Where a secondary buffer plays and where it can be written: `GetCurrentPosition`, `Lock` and
`Unlock`.  None of them changes anything but the flag `mLocked`, which no other method uses,
so that it is kept apart from the buffer.

A division by zero is `none`.
-/

namespace Dsoal

/-- `mRefresh`. -/
structure Refresh where
  val : UInt32
  lower : 20 ≤ val
  upper : val ≤ 100

namespace Refresh

/-- The `mRefresh` of an object that has no device. -/
def default : Refresh := ⟨100, by decide, by decide⟩

/-- `CreateDeviceShare` clamps what `ALC_REFRESH` gives. -/
def clamp (refresh : Int32) : Refresh where
  val := UInt32.ofNat (max 20 (min refresh.toInt 100)).toNat
  lower := by
    rw [UInt32.le_iff_toNat_le, UInt32.toNat_ofNat']
    show 20 ≤ _ % 4294967296
    omega
  upper := by
    rw [UInt32.le_iff_toNat_le, UInt32.toNat_ofNat']
    show _ % 4294967296 ≤ 100
    omega

end Refresh

namespace Buffer

/-- `Buffer::GetCurrentPosition`: the play cursor and the write cursor. -/
def getCurrentPosition (refresh : Refresh) (b : Buffer) : Option (UInt32 × UInt32) := do
  let sb ← b.mBuffer
  let status := b.mSource.elim .initial Source.state
  let ofs := b.mSource.elim 0 Source.ioffset
  let format := sb.mWfxFormat
  let (pos, writecursor) :=
    match status with
    | .playing =>
      (ofs, format.nSamplesPerSec / refresh.val * format.nBlockAlign.toUInt32 + ofs)
    | .stopped => (sb.dataSize, sb.dataSize)
    | .paused => (ofs, ofs)
    | .initial => (b.mLastPos, b.mLastPos)
  if sb.dataSize = 0 then none else some (pos % sb.dataSize, writecursor % sb.dataSize)

end Buffer

/-! ## Locking -/

namespace LockFlags

/-- `DSBLOCK_FROMWRITECURSOR`. -/
def fromWriteCursor : UInt32 := 1

/-- `DSBLOCK_ENTIREBUFFER`. -/
def entireBuffer : UInt32 := 2

end LockFlags

/-- The samples of a shared buffer in an address space of `w` bits: `mData.data()`. -/
structure Samples (w : ℕ) (sb : SharedBuffer) where
  data : BitVec w
  ne_null : data ≠ 0
  fits : data.toNat + sb.dataSize.toNat ≤ 2 ^ w

/-- The regions `Lock` returns and `Unlock` takes. -/
structure LockedRegions (w : ℕ) where
  audioPtr1 : BitVec w := 0
  audioBytes1 : UInt32 := 0
  audioPtr2 : BitVec w := 0
  audioBytes2 : UInt32 := 0

namespace LockedRegions

variable {w : ℕ}

/-- The first region is inside `size` bytes, and the second is at their beginning, if there is
one, and does not reach the first. -/
def Fit (size : ℕ) (data : BitVec w) (regions : LockedRegions w) : Prop :=
  (regions.audioPtr1 - data).toNat + regions.audioBytes1.toNat ≤ size ∧
  (regions.audioPtr2 = 0 ∨ regions.audioPtr2 = data) ∧
  regions.audioBytes2.toNat ≤ (regions.audioPtr1 - data).toNat

instance (size : ℕ) (data : BitVec w) (regions : LockedRegions w) :
    Decidable (regions.Fit size data) := inferInstanceAs (Decidable (_ ∧ _))

/-- Where the second region is, as `Unlock` finds out. -/
theorem ofs2_ne_zero_iff {data : BitVec w} {regions : LockedRegions w} :
    (if regions.audioPtr2 ≠ 0 then regions.audioPtr2 - data else 0) ≠ 0 ↔
      ¬ (regions.audioPtr2 = 0 ∨ regions.audioPtr2 = data) := by
  have hsub : regions.audioPtr2 - data = 0 ↔ regions.audioPtr2 = data := by
    constructor
    · intro h0
      rw [← BitVec.sub_add_cancel regions.audioPtr2 data, h0]
      exact BitVec.zero_add _
    · intro heq
      rw [heq]
      exact BitVec.sub_self _
  split_ifs with hnull <;> simp_all

end LockedRegions

namespace Buffer

variable {w : ℕ}

/-- The offset `Lock` works with: its argument, or the write cursor. -/
def lockOffset (refresh : Refresh) (b : Buffer) (offset flags : UInt32) : Option UInt32 :=
  if hasFlag flags LockFlags.fromWriteCursor then (b.getCurrentPosition refresh).map Prod.snd
  else some offset

/-- The number of bytes `Lock` works with: its argument, or all. -/
def lockBytes (sb : SharedBuffer) (bytes flags : UInt32) : UInt32 :=
  if hasFlag flags LockFlags.entireBuffer then sb.dataSize else bytes

/-- The regions of `Lock`; `second` says whether the pointers for the second are given. -/
def splitRegions (sb : SharedBuffer) (data : BitVec w) (offset bytes : UInt32) (second : Bool) :
    LockedRegions w :=
  let audioPtr1 := data + BitVec.ofNat w offset.toNat
  if bytes > sb.dataSize - offset then
    let audioBytes1 := sb.dataSize - offset
    let remain := bytes - audioBytes1
    if second ∧ remain ≠ 0 then
      { audioPtr1 := audioPtr1, audioBytes1 := audioBytes1, audioPtr2 := data,
        audioBytes2 := remain }
    else { audioPtr1 := audioPtr1, audioBytes1 := audioBytes1 }
  else { audioPtr1 := audioPtr1, audioBytes1 := bytes }

/-- `Buffer::Lock`; `first` and `second` say whether the pointers for each of the regions are
given.  The last component is the new `mLocked`. -/
def lock (refresh : Refresh) (b : Buffer) (data : BitVec w) (mLocked : Bool)
    (offset bytes flags : UInt32) (first second : Bool) :
    Option (HResult × LockedRegions w × Bool) :=
  if !first then some (.invalidParam, {}, mLocked)
  else do
    let sb ← b.mBuffer
    let start ← b.lockOffset refresh offset flags
    if ¬ hasFlag flags LockFlags.fromWriteCursor ∧ start ≥ sb.dataSize then
      some (.invalidParam, {}, mLocked)
    else if ¬ hasFlag flags LockFlags.entireBuffer ∧ bytes > sb.dataSize then
      some (.invalidParam, {}, mLocked)
    else if mLocked then some (.invalidParam, {}, true)
    else some (.ok, splitRegions sb data start (lockBytes sb bytes flags) second, true)

/-- `Buffer::Unlock`. -/
def unlock (b : Buffer) (data : BitVec w) (mLocked : Bool) (regions : LockedRegions w) :
    Option (HResult × Bool) :=
  if !mLocked then some (.invalidParam, false)
  else do
    let sb ← b.mBuffer
    let ofs1 := regions.audioPtr1 - data
    let ofs2 := if regions.audioPtr2 ≠ 0 then regions.audioPtr2 - data else 0
    if ofs1.toNat ≥ sb.dataSize.toNat ∨
        sb.dataSize.toNat - ofs1.toNat < regions.audioBytes1.toNat ∨ ofs2 ≠ 0 ∨
        regions.audioBytes2.toNat > ofs1.toNat then
      some (.invalidParam, false)
    else some (.ok, false)

end Buffer

end Dsoal
