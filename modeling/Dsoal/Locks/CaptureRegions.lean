import Mathlib
import Dsoal.Core.Locks
import Dsoal.Lib.Ring

/-!
# The regions of capture buffers

`DSCBuffer::Lock` splits a range at the end of the samples as `Buffer::Lock` does, but it
compares in other places, and not strictly: it accepts a read cursor at the very end.  The
first region is then empty and outside, and everything is in the second.
-/

namespace Dsoal

namespace DSCBuffer

variable {b : DSCBuffer} {w : ℕ} {mLocked mLocked' : Bool} {cursor bytes flags : UInt32}
  {first second : Bool} {regions : LockedRegions w}

namespace Samples

/-- Where a pointer points to. -/
def offset (samples : b.Samples w) (ptr : BitVec w) : ℕ := (ptr - samples.data).toNat

theorem size_lt (samples : b.Samples w) : b.size.toNat < 2 ^ w := by
  have hfits := samples.fits
  by_cases hsize : b.size = 0
  · rw [hsize]
    exact Nat.two_pow_pos w
  · have hne := samples.ne_null hsize
    have hpos : samples.data.toNat ≠ 0 := fun h0 ↦ hne (BitVec.eq_of_toNat_eq h0)
    omega

theorem offset_add (samples : b.Samples w) {n : ℕ} (hn : n ≤ b.size.toNat) :
    samples.offset (samples.data + BitVec.ofNat w n) = n := by
  rw [offset, BitVec.add_comm, BitVec.add_sub_cancel, BitVec.toNat_ofNat,
    Nat.mod_eq_of_lt (hn.trans_lt samples.size_lt)]

/-- The regions are the range of `count` bytes from `cursor` on the ring, as an interval
that begins there and one from the beginning. -/
structure Range (samples : b.Samples w) (cursor count : ℕ) (regions : LockedRegions w) :
    Prop where
  start : samples.offset regions.audioPtr1 = cursor
  sum : regions.audioBytes1.toNat + regions.audioBytes2.toNat = count
  second : regions.audioBytes2 ≠ 0 → regions.audioPtr2 = samples.data
  disjoint : Disjoint (Set.Ico cursor (cursor + regions.audioBytes1.toNat))
    (Set.Ico 0 regions.audioBytes2.toNat)
  covers : ∀ n < b.size.toNat, n ∈ Set.Ico cursor (cursor + regions.audioBytes1.toNat) ∨
    n ∈ Set.Ico 0 regions.audioBytes2.toNat ↔ Ring.ahead b.size.toNat cursor n < count

end Samples

/-- The two regions are the range from the cursor, split at the end of the samples. -/
theorem splitRegions_spec (data : BitVec w) {count : UInt32} (hcursor : cursor ≤ b.size)
    (hcount : count ≤ b.size) :
    (b.splitRegions data cursor count true).audioPtr1 = data + BitVec.ofNat w cursor.toNat ∧
      (b.splitRegions data cursor count true).audioBytes1.toNat =
        min count.toNat (b.size.toNat - cursor.toNat) ∧
      (b.splitRegions data cursor count true).audioBytes2.toNat =
        count.toNat - (b.size.toNat - cursor.toNat) ∧
      ((b.splitRegions data cursor count true).audioPtr2 = data ∨
        (b.splitRegions data cursor count true).audioPtr2 = 0 ∧
          (b.splitRegions data cursor count true).audioBytes2 = 0) := by
  have hrest : (b.size - count).toNat = b.size.toNat - count.toNat :=
    UInt32.toNat_sub_of_le _ _ hcount
  have hroom : (b.size - cursor).toNat = b.size.toNat - cursor.toNat :=
    UInt32.toNat_sub_of_le _ _ hcursor
  rw [UInt32.le_iff_toNat_le] at hcursor hcount
  unfold splitRegions
  dsimp only
  by_cases hsplit : cursor > b.size - count
  · have hlt : b.size.toNat - count.toNat < cursor.toNat := by
      rw [← hrest]
      exact UInt32.lt_iff_toNat_lt.mp hsplit
    have hremain : (count - (b.size - cursor)).toNat =
        count.toNat - (b.size.toNat - cursor.toNat) := by
      rw [UInt32.toNat_sub_of_le _ _ (UInt32.le_iff_toNat_le.mpr (by omega)), hroom]
    have hne : count - (b.size - cursor) ≠ 0 := by
      intro h0
      rw [h0] at hremain
      change 0 = _ at hremain
      omega
    rw [if_pos hsplit, if_pos ⟨rfl, hne⟩]
    refine ⟨rfl, ?_, hremain, .inl rfl⟩
    rw [hroom]
    omega
  · have hle : cursor.toNat ≤ b.size.toNat - count.toNat := by
      rw [← hrest]
      exact UInt32.le_iff_toNat_le.mp (UInt32.not_lt.mp hsplit)
    rw [if_neg hsplit]
    refine ⟨rfl, ?_, ?_, .inr ⟨rfl, rfl⟩⟩
    · show count.toNat = _
      omega
    · show 0 = _
      omega

/-- **A successful `Lock`** works with a cursor that is at the end at most, and with no more
bytes than there are. -/
theorem lock_cases {data : BitVec w}
    (hc : b.lock data mLocked cursor bytes flags first second = (.ok, regions, mLocked')) :
    cursor ≤ b.size ∧ b.lockBytes bytes flags ≤ b.size ∧ mLocked' = true ∧
      regions = b.splitRegions data cursor (b.lockBytes bytes flags) second := by
  unfold lock at hc
  split at hc
  · cases hc
  split at hc
  · cases hc
  rename_i hinside
  split at hc
  · cases hc
  rename_i hsmall
  split at hc
  · cases hc
  cases hc
  refine ⟨UInt32.not_lt.mp hinside, ?_, rfl, rfl⟩
  unfold lockBytes
  split_ifs with hflag
  · exact UInt32.le_refl _
  · exact UInt32.not_lt.mp fun hgt ↦ hsmall ⟨hflag, hgt⟩

/-- **The range `Lock` returns**, also with the cursor at the end. -/
theorem range_splitRegions (samples : b.Samples w) {count : UInt32} (hcursor : cursor ≤ b.size)
    (hcount : count ≤ b.size) : samples.Range cursor.toNat count.toNat
      (b.splitRegions samples.data cursor count true) := by
  obtain ⟨hptr1, hbytes1, hbytes2, hptr2⟩ := splitRegions_spec samples.data hcursor hcount
  rw [UInt32.le_iff_toNat_le] at hcursor hcount
  refine ⟨?_, by omega, fun hne ↦ hptr2.resolve_right fun h0 ↦ hne h0.2, ?_, ?_⟩
  · rw [hptr1, samples.offset_add hcursor]
  · rw [hbytes1, hbytes2, Set.disjoint_left]
    simp only [Set.mem_Ico]
    omega
  · intro n hn
    rw [hbytes1, hbytes2]
    rcases hcursor.lt_or_eq with hlt | heq
    · exact Ring.mem_split hlt hn
    · -- from the end on, the range begins at the beginning
      rw [heq, Ring.ahead_of_lt hn le_rfl, Nat.sub_self]
      simp only [Set.mem_Ico]
      omega

/-- **`Unlock` accepts** a first region that ends inside the samples, and as a second one what
is before it. -/
theorem unlock_ok_iff {data : BitVec w} :
    b.unlock data mLocked regions = (.ok, mLocked') ↔
      mLocked = true ∧ mLocked' = false ∧ regions.Fit b.size.toNat data := by
  unfold unlock LockedRegions.Fit
  cases mLocked with
  | false =>
      constructor
      · intro hc
        cases hc
      · rintro ⟨⟨⟩, -⟩
  | true =>
      rw [if_neg (by decide)]
      simp only [LockedRegions.ofs2_ne_zero_iff]
      split_ifs with hbad hptr
      · constructor
        · intro hc
          cases hc
        · rintro ⟨-, -, hle, -, hbefore⟩
          exfalso
          omega
      · constructor
        · intro hc
          cases hc
          exact ⟨trivial, rfl, by omega, hptr, by omega⟩
        · rintro ⟨-, rfl, -⟩
          rfl
      · constructor
        · intro hc
          cases hc
        · rintro ⟨-, -, -, hptr', -⟩
          exact absurd hptr' hptr

/-- `Unlock` clears the flag whatever it returns. -/
theorem unlock_flag {data : BitVec w} : (b.unlock data mLocked regions).2 = false := by
  unfold unlock
  dsimp only
  split_ifs <;> rfl

end DSCBuffer

/-- **The regions of `DSCBuffer::Lock` and `Unlock`**, for all arguments.  `Lock` returns the
range of the number of bytes it was asked for, or of all bytes, and `Unlock` accepts it; the
range begins inside the samples, with a first region that is empty only if the range is, if and
only if the read cursor is not the size.  What `Unlock` accepts are intervals inside the samples
that have nothing in common. -/
theorem capture_lock_regions_iff {w : ℕ} {b : DSCBuffer} (samples : b.Samples w) :
    (∀ mLocked cursor bytes flags regions mLocked',
      b.lock samples.data mLocked cursor bytes flags true true = (.ok, regions, mLocked') →
        ∃ count : UInt32,
          (count = if hasFlag flags captureEntireBuffer then b.size else bytes) ∧
          samples.Range cursor.toNat count.toNat regions ∧
          mLocked' = true ∧ b.unlock samples.data mLocked' regions = (.ok, false) ∧
          ((cursor.toNat < b.size.toNat ∧
            (0 < count.toNat → 0 < regions.audioBytes1.toNat)) ↔ cursor ≠ b.size)) ∧
    ∀ mLocked regions mLocked',
      b.unlock samples.data mLocked regions = (.ok, mLocked') →
        samples.offset regions.audioPtr1 + regions.audioBytes1.toNat ≤ b.size.toNat ∧
        (regions.audioPtr2 = 0 ∨ regions.audioPtr2 = samples.data) ∧
        regions.audioBytes2.toNat ≤ b.size.toNat ∧
        Disjoint (Set.Ico (samples.offset regions.audioPtr1)
            (samples.offset regions.audioPtr1 + regions.audioBytes1.toNat))
          (Set.Ico 0 regions.audioBytes2.toNat) := by
  refine ⟨?_, ?_⟩
  · intro mLocked cursor bytes flags regions mLocked' hlock
    obtain ⟨hcursor, hcount, rfl, rfl⟩ := DSCBuffer.lock_cases hlock
    obtain ⟨-, hbytes1, hbytes2, hptr2⟩ :=
      DSCBuffer.splitRegions_spec samples.data hcursor hcount
    have hrange := DSCBuffer.range_splitRegions samples hcursor hcount
    rw [UInt32.le_iff_toNat_le] at hcursor hcount
    refine ⟨b.lockBytes bytes flags, rfl, hrange, rfl, ?_, ?_⟩
    · refine DSCBuffer.unlock_ok_iff.mpr ⟨rfl, rfl, ?_⟩
      change samples.offset _ + _ ≤ _ ∧ _ ∧ _ ≤ samples.offset _
      rw [hrange.start]
      exact ⟨by omega, hptr2.symm.imp_left And.left, by omega⟩
    · rw [hbytes1, ne_eq, ← UInt32.toNat_inj]
      omega
  · intro mLocked regions mLocked' hunlock
    obtain ⟨-, -, hle, hptr2, hbefore⟩ := DSCBuffer.unlock_ok_iff.mp hunlock
    refine ⟨hle, hptr2, by omega, ?_⟩
    rw [Set.disjoint_left]
    simp only [Set.mem_Ico, DSCBuffer.Samples.offset]
    omega

/-- A capture buffer of eight bytes. -/
def DSCBuffer.eight : DSCBuffer where
  mIs8 := true
  mWaveFmt := {
    wFormatTag := formatPcm, nChannels := 1, nSamplesPerSec := 8000, nAvgBytesPerSec := 16000,
    nBlockAlign := 2, wBitsPerSample := 16 }
  size := 8
  mDevice := some ⟨"", 8000, .mono16, 4⟩

/-- Its samples. -/
def DSCBuffer.eightSamples : DSCBuffer.eight.Samples 64 := ⟨4096, by decide, by decide⟩

/-- Four bytes from the sixth on. -/
theorem capture_lock_regions_iff_six : ∃ regions mLocked',
    DSCBuffer.eight.lock DSCBuffer.eightSamples.data false 6 4 0 true true =
      (.ok, regions, mLocked') ∧
    DSCBuffer.eightSamples.Range 6 4 regions ∧ 0 < regions.audioBytes1.toNat ∧
    DSCBuffer.eight.unlock DSCBuffer.eightSamples.data true regions = (.ok, false) := by
  obtain ⟨_, rfl, hrange, -, hunlock, hinside⟩ :=
    (capture_lock_regions_iff DSCBuffer.eightSamples).1 false 6 4 0
      (DSCBuffer.eight.splitRegions 4096 6 4 true) true rfl
  exact ⟨_, true, rfl, hrange, (hinside.mpr (by decide)).2 (by decide), hunlock⟩

/-- Four bytes from the end on are all in the second region: the first is empty and is not
inside the samples. -/
theorem capture_lock_at_end :
    DSCBuffer.initializeBuffer { mIs8 := true } "" ⟨28, 8, some DSCBuffer.eight.mWaveFmt, 0⟩
      { opens := fun _ ↦ true } = (.ok, DSCBuffer.eight) ∧
    ∃ regions, DSCBuffer.eight.lock DSCBuffer.eightSamples.data false 8 4 0 true true =
        (.ok, regions, true) ∧
      ¬ DSCBuffer.eightSamples.offset regions.audioPtr1 < DSCBuffer.eight.size.toNat ∧
      ¬ 0 < regions.audioBytes1.toNat ∧ regions.audioBytes2 = 4 := by
  refine ⟨by decide, DSCBuffer.eight.splitRegions 4096 8 4 true, rfl, ?_⟩
  decide

end Dsoal
