import Dsoal.Playback.Methods

/-!
# Cursors and locked regions of one buffer

`GetCurrentPosition` in terms of the track, and what `Lock` and `Unlock` make of the two
regions.  `Samples.offset` is where a pointer points to in the samples; a pointer that does
not point into them has an offset that is too large.
-/

namespace Dsoal

namespace Track

/-- The position `GetCurrentPosition` finds, before it is reduced. -/
def position (t : Track) : UInt32 :=
  match t.source with
  | some (.playing, offset) | some (.paused, offset) => offset
  | some (.stopped, _) => t.storage.dataSize
  | some (.initial, _) | none => t.lastPos

/-- How far the write cursor is ahead of the play cursor, before they are reduced. -/
def writeAhead (refresh : Refresh) (t : Track) : UInt32 :=
  if t.state = .playing then
    t.storage.mWfxFormat.nSamplesPerSec / refresh.val * t.storage.mWfxFormat.nBlockAlign.toUInt32
  else 0

/-- The play cursor. -/
def playCursor (t : Track) : UInt32 := t.position % t.storage.dataSize

/-- The write cursor. -/
def writeCursor (refresh : Refresh) (t : Track) : UInt32 :=
  (t.writeAhead refresh + t.position) % t.storage.dataSize

variable {t : Track}

/-- The write cursor is ahead by a whole number of frames, and not by much. -/
theorem toNat_writeAhead (h : t.storage.Valid) (refresh : Refresh) :
    (t.writeAhead refresh).toNat = (if t.state = .playing then
      t.storage.mWfxFormat.nSamplesPerSec.toNat / refresh.val.toNat * t.storage.frameSize
      else 0) ∧ t.storage.frameSize ∣ (t.writeAhead refresh).toNat ∧
      (t.writeAhead refresh).toNat ≤ 10000 * 65535 := by
  unfold writeAhead
  split_ifs
  · have hlower : 20 ≤ refresh.val.toNat := UInt32.le_iff_toNat_le.mp refresh.lower
    have hrate : t.storage.mWfxFormat.nSamplesPerSec.toNat / refresh.val.toNat ≤ 10000 := by
      refine (Nat.div_le_div_left hlower (by decide)).trans ?_
      have := h.rate_le
      omega
    have hframe : t.storage.frameSize ≤ 65535 :=
      Nat.le_of_lt_succ t.storage.mWfxFormat.nBlockAlign.toNat_lt
    have hmul : t.storage.mWfxFormat.nSamplesPerSec.toNat / refresh.val.toNat *
        t.storage.frameSize ≤ 10000 * 65535 := Nat.mul_le_mul hrate hframe
    rw [UInt32.toNat_mul, UInt32.toNat_div, UInt16.toNat_toUInt32, Nat.mod_eq_of_lt]
    · exact ⟨rfl, Nat.dvd_mul_left _ _, hmul⟩
    · exact lt_of_le_of_lt hmul (by decide)
  · exact ⟨rfl, Nat.dvd_zero _, Nat.zero_le _⟩

/-- The position of a track in whole frames. -/
theorem Aligned.position (h : t.Aligned) : InFrames t.storage t.position := by
  unfold Track.position
  split
  · exact h.offset _ _ ‹_›
  · exact h.offset _ _ ‹_›
  · exact ⟨h.valid.dvd_size, le_rfl⟩
  · exact h.lastPos
  · exact h.lastPos

/-- **The cursors** of a track in whole frames are where frames begin.  The write cursor does
not wrap around before it is reduced. -/
theorem Aligned.cursors (h : t.Aligned) (refresh : Refresh) :
    (t.storage.frameSize ∣ t.playCursor.toNat ∧
      t.playCursor.toNat < t.storage.dataSize.toNat) ∧
    (t.storage.frameSize ∣ (t.writeCursor refresh).toNat ∧
      (t.writeCursor refresh).toNat < t.storage.dataSize.toNat) ∧
    (t.writeAhead refresh).toNat + t.position.toNat < 2 ^ 32 := by
  obtain ⟨-, hdvd, hle⟩ := toNat_writeAhead h.valid refresh
  obtain ⟨hpos, hposle⟩ := h.position
  have hsize := h.valid.size_le
  have hlt : (t.writeAhead refresh).toNat + t.position.toNat < 2 ^ 32 := by omega
  refine ⟨?_, ?_, hlt⟩
  · rw [playCursor, UInt32.toNat_mod]
    exact ⟨(Nat.dvd_mod_iff h.valid.dvd_size).mpr hpos, Nat.mod_lt _ h.valid.size_pos⟩
  · rw [writeCursor, UInt32.toNat_mod, UInt32.toNat_add, Nat.mod_eq_of_lt hlt]
    exact ⟨(Nat.dvd_mod_iff h.valid.dvd_size).mpr (Nat.dvd_add hdvd hpos),
      Nat.mod_lt _ h.valid.size_pos⟩

end Track

namespace Buffer

variable {b : Buffer} {sb : SharedBuffer} {w : ℕ}

/-- **`GetCurrentPosition`** reports the cursors of the track. -/
theorem getCurrentPosition_eq (hsb : b.mBuffer = some sb) (hvalid : sb.Valid)
    (refresh : Refresh) : b.getCurrentPosition refresh =
      some ((b.track sb).playCursor, (b.track sb).writeCursor refresh) := by
  have hne : sb.dataSize ≠ 0 := by
    rintro h0
    have hpos := hvalid.size_pos
    rw [h0] at hpos
    exact absurd hpos (by decide)
  simp only [getCurrentPosition, hsb, Option.bind_eq_bind, Option.bind_some, if_neg hne]
  unfold Track.writeCursor Track.playCursor Track.writeAhead Track.position Track.state track
  cases hsource : b.mSource with
  | none => simp only [Option.elim_none, Option.map_none, reduceCtorEq, if_false, UInt32.zero_add]
  | some src =>
      obtain ⟨attrs, looping, state, offset⟩ := src
      cases state <;> simp only [Option.elim_some, Option.map_some, Source.ioffset, reduceCtorEq,
        if_true, if_false, UInt32.zero_add]

end Buffer

/-! ## Regions -/

namespace Samples

variable {sb : SharedBuffer} {w : ℕ}

/-- Where a pointer points to. -/
def offset (samples : Samples w sb) (ptr : BitVec w) : ℕ := (ptr - samples.data).toNat

theorem offset_add (samples : Samples w sb) {n : ℕ} (hn : n < sb.dataSize.toNat) :
    samples.offset (samples.data + BitVec.ofNat w n) = n := by
  have hfits := samples.fits
  rw [offset, BitVec.add_comm, BitVec.add_sub_cancel, BitVec.toNat_ofNat, Nat.mod_eq_of_lt]
  omega

end Samples

namespace Buffer

variable {b : Buffer} {sb : SharedBuffer} {w : ℕ} {refresh : Refresh} {mLocked mLocked' : Bool}
  {offset bytes flags : UInt32} {first second : Bool} {regions : LockedRegions w}

/-- The two regions are the range from `start`, split at the end of the samples. -/
theorem splitRegions_spec {start : UInt32} (data : BitVec w) (count : UInt32)
    (hstart : start.toNat < sb.dataSize.toNat) :
    (splitRegions sb data start count true).audioPtr1 = data + BitVec.ofNat w start.toNat ∧
      (splitRegions sb data start count true).audioBytes1.toNat =
        min count.toNat (sb.dataSize.toNat - start.toNat) ∧
      (splitRegions sb data start count true).audioBytes2.toNat =
        count.toNat - (sb.dataSize.toNat - start.toNat) ∧
      ((splitRegions sb data start count true).audioPtr2 = data ∨
        (splitRegions sb data start count true).audioPtr2 = 0 ∧
          (splitRegions sb data start count true).audioBytes2 = 0) := by
  have hroom : (sb.dataSize - start).toNat = sb.dataSize.toNat - start.toNat :=
    UInt32.toNat_sub_of_le _ _ (UInt32.le_iff_toNat_le.mpr hstart.le)
  unfold splitRegions
  dsimp only
  split_ifs with hsplit hremain
  · have hlt : (sb.dataSize - start).toNat < count.toNat := UInt32.lt_iff_toNat_lt.mp hsplit
    have hrest : (count - (sb.dataSize - start)).toNat =
        count.toNat - (sb.dataSize - start).toNat :=
      UInt32.toNat_sub_of_le _ _ (UInt32.le_iff_toNat_le.mpr hlt.le)
    refine ⟨rfl, ?_, ?_, .inl rfl⟩
    · show (sb.dataSize - start).toNat = _
      omega
    · show (count - (sb.dataSize - start)).toNat = _
      omega
  · have hlt : (sb.dataSize - start).toNat < count.toNat := UInt32.lt_iff_toNat_lt.mp hsplit
    have hrest : (count - (sb.dataSize - start)).toNat =
        count.toNat - (sb.dataSize - start).toNat :=
      UInt32.toNat_sub_of_le _ _ (UInt32.le_iff_toNat_le.mpr hlt.le)
    have hzero : count - (sb.dataSize - start) = 0 := by simpa using hremain
    rw [hzero] at hrest
    change 0 = _ at hrest
    omega
  · have hle : count.toNat ≤ (sb.dataSize - start).toNat :=
      UInt32.le_iff_toNat_le.mp (UInt32.not_lt.mp hsplit)
    refine ⟨rfl, ?_, ?_, .inr ⟨rfl, rfl⟩⟩
    · show count.toNat = _
      omega
    · show 0 = _
      omega

/-- `Lock` begins at the write cursor if it is asked to, and else at the offset. -/
theorem lockOffset_eq_some_iff {start : UInt32} :
    b.lockOffset refresh offset flags = some start ↔
      if hasFlag flags LockFlags.fromWriteCursor then
        ∃ playCursor, b.getCurrentPosition refresh = some (playCursor, start)
      else start = offset := by
  unfold lockOffset
  split_ifs with hflag
  · simp
  · rw [Option.some_inj, eq_comm]

/-- **A successful `Lock`** works with an offset inside the samples and with no more bytes
than there are. -/
theorem lock_cases {data : BitVec w} (hsb : b.mBuffer = some sb) (hvalid : sb.Valid)
    (hc : b.lock refresh data mLocked offset bytes flags first second =
      some (.ok, regions, mLocked')) :
    ∃ start, b.lockOffset refresh offset flags = some start ∧
      start.toNat < sb.dataSize.toNat ∧
      (lockBytes sb bytes flags).toNat ≤ sb.dataSize.toNat ∧ mLocked' = true ∧
      regions = splitRegions sb data start (lockBytes sb bytes flags) second := by
  unfold lock at hc
  split at hc
  · cases hc
  obtain ⟨sb', hsb', hc⟩ := Option.bind_eq_some_iff.mp hc
  obtain rfl : sb = sb' := Option.some.inj (hsb.symm.trans hsb')
  obtain ⟨start, hstart, hc⟩ := Option.bind_eq_some_iff.mp hc
  split at hc
  · cases hc
  rename_i hinside
  split at hc
  · cases hc
  rename_i hsmall
  split at hc
  · cases hc
  cases hc
  refine ⟨start, hstart, ?_, ?_, rfl, rfl⟩
  · by_cases hflag : hasFlag flags LockFlags.fromWriteCursor
    · rw [lockOffset, if_pos hflag, getCurrentPosition_eq hsb hvalid] at hstart
      cases hstart
      rw [Track.writeCursor, UInt32.toNat_mod]
      exact Nat.mod_lt _ hvalid.size_pos
    · exact UInt32.lt_iff_toNat_lt.mp (UInt32.not_le.mp fun hge ↦ hinside ⟨hflag, hge⟩)
  · unfold lockBytes
    split_ifs with hflag
    · exact le_rfl
    · exact UInt32.le_iff_toNat_le.mp (UInt32.not_lt.mp fun hgt ↦ hsmall ⟨hflag, hgt⟩)

/-- **`Unlock` accepts** a first region that begins and ends inside the samples, and as a second
one what is before it. -/
theorem unlock_ok_iff_fit {data : BitVec w} (hsb : b.mBuffer = some sb) :
    b.unlock data mLocked regions = some (.ok, mLocked') ↔
      mLocked = true ∧ mLocked' = false ∧
      (regions.audioPtr1 - data).toNat < sb.dataSize.toNat ∧
      regions.Fit sb.dataSize.toNat data := by
  unfold unlock LockedRegions.Fit
  cases mLocked with
  | false =>
      constructor
      · intro hc
        cases hc
      · rintro ⟨⟨⟩, -⟩
  | true =>
      rw [hsb, if_neg (by decide)]
      simp only [Option.bind_eq_bind, Option.bind_some, LockedRegions.ofs2_ne_zero_iff]
      split_ifs with hbad
      · constructor
        · intro hc
          cases hc
        · rintro ⟨-, -, hlt, hle, hptr, hbefore⟩
          exfalso
          rcases hbad with hbad | hbad | hbad | hbad
          · omega
          · omega
          · exact hbad hptr
          · omega
      · have hptr : regions.audioPtr2 = 0 ∨ regions.audioPtr2 = data := by
          by_contra hptr
          exact hbad (.inr (.inr (.inl hptr)))
        constructor
        · intro hc
          cases hc
          exact ⟨trivial, rfl, by omega, by omega, hptr, by omega⟩
        · rintro ⟨-, rfl, -⟩
          rfl

/-- `Unlock` clears the flag whatever it returns. -/
theorem unlock_flag {data : BitVec w} {hr : HResult}
    (hc : b.unlock data mLocked regions = some (hr, mLocked')) : mLocked' = false := by
  unfold unlock at hc
  split at hc
  · cases hc
    rfl
  · obtain ⟨sb, -, hc⟩ := Option.bind_eq_some_iff.mp hc
    simp only [LockedRegions.ofs2_ne_zero_iff] at hc
    split at hc
    · cases hc
      rfl
    · cases hc
      rfl

end Buffer

end Dsoal
