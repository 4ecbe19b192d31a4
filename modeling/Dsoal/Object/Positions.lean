import Mathlib
import Dsoal.Capture.Loop
import Dsoal.Object.Tracks
import Dsoal.Playback.Cursors

/-!
# Positions and regions of the buffers of an object

If OpenAL gives its sources offsets in whole frames, then all positions of all buffers are in
whole frames, in every reachable state (`positions_in_frames`).  Which regions `Lock` returns
and `Unlock` accepts does not depend on that (`lock_regions`).
-/

namespace Dsoal

open TransitionSystem DSound8OAL

namespace DSound8OAL

variable [Abi] {A : SharedBuffer → UInt32 → Prop} {s : DSound8OAL} {b : Buffer}

/-- The buffers of an object have storage. -/
theorem Ok.storage_of_holds (h : s.Ok) (hb : s.Holds b) : ∃ sb, b.mBuffer = some sb := by
  rcases hb with ⟨p, hb⟩ | hb
  · obtain ⟨sb, hsb, -⟩ := (h.buffers p b hb).1.storage
    exact ⟨sb, hsb⟩
  · obtain ⟨sb, hsb, -⟩ := (h.writeEmu b hb).1.storage
    exact ⟨sb, hsb⟩

end DSound8OAL

/-- **All positions are where frames begin**, as long as OpenAL gives the sources offsets in
whole frames: those of secondary buffers, duplicates and the write-emulation buffer, and
those of capture buffers.  `mLastPos` can be the end of the data as well.  The write cursor
is computed without wrapping around. -/
theorem positions_in_frames [Abi] :
    (∀ s, Reachable (guarded (MixesIn Track.InFrames) DSoundStep) IsNew s →
      ∀ b, s.Holds b → ∃ sb, b.mBuffer = some sb ∧
        sb.frameSize ∣ b.mLastPos.toNat ∧ b.mLastPos.toNat ≤ sb.dataSize.toNat ∧
        ∀ refresh : Refresh, ∃ playCursor writeCursor,
          b.getCurrentPosition refresh = some (playCursor, writeCursor) ∧
          (sb.frameSize ∣ playCursor.toNat ∧ playCursor.toNat < sb.dataSize.toNat) ∧
          (sb.frameSize ∣ writeCursor.toNat ∧ writeCursor.toNat < sb.dataSize.toNat) ∧
          ∀ src, b.mSource = some src → src.state = .playing →
            sb.mWfxFormat.nSamplesPerSec.toNat / refresh.val.toNat * sb.frameSize +
              src.byteOffset.toNat < 2 ^ 32 ∧
            writeCursor.toNat = (sb.mWfxFormat.nSamplesPerSec.toNat / refresh.val.toNat *
              sb.frameSize + src.byteOffset.toNat) % sb.dataSize.toNat) ∧
    ∀ r, Reachable (functional CaptureRing.exec) CaptureRing.IsNew r → r.buffer.mDevice.isSome →
      ∃ cappos readpos, r.getCurrentPosition = some (cappos, readpos) ∧
        (r.buffer.frameSize ∣ cappos.toNat ∧ cappos.toNat < r.buffer.size.toNat) ∧
        (r.buffer.frameSize ∣ readpos.toNat ∧ readpos.toNat < r.buffer.size.toNat) := by
  refine ⟨fun s h b hb ↦ ?_, fun r h hdev ↦ ?_⟩
  · obtain ⟨sb, hsb⟩ := (ok_of_reachable h.of_guarded).storage_of_holds hb
    have htrack := Track.aligned_of_reachable ((tracked_of_reachable h).buffers b hb sb hsb)
    have hvalid : sb.Valid := htrack.valid
    refine ⟨sb, hsb, htrack.lastPos.1, htrack.lastPos.2, fun refresh ↦ ?_⟩
    obtain ⟨hplay, hwrite, hlt⟩ := htrack.cursors refresh
    refine ⟨_, _, Buffer.getCurrentPosition_eq hsb hvalid refresh, hplay, hwrite, ?_⟩
    intro src hsource hstate
    have hpos : (b.track sb).position = src.byteOffset := by
      unfold Track.position Buffer.track
      rw [hsource, Option.map_some, Buffer.position, hstate]
    have hahead := (Track.toNat_writeAhead (t := b.track sb) hvalid refresh).1
    have hplaying : (b.track sb).state = .playing := by
      unfold Track.state Buffer.track
      rw [hsource]
      exact hstate
    rw [if_pos hplaying] at hahead
    rw [hpos, hahead] at hlt
    refine ⟨hlt, ?_⟩
    rw [Track.writeCursor, UInt32.toNat_mod, UInt32.toNat_add, hpos, hahead]
    exact congrArg (· % sb.dataSize.toNat) (Nat.mod_eq_of_lt hlt)
  · exact (CaptureRing.ok_of_reachable h).getCurrentPosition hdev

set_option maxRecDepth 4000 in
/-- A buffer of four samples that plays its third. -/
theorem positions_in_frames_playing :
    letI : Abi := ⟨⟨600, by decide⟩⟩
    ∃ s b, Reachable (guarded (MixesIn Track.InFrames) DSoundStep) IsNew s ∧ s.Holds b ∧
      (b.mSource.any fun src ↦ src.state = .playing ∧ src.byteOffset = 4) = true ∧
      ∃ sb, b.mBuffer = some sb ∧ b.mLastPos.toNat ≤ sb.dataSize.toNat ∧
        ∃ playCursor writeCursor,
          b.getCurrentPosition .default = some (playCursor, writeCursor) ∧
          playCursor.toNat < sb.dataSize.toNat ∧ writeCursor.toNat < sb.dataSize.toNat := by
  let _ : Abi := ⟨⟨600, by decide⟩⟩
  have h0 : Reachable (guarded (MixesIn Track.InFrames) DSoundStep) IsNew (DSound8OAL.new true) :=
    .init ⟨true, rfl⟩
  have h1 := h0.step (i := initializeOne)
    ⟨trivial, initializeOne_legal true, _, rfl⟩
  have h2 := h1.step (i := createMono Caps.locHardware)
    ⟨trivial, createMono_legal _ _, _, rfl⟩
  have h3 := h2.step ⟨by exact trivial, .of_isSome (.play ⟨4096, 0⟩ 0 0 true) trivial
    (by decide +kernel)⟩
  have h4 := h3.step ⟨mixesIn_of_all (by decide +kernel), .of_isSome
    (.mix (some ⟨4096, 0⟩) 4 false) trivial (by decide +kernel)⟩
  obtain ⟨s, hs, hsource⟩ : ∃ s, Reachable (guarded (MixesIn Track.InFrames) DSoundStep) IsNew s ∧
      (s.getBuffer ⟨4096, 0⟩).any (fun b ↦ b.mSource.any fun src ↦
        src.state = .playing ∧ src.byteOffset = 4) = true := ⟨_, h4, by decide +kernel⟩
  obtain ⟨b, hb, hplaying⟩ := (Option.any_eq_true _ _).mp hsource
  obtain ⟨sb, hsb, -, hle, hcursors⟩ := positions_in_frames.1 s hs b (.inl ⟨_, hb⟩)
  obtain ⟨playCursor, writeCursor, hget, hplay, hwrite, -⟩ := hcursors .default
  exact ⟨s, b, hs, .inl ⟨_, hb⟩, hplaying, sb, hsb, hle, playCursor, writeCursor, hget, hplay.2,
    hwrite.2⟩

/-- **The regions of `Lock` and `Unlock`**, for any buffer of an object in any reachable
state.  `Lock` returns the range of the number of bytes it was asked for, or of all bytes, from
the offset or the write cursor on, on a ring, as an interval up to the end at most and one from
the beginning; the two are disjoint, and `Unlock` accepts them.  What `Unlock` accepts is an
interval inside the samples, and one from the beginning that does not reach it. -/
theorem lock_regions [Abi] {s : DSound8OAL} (h : Reachable DSoundStep IsNew s) {b : Buffer}
    (hb : s.Holds b) : ∃ sb, b.mBuffer = some sb ∧ ∀ {w : ℕ} (samples : Samples w sb)
      (refresh : Refresh) (mLocked : Bool),
      (∀ offset bytes flags regions mLocked',
        b.lock refresh samples.data mLocked offset bytes flags true true =
          some (.ok, regions, mLocked') → ∃ start count : UInt32,
          (if hasFlag flags LockFlags.fromWriteCursor then
            ∃ playCursor, b.getCurrentPosition refresh = some (playCursor, start)
          else start = offset) ∧
          (count = if hasFlag flags LockFlags.entireBuffer then sb.dataSize else bytes) ∧
          start.toNat < sb.dataSize.toNat ∧
          regions.audioBytes1.toNat + regions.audioBytes2.toNat = count.toNat ∧
          samples.offset regions.audioPtr1 = start.toNat ∧
          start.toNat + regions.audioBytes1.toNat ≤ sb.dataSize.toNat ∧
          (regions.audioBytes2 ≠ 0 → regions.audioPtr2 = samples.data) ∧
          Disjoint (Set.Ico start.toNat (start.toNat + regions.audioBytes1.toNat))
            (Set.Ico 0 regions.audioBytes2.toNat) ∧
          (∀ n < sb.dataSize.toNat,
            n ∈ Set.Ico start.toNat (start.toNat + regions.audioBytes1.toNat) ∨
              n ∈ Set.Ico 0 regions.audioBytes2.toNat ↔
            Ring.ahead sb.dataSize.toNat start.toNat n < count.toNat) ∧
          mLocked' = true ∧ ∀ b' : Buffer, b'.mBuffer = b.mBuffer →
            b'.unlock samples.data mLocked' regions = some (.ok, false)) ∧
      ∀ regions mLocked', b.unlock samples.data mLocked regions = some (.ok, mLocked') →
        samples.offset regions.audioPtr1 < sb.dataSize.toNat ∧
        samples.offset regions.audioPtr1 + regions.audioBytes1.toNat ≤ sb.dataSize.toNat ∧
        (regions.audioPtr2 = 0 ∨ regions.audioPtr2 = samples.data) ∧
        regions.audioBytes2.toNat ≤ sb.dataSize.toNat ∧
        Disjoint (Set.Ico (samples.offset regions.audioPtr1)
            (samples.offset regions.audioPtr1 + regions.audioBytes1.toNat))
          (Set.Ico 0 regions.audioBytes2.toNat) := by
  obtain ⟨sb, hsb⟩ := (ok_of_reachable h).storage_of_holds hb
  have hvalid := ((tracked_any h).buffers b hb).valid hsb
  refine ⟨sb, hsb, fun samples refresh mLocked ↦ ⟨?_, ?_⟩⟩
  · intro offset bytes flags regions mLocked' hlock
    obtain ⟨start, hoffset, hlt, hle, rfl, hregions⟩ := Buffer.lock_cases hsb hvalid hlock
    obtain ⟨hptr1, hbytes1, hbytes2, hptr2⟩ :=
      Buffer.splitRegions_spec samples.data (Buffer.lockBytes sb bytes flags) hlt
    rw [← hregions] at hptr1 hbytes1 hbytes2 hptr2
    have hstart : samples.offset regions.audioPtr1 = start.toNat := by
      rw [hptr1, samples.offset_add hlt]
    refine ⟨start, Buffer.lockBytes sb bytes flags, Buffer.lockOffset_eq_some_iff.mp hoffset, rfl,
      hlt, by omega, hstart, by omega, ?_, ?_, ?_, rfl, ?_⟩
    · intro hne
      exact hptr2.resolve_right fun h0 ↦ hne h0.2
    · rw [hbytes1, hbytes2]
      exact Ring.disjoint_split hlt hle
    · intro n hn
      rw [hbytes1, hbytes2]
      exact Ring.mem_split hlt hn
    · intro b' hb'
      refine (Buffer.unlock_ok_iff_fit (hb'.trans hsb)).mpr ⟨rfl, rfl, ?_⟩
      change samples.offset regions.audioPtr1 < _ ∧
        samples.offset regions.audioPtr1 + _ ≤ _ ∧ _ ∧ _ ≤ samples.offset regions.audioPtr1
      rw [hstart]
      exact ⟨hlt, by omega, hptr2.symm.imp_left And.left, by omega⟩
  · intro regions mLocked' hunlock
    obtain ⟨-, -, hlt, hle, hptr2, hbefore⟩ := (Buffer.unlock_ok_iff_fit hsb).mp hunlock
    refine ⟨hlt, hle, hptr2, by omega, ?_⟩
    rw [Set.disjoint_left]
    simp only [Set.mem_Ico, Samples.offset]
    omega

set_option maxRecDepth 4000 in
/-- Four bytes from the last sample on. -/
theorem lock_regions_two :
    letI : Abi := ⟨⟨600, by decide⟩⟩
    ∃ s b, Reachable DSoundStep IsNew s ∧ s.Holds b ∧ ∃ sb, b.mBuffer = some sb ∧
      ∃ (samples : Samples 64 sb) (regions : LockedRegions 64),
        b.lock .default samples.data false 6 4 0 true true = some (.ok, regions, true) ∧
        regions.audioBytes2 ≠ 0 ∧
        regions.audioBytes1.toNat + regions.audioBytes2.toNat = 4 ∧
        b.unlock samples.data true regions = some (.ok, false) := by
  let _ : Abi := ⟨⟨600, by decide⟩⟩
  have h0 : Reachable DSoundStep IsNew (DSound8OAL.new true) := .init ⟨true, rfl⟩
  have h1 := h0.step (i := initializeOne) ⟨initializeOne_legal true, _, rfl⟩
  have h2 := h1.step (i := createMono Caps.locHardware)
    ⟨createMono_legal _ _, _, rfl⟩
  obtain ⟨s, hs, hmono⟩ : ∃ s, Reachable DSoundStep IsNew s ∧ (s.getBuffer ⟨4096, 0⟩).any
      (fun b ↦ b.mBuffer.any fun sb ↦ sb.dataSize = 8) = true := ⟨_, h2, by decide +kernel⟩
  obtain ⟨b, hb, hsize⟩ := (Option.any_eq_true _ _).mp hmono
  obtain ⟨sb, hsb, hregions⟩ := lock_regions hs (.inl ⟨_, hb⟩)
  have hsize : sb.dataSize = 8 := by
    rw [hsb] at hsize
    simpa using hsize
  have hfits : (4096#64).toNat + sb.dataSize.toNat ≤ 2 ^ 64 := by
    rw [hsize]
    decide
  have hlock : b.lock .default (4096#64) false 6 4 0 true true =
      some (.ok, Buffer.splitRegions sb 4096 6 4 true, true) := by
    unfold Buffer.lock
    rw [if_neg (by decide), hsb]
    show (if _ then _ else if _ then _ else _) = _
    rw [if_neg (by rw [hsize]; decide), if_neg (by rw [hsize]; decide)]
    rfl
  obtain ⟨start, count, -, rfl, -, hsum, -, -, -, -, -, -, hunlock⟩ :=
    (hregions ⟨4096, by decide, hfits⟩ .default false).1 6 4 0 _ true hlock
  refine ⟨s, b, hs, .inl ⟨_, hb⟩, sb, hsb, ⟨4096, by decide, hfits⟩, _, hlock, ?_, ?_,
    hunlock b rfl⟩
  · simp only [Buffer.splitRegions, hsize]
    decide
  · rw [hsum]
    rfl

end Dsoal
