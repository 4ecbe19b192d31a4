import Dsoal.Lib.StreamRing
import Dsoal.Object.Messages
import Dsoal.Object.Positions

/-!
# Writing a stream to a buffer

What applications that stream do with a looping buffer: they lock the next bytes, at the end of
the samples and on from the beginning if need be, copy the next piece of the sound into the
regions and unlock them.  Between these calls anything may happen to the object: the buffer is
played, stopped and moved, others are created and released, the level changes.

The bytes end up where they belong (`stream_written`): on the ring of the samples are always the
last of those that have been written, no byte besides is touched, and neither `Lock` nor `Unlock`
ever fails.
-/

namespace Dsoal

open TransitionSystem

/-! ## Memory -/

section Memory

variable {w : ℕ} {sb : SharedBuffer}

/-- Copy bytes to a region. -/
def writeRegion (memory : BitVec w → UInt8) (ptr : BitVec w) (len : UInt32) (bytes : ℕ → UInt8) :
    BitVec w → UInt8 :=
  fun a ↦ if (a - ptr).toNat < len.toNat then bytes (a - ptr).toNat else memory a

/-- Copy bytes to the regions that are locked, one after the other. -/
def LockedRegions.write (regions : LockedRegions w) (memory : BitVec w → UInt8)
    (bytes : ℕ → UInt8) : BitVec w → UInt8 :=
  writeRegion (writeRegion memory regions.audioPtr1 regions.audioBytes1 bytes)
    regions.audioPtr2 regions.audioBytes2 fun i ↦ bytes (regions.audioBytes1.toNat + i)

namespace Samples

/-- The bytes of the samples, by their positions. -/
def ring (samples : Samples w sb) (memory : BitVec w → UInt8) (n : ℕ) : UInt8 :=
  memory (samples.data + BitVec.ofNat w n)

/-- How far an address of the samples is behind a place in them. -/
theorem toNat_sub_place (samples : Samples w sb) {start : ℕ} (hstart : start < sb.dataSize.toNat)
    (a : BitVec w) : (a - (samples.data + BitVec.ofNat w start)).toNat =
      if start ≤ samples.offset a then samples.offset a - start
      else 2 ^ w + samples.offset a - start := by
  have hfits := samples.fits
  have hsub : a - (samples.data + BitVec.ofNat w start) =
      a - samples.data - BitVec.ofNat w start := (BitVec.sub_sub ..).symm
  have hplace : (BitVec.ofNat w start).toNat = start := by
    rw [BitVec.toNat_ofNat, Nat.mod_eq_of_lt (by omega)]
  rw [hsub, BitVec.toNat_sub, hplace]
  have hlt : (a - samples.data).toNat < 2 ^ w := (a - samples.data).isLt
  unfold offset
  split_ifs
  · rw [show 2 ^ w - start + (a - samples.data).toNat =
      (a - samples.data).toNat - start + 2 ^ w by omega, Nat.add_mod_right,
      Nat.mod_eq_of_lt (by omega)]
  · rw [Nat.mod_eq_of_lt (by omega)]
    omega

variable {samples : Samples w sb} {memory : BitVec w → UInt8} {start : ℕ} {len : UInt32}
  {bytes : ℕ → UInt8}

/-- A region inside the samples is an interval of the ring. -/
theorem ring_writeRegion (hstart : start < sb.dataSize.toNat)
    (hfit : start + len.toNat ≤ sb.dataSize.toNat) {n : ℕ} (hn : n < sb.dataSize.toNat) :
    samples.ring (writeRegion memory (samples.data + BitVec.ofNat w start) len bytes) n =
      Ring.store (samples.ring memory) start len.toNat bytes n := by
  have hfits := samples.fits
  unfold ring writeRegion Ring.store
  rw [samples.toNat_sub_place hstart, samples.offset_add hn]
  split_ifs <;> first | rfl | omega

/-- Nothing else is written. -/
theorem writeRegion_outside (hstart : start < sb.dataSize.toNat)
    (hfit : start + len.toNat ≤ sb.dataSize.toNat) {a : BitVec w}
    (ha : sb.dataSize.toNat ≤ samples.offset a) :
    writeRegion memory (samples.data + BitVec.ofNat w start) len bytes a = memory a := by
  unfold writeRegion
  rw [samples.toNat_sub_place hstart]
  have hle : start ≤ samples.offset a := by omega
  rw [if_pos hle, if_neg (by omega)]

end Samples

end Memory

/-! ## The client -/

/-- An object and a client that writes a stream to one of its buffers. -/
structure StreamWriter (w : ℕ) where
  object : DSound8OAL
  memory : BitVec w → UInt8
  mLocked : Bool := false
  /-- How many bytes have been written. -/
  written : ℕ := 0
  /-- The regions that are locked. -/
  regions : Option (LockedRegions w) := none

/-- A step of the object or of the client. -/
inductive StreamOp where
  | object (op : Op)
  | lock (bytes : UInt32)
  | unlock

namespace StreamWriter

variable {w : ℕ} {sb : SharedBuffer}

/-- Where the next byte goes. -/
def place (sb : SharedBuffer) (f : StreamWriter w) : UInt32 :=
  UInt32.ofNat (f.written % sb.dataSize.toNat)

/-- One step, with the buffer at `p`, of which `samples` are the samples.  The client locks
bytes where it has come to, and unlocks them when it has copied the next piece of `stream`. -/
def Step [Abi] (samples : Samples w sb) (p : Ptr) (refresh : Refresh) (stream : ℕ → UInt8)
    (f : StreamWriter w) : StreamOp → StreamWriter w → Prop
  | .object op, f' =>
    op ≠ .release p ∧ ∃ s', DSoundStep f.object op s' ∧ f' = { f with object := s' }
  | .lock bytes, f' =>
    f.regions = none ∧ bytes ≤ sb.dataSize ∧ ∃ b hr regions mLocked',
      f.object.getBuffer p = some b ∧
      b.lock refresh samples.data f.mLocked (f.place sb) bytes 0 true true =
        some (hr, regions, mLocked') ∧
      f' = { f with
        mLocked := mLocked'
        regions := if hr = .ok then some regions else none }
  | .unlock, f' =>
    ∃ b regions hr mLocked', f.object.getBuffer p = some b ∧ f.regions = some regions ∧
      b.unlock samples.data f.mLocked regions = some (hr, mLocked') ∧
      f' = { f with
        memory := regions.write f.memory fun i ↦ stream (f.written + i)
        mLocked := mLocked'
        written := f.written + regions.audioBytes1.toNat + regions.audioBytes2.toNat
        regions := none }

/-- The client has written nothing yet. -/
def Begins [Abi] (sb : SharedBuffer) (p : Ptr) (memory : BitVec w → UInt8) (f : StreamWriter w) :
    Prop :=
  Reachable DSoundStep DSound8OAL.IsNew f.object ∧
    (∃ b, f.object.getBuffer p = some b ∧ b.mBuffer = some sb) ∧
    f = { object := f.object, memory := memory }

/-- The invariant. -/
structure Ok [Abi] (samples : Samples w sb) (p : Ptr) (stream : ℕ → UInt8)
    (memory : BitVec w → UInt8) (f : StreamWriter w) : Prop where
  object : Reachable DSoundStep DSound8OAL.IsNew f.object
  buffer : ∃ b, f.object.getBuffer p = some b ∧ b.mBuffer = some sb
  locked : f.mLocked = f.regions.isSome
  regions : ∀ regions, f.regions = some regions → ∃ bytes ≤ sb.dataSize,
    regions = Buffer.splitRegions sb samples.data (f.place sb) bytes true
  holds : Ring.Holds sb.dataSize.toNat stream f.written (samples.ring f.memory)
  outside : ∀ a, sb.dataSize.toNat ≤ samples.offset a → f.memory a = memory a

variable [Abi] {samples : Samples w sb} {p : Ptr} {refresh : Refresh} {stream : ℕ → UInt8}
  {memory : BitVec w → UInt8} {f f' : StreamWriter w} {op : StreamOp} {b : Buffer}

omit [Abi] in
theorem toNat_place (hvalid : sb.Valid) (f : StreamWriter w) :
    (f.place sb).toNat = f.written % sb.dataSize.toNat := by
  have hlt : f.written % sb.dataSize.toNat < sb.dataSize.toNat :=
    Nat.mod_lt _ hvalid.size_pos
  have hsize := hvalid.size_le
  rw [place, UInt32.toNat_ofNat', Nat.mod_eq_of_lt (by omega)]

omit [Abi] in
theorem place_lt (hvalid : sb.Valid) (f : StreamWriter w) :
    (f.place sb).toNat < sb.dataSize.toNat := by
  rw [toNat_place hvalid]
  exact Nat.mod_lt _ hvalid.size_pos

namespace Ok

theorem valid (h : f.Ok samples p stream memory) : sb.Valid := by
  obtain ⟨b, hb, hsb⟩ := h.buffer
  exact ((DSound8OAL.tracked_any h.object).buffers b (.inl ⟨p, hb⟩)).valid hsb

/-- **`Lock` succeeds** while nothing is locked. -/
theorem lock (h : f.Ok samples p stream memory) (hnone : f.regions = none)
    (hsb : b.mBuffer = some sb) {bytes : UInt32} (hbytes : bytes ≤ sb.dataSize) :
    b.lock refresh samples.data f.mLocked (f.place sb) bytes 0 true true =
      some (.ok, Buffer.splitRegions sb samples.data (f.place sb) bytes true, true) := by
  have hmLocked : f.mLocked = false := by rw [h.locked, hnone]; rfl
  have hplace : ¬ f.place sb ≥ sb.dataSize :=
    UInt32.not_le.mpr (UInt32.lt_iff_toNat_lt.mpr (place_lt h.valid f))
  have hflags : hasFlag 0 LockFlags.fromWriteCursor = false ∧
      hasFlag 0 LockFlags.entireBuffer = false := by decide
  unfold Buffer.lock Buffer.lockOffset Buffer.lockBytes
  simp only [hsb, hmLocked, hflags.1, hflags.2, hplace, UInt32.not_lt.mpr hbytes, Bool.not_true,
    Bool.false_eq_true, not_false_eq_true, if_false, and_false, Option.bind_eq_bind,
    Option.bind_some]

/-- **`Unlock` succeeds** with the regions that are locked. -/
theorem unlock (h : f.Ok samples p stream memory) {regions : LockedRegions w}
    (hregions : f.regions = some regions) (hsb : b.mBuffer = some sb) :
    b.unlock samples.data f.mLocked regions = some (.ok, false) := by
  obtain ⟨bytes, hbytes, rfl⟩ := h.regions regions hregions
  have hlt := place_lt h.valid f
  obtain ⟨hptr1, hbytes1, hbytes2, hptr2⟩ :=
    Buffer.splitRegions_spec samples.data bytes hlt
  have hle : bytes.toNat ≤ sb.dataSize.toNat := UInt32.le_iff_toNat_le.mp hbytes
  have hoffset : (samples.data + BitVec.ofNat w (f.place sb).toNat - samples.data).toNat =
      (f.place sb).toNat := samples.offset_add hlt
  refine (Buffer.unlock_ok_iff_fit hsb).mpr ⟨by rw [h.locked, hregions]; rfl, rfl, ?_⟩
  unfold LockedRegions.Fit
  rw [hptr1, hoffset, hbytes1, hbytes2]
  exact ⟨hlt, by omega, hptr2.symm.imp_left And.left, by omega⟩

/-- What is copied to the regions is the next piece on the ring. -/
theorem write (h : f.Ok samples p stream memory) {regions : LockedRegions w}
    (hregions : f.regions = some regions) :
    Ring.Holds sb.dataSize.toNat stream
        (f.written + regions.audioBytes1.toNat + regions.audioBytes2.toNat)
        (samples.ring (regions.write f.memory fun i ↦ stream (f.written + i))) ∧
      ∀ a, sb.dataSize.toNat ≤ samples.offset a →
        regions.write f.memory (fun i ↦ stream (f.written + i)) a = f.memory a := by
  obtain ⟨bytes, hbytes, rfl⟩ := h.regions regions hregions
  have hvalid := h.valid
  have hlt := place_lt hvalid f
  have hle : bytes.toNat ≤ sb.dataSize.toNat := UInt32.le_iff_toNat_le.mp hbytes
  obtain ⟨hptr1, hbytes1, hbytes2, hptr2⟩ :=
    Buffer.splitRegions_spec samples.data bytes hlt
  generalize Buffer.splitRegions sb samples.data (f.place sb) bytes true = regions at *
  have hsum : f.written + regions.audioBytes1.toNat + regions.audioBytes2.toNat =
      f.written + bytes.toNat := by
    rw [hbytes1, hbytes2]
    omega
  -- a second region that is empty may as well be at the beginning
  have hsecond : ∀ (m : BitVec w → UInt8) xs,
      writeRegion m regions.audioPtr2 regions.audioBytes2 xs =
        writeRegion m (samples.data + BitVec.ofNat w 0) regions.audioBytes2 xs := by
    intro m xs
    obtain hptr2 | ⟨-, hzero⟩ := hptr2
    · rw [hptr2, show samples.data + BitVec.ofNat w 0 = samples.data from BitVec.add_zero _]
    · rw [hzero]
      rfl
  have hfit1 : (f.place sb).toNat + regions.audioBytes1.toNat ≤ sb.dataSize.toNat := by
    rw [hbytes1]
    omega
  have hfit2 : 0 + regions.audioBytes2.toNat ≤ sb.dataSize.toNat := by
    rw [hbytes2]
    omega
  unfold LockedRegions.write
  simp only [hsecond, hptr1]
  refine ⟨?_, fun a ha ↦ ?_⟩
  · rw [hsum]
    refine (h.holds.store_split hvalid.size_pos hle).congr hvalid.size_pos fun n hn ↦ ?_
    rw [samples.ring_writeRegion hvalid.size_pos hfit2 hn, Ring.store, Ring.store,
      samples.ring_writeRegion hlt hfit1 hn, hbytes1, hbytes2, toNat_place hvalid]
    simp only [Nat.add_assoc]
  · rw [samples.writeRegion_outside hvalid.size_pos hfit2 ha,
      samples.writeRegion_outside hlt hfit1 ha]

/-- **Step lemma.** -/
theorem step (h : f.Ok samples p stream memory) (hs : f.Step samples p refresh stream op f') :
    f'.Ok samples p stream memory := by
  cases op with
  | object op =>
      obtain ⟨hop, s', hs, rfl⟩ := hs
      obtain ⟨b, hb, hsb⟩ := h.buffer
      obtain ⟨b', hb', hstorage⟩ :=
        hs.stays_storage (DSound8OAL.ok_of_reachable h.object) hop hb
      exact ⟨h.object.step hs, ⟨b', hb', hstorage.trans hsb⟩, h.locked, h.regions, h.holds,
        h.outside⟩
  | lock bytes =>
      obtain ⟨hnone, hbytes, b, hr, regions, mLocked', hb, hlock, rfl⟩ := hs
      obtain ⟨b', hb', hsb⟩ := h.buffer
      obtain rfl : b' = b := Option.some.inj (hb'.symm.trans hb)
      rw [h.lock hnone hsb hbytes] at hlock
      cases hlock
      refine ⟨h.object, h.buffer, rfl, fun regions hregions ↦ ?_, h.holds, h.outside⟩
      cases hregions
      exact ⟨bytes, hbytes, rfl⟩
  | unlock =>
      obtain ⟨b, regions, hr, mLocked', hb, hregions, hunlock, rfl⟩ := hs
      obtain ⟨b', hb', hsb⟩ := h.buffer
      obtain rfl : b' = b := Option.some.inj (hb'.symm.trans hb)
      rw [h.unlock hregions hsb] at hunlock
      cases hunlock
      obtain ⟨hholds, houtside⟩ := h.write hregions
      exact ⟨h.object, h.buffer, rfl, nofun, hholds, fun a ha ↦
        (houtside a ha).trans (h.outside a ha)⟩

end Ok

theorem Begins.ok (h : f.Begins sb p memory) : f.Ok samples p stream memory := by
  obtain ⟨hobject, hbuffer, hf⟩ := h
  rw [hf]
  exact ⟨hobject, hbuffer, rfl, nofun, Ring.Holds.zero _, fun _ _ ↦ rfl⟩

theorem ok_of_reachable (h : Reachable (Step samples p refresh stream) (Begins sb p memory) f) :
    f.Ok samples p stream memory :=
  h.invariant (P := Ok samples p stream memory) (fun _ ht ↦ ht.ok) fun _ _ _ ht hs ↦ ht.step hs

/-- The next piece can be written. -/
theorem exists_piece (h : Reachable (Step samples p refresh stream) (Begins sb p memory) f)
    (hnone : f.regions = none) {bytes : UInt32} (hbytes : bytes ≤ sb.dataSize) :
    ∃ f', Reachable (Step samples p refresh stream) (Begins sb p memory) f' ∧
      f'.regions = none ∧ f'.written = f.written + bytes.toNat := by
  have hok := ok_of_reachable h
  obtain ⟨b, hb, hsb⟩ := hok.buffer
  obtain ⟨-, hbytes1, hbytes2, -⟩ :=
    Buffer.splitRegions_spec samples.data bytes (place_lt hok.valid f)
  let regions := Buffer.splitRegions sb samples.data (f.place sb) bytes true
  let f₁ : StreamWriter w := { f with mLocked := true, regions := some regions }
  let f₂ : StreamWriter w := { f with
    memory := regions.write f.memory fun i ↦ stream (f.written + i)
    mLocked := false
    written := f.written + regions.audioBytes1.toNat + regions.audioBytes2.toNat
    regions := none }
  have h₁ : Reachable (Step samples p refresh stream) (Begins sb p memory) f₁ :=
    h.step (i := .lock bytes)
      ⟨hnone, hbytes, b, .ok, regions, true, hb, hok.lock hnone hsb hbytes, rfl⟩
  have h₂ : Reachable (Step samples p refresh stream) (Begins sb p memory) f₂ :=
    h₁.step (i := .unlock)
      ⟨b, regions, .ok, false, hb, rfl, (ok_of_reachable h₁).unlock rfl hsb, rfl⟩
  refine ⟨f₂, h₂, rfl, ?_⟩
  simp only [f₂, regions, hbytes1, hbytes2]
  omega

end StreamWriter

open StreamWriter

/-- **What is written to a buffer is where it belongs.**  Whatever else happens to the object as
long as the buffer is not released, and in pieces of any lengths that fit, on the ring of the
samples are the last bytes that have been written, and no other byte of the memory has changed.
`Lock` succeeds whenever nothing is locked, with regions of as many bytes as it is asked for, and
`Unlock` whenever something is. -/
theorem stream_written [Abi] {w : ℕ} {sb : SharedBuffer} (samples : Samples w sb) {p : Ptr}
    {refresh : Refresh} {stream : ℕ → UInt8} {memory : BitVec w → UInt8} {f : StreamWriter w}
    (h : Reachable (StreamWriter.Step samples p refresh stream) (Begins sb p memory) f) :
    Ring.Holds sb.dataSize.toNat stream f.written (samples.ring f.memory) ∧
    (∀ a, sb.dataSize.toNat ≤ samples.offset a → f.memory a = memory a) ∧
    ∃ b, f.object.getBuffer p = some b ∧
      (f.regions = none → ∀ bytes ≤ sb.dataSize, ∃ regions,
        b.lock refresh samples.data f.mLocked (f.place sb) bytes 0 true true =
          some (.ok, regions, true) ∧
        regions.audioBytes1.toNat + regions.audioBytes2.toNat = bytes.toNat) ∧
      ∀ regions, f.regions = some regions →
        b.unlock samples.data f.mLocked regions = some (.ok, false) := by
  have hok := StreamWriter.ok_of_reachable h
  obtain ⟨b, hb, hsb⟩ := hok.buffer
  refine ⟨hok.holds, hok.outside, b, hb, fun hnone bytes hbytes ↦
    ⟨_, hok.lock hnone hsb hbytes, ?_⟩, fun regions hregions ↦ hok.unlock hregions hsb⟩
  obtain ⟨-, hbytes1, hbytes2, -⟩ :=
    Buffer.splitRegions_spec samples.data bytes (place_lt hok.valid f)
  rw [hbytes1, hbytes2]
  omega

set_option maxRecDepth 4000 in
/-- Six bytes and four on eight bytes of samples: the last two are at the beginning. -/
theorem stream_written_wrap : letI : Abi := ⟨⟨600, by decide⟩⟩
    ∃ (sb : SharedBuffer) (samples : Samples 64 sb) (f : StreamWriter 64),
      Reachable (StreamWriter.Step samples ⟨4096, 0⟩ .default UInt8.ofNat)
        (Begins sb ⟨4096, 0⟩ fun _ ↦ 0) f ∧
      samples.ring f.memory 1 = 9 ∧ f.memory (samples.data + 8) = 0 := by
  let _ : Abi := ⟨⟨600, by decide⟩⟩
  have h0 : Reachable DSoundStep DSound8OAL.IsNew (DSound8OAL.new true) := .init ⟨true, rfl⟩
  have h1 := h0.step (i := initializeOne) ⟨initializeOne_legal true, _, rfl⟩
  have h2 := h1.step (i := createMono Caps.locHardware) ⟨createMono_legal _ _, _, rfl⟩
  obtain ⟨s, hs, hmono⟩ : ∃ s, Reachable DSoundStep DSound8OAL.IsNew s ∧
      (s.getBuffer ⟨4096, 0⟩).any (fun b ↦ b.mBuffer.any fun sb ↦ sb.dataSize = 8) = true :=
    ⟨_, h2, by decide +kernel⟩
  obtain ⟨b, hb, hsize⟩ := (Option.any_eq_true _ _).mp hmono
  obtain ⟨sb, hsb, hsize⟩ := (Option.any_eq_true _ _).mp hsize
  have hsize : sb.dataSize = 8 := by simpa using hsize
  let samples : Samples 64 sb := ⟨4096, by decide, by rw [hsize]; decide⟩
  have h₀ : Reachable (StreamWriter.Step samples ⟨4096, 0⟩ .default UInt8.ofNat)
      (Begins sb ⟨4096, 0⟩ fun _ ↦ 0) { object := s, memory := fun _ ↦ 0 } :=
    .init ⟨hs, ⟨b, hb, hsb⟩, rfl⟩
  obtain ⟨f₁, h₁, hnone₁, hwritten₁⟩ := exists_piece h₀ rfl
    (show (6 : UInt32) ≤ sb.dataSize by rw [hsize]; decide)
  obtain ⟨f₂, h₂, hnone₂, hwritten₂⟩ := exists_piece h₁ hnone₁
    (show (4 : UInt32) ≤ sb.dataSize by rw [hsize]; decide)
  have hwritten : f₂.written = 10 := hwritten₂.trans (congrArg (· + 4) hwritten₁)
  obtain ⟨hholds, houtside, -⟩ := stream_written samples h₂
  rw [hsize] at hholds houtside
  refine ⟨sb, samples, f₂, h₂, ?_, houtside _ ?_⟩
  · exact hholds 9 (by rw [hwritten]; decide) (by rw [hwritten]; decide)
  · show (8 : UInt32).toNat ≤ (4096#64 + 8 - 4096).toNat
    decide

end Dsoal
