import Dsoal.Capture.Loop
import Dsoal.Core.CaptureStream
import Dsoal.Locks.CaptureRegions

/-!
# What a client of a capture buffer reads

The calls of a pass store one after the other what the device has recorded, so that the ring has
the last bytes of the stream (`Ring.Holds`), and the write position is where the next one goes.
A client that has read `c` bytes so far locks the ring at `c % size`.  As long as it is less than
a lap behind, it sees from the read position how many bytes there are, and reads just these.
-/

namespace Dsoal

open TransitionSystem

namespace CaptureStream

variable {recorded : ℕ → UInt8} {s s' : CaptureStream} {op : CaptureRingOp} {block size pos : ℕ}

/-! ## The calls of a pass -/

/-- The first of the calls that put frames at consecutive places. -/
theorem frames_cons {c : CaptureCall} {calls : List CaptureCall} {count : ℕ} (hblock : 0 < block)
    (hpos : pos < size) (hinside : c.Inside block size)
    (hplaces : (c :: calls).flatMap (CaptureCall.places block) =
      Ring.frames size pos block count) :
    c.offset.toNat = pos ∧ c.frames.toNat ≤ count ∧
      calls.flatMap (CaptureCall.places block) =
        Ring.frames size ((pos + c.frames.toNat * block) % size) block
          (count - c.frames.toNat) := by
  obtain ⟨hone, hfit⟩ := hinside
  rw [List.flatMap_cons] at hplaces
  have hlength : c.frames.toNat ≤ count := by
    have hlen := congrArg List.length hplaces
    simp only [CaptureCall.places, Ring.frames, List.length_append, List.length_map,
      List.length_range] at hlen
    omega
  have hoffset : c.offset.toNat = pos := by
    have hhead := congrArg (fun l ↦ l[0]?) hplaces
    have hfirst : 0 < c.frames.toNat := hone
    have hcount : 0 < count := by omega
    simpa [CaptureCall.places, Ring.frames, List.getElem?_append, List.getElem?_range, hfirst,
      hcount, Nat.mod_eq_of_lt hpos] using hhead
  refine ⟨hoffset, hlength, ?_⟩
  rw [← Nat.add_sub_cancel' hlength, Ring.frames_add, Ring.frames_eq hblock (hoffset ▸ hfit)]
    at hplaces
  simp only [CaptureCall.places, hoffset] at hplaces
  exact List.append_cancel_left hplaces

/-- **The calls of a pass** store the next frames of the stream. -/
theorem holds_foldl (hblock : 0 < block) {calls : List CaptureCall} {count : ℕ}
    (hpos : s.taken % size = pos) (hlt : pos < size)
    (hinside : ∀ c ∈ calls, c.Inside block size)
    (hplaces : calls.flatMap (CaptureCall.places block) = Ring.frames size pos block count)
    (hheld : Ring.Holds size recorded s.taken s.mBuffer) :
    (calls.foldl (captureSamples recorded block) s).taken = s.taken + count * block ∧
      Ring.Holds size recorded (calls.foldl (captureSamples recorded block) s).taken
        (calls.foldl (captureSamples recorded block) s).mBuffer := by
  induction calls generalizing s pos count with
  | nil =>
      have hcount : count = 0 := by
        simpa [Ring.frames] using (congrArg List.length hplaces).symm
      simp [hcount, hheld]
  | cons c calls ih =>
      have hc := hinside c List.mem_cons_self
      obtain ⟨hoffset, hle, hrest⟩ := frames_cons hblock hlt hc hplaces
      have hfit : s.taken % size + c.frames.toNat * block ≤ size := by
        rw [hpos, ← hoffset]
        exact hc.2
      have hstore := hheld.store hfit
      rw [hpos, ← hoffset] at hstore
      have hnext : (captureSamples recorded block s c).taken % size =
          (pos + c.frames.toNat * block) % size := by
        rw [← hpos, Nat.mod_add_mod]
        rfl
      obtain ⟨htaken, hholds⟩ := ih hnext (Nat.mod_lt _ (by omega))
        (fun c' hc' ↦ hinside c' (List.mem_cons_of_mem _ hc')) hrest hstore
      refine ⟨?_, hholds⟩
      rw [List.foldl_cons, htaken]
      show s.taken + c.frames.toNat * block + (count - c.frames.toNat) * block = _
      rw [Nat.add_assoc, ← Nat.add_mul, Nat.add_sub_cancel' hle]

/-! ## The invariant -/

/-- The ring has the last bytes of the stream, and the write position is where the next one
goes. -/
structure Ok (recorded : ℕ → UInt8) (s : CaptureStream) : Prop where
  ring : s.ring.Ok
  idle : s.ring.buffer.mDevice = none → s.taken = 0
  place : s.ring.buffer.mDevice.isSome →
    s.ring.mWritePos.toNat = s.taken % s.ring.buffer.size.toNat
  frames : s.ring.buffer.mDevice.isSome → s.ring.buffer.frameSize ∣ s.taken
  held : s.ring.buffer.mDevice.isSome →
    Ring.Holds s.ring.buffer.size.toNat recorded s.taken s.mBuffer

theorem IsNew.ok (h : s.IsNew) : s.Ok recorded := by
  obtain ⟨ring, hring, rfl⟩ := h
  obtain ⟨mIs8, hmIs8⟩ := id hring
  subst hmIs8
  exact ⟨hring.ok, fun _ ↦ rfl, nofun, nofun, nofun⟩

/-- The steps that are no pass keep the write position, and the buffer if a device is open. -/
theorem exec_keeps {ring : CaptureRing} (hop : ∀ avails, op ≠ .captureThread avails)
    (h : s.ring.exec op = some ring) :
    ring.mWritePos = s.ring.mWritePos ∧
      (s.ring.buffer.mDevice.isSome → ring.buffer = s.ring.buffer) := by
  cases op with
  | initializeRing name desc env =>
      cases h
      refine ⟨rfl, fun hdev ↦ ?_⟩
      rcases s.ring.buffer.initializeBuffer_cases name desc env with hsame | ⟨hnone, -⟩
      · exact hsame
      · rw [hnone] at hdev
        cases hdev
  | start dwFlags =>
      cases h
      split <;> exact ⟨rfl, fun _ ↦ rfl⟩
  | stop =>
      cases h
      exact ⟨rfl, fun _ ↦ rfl⟩
  | setNotificationPositions notifies =>
      cases h
      unfold CaptureRing.setNotificationPositions
      repeat' split
      all_goals exact ⟨rfl, fun _ ↦ rfl⟩
  | captureThread avails => exact absurd rfl (hop avails)

/-- **Step lemma**, of a pass. -/
theorem Ok.captureThread {avails : Int32} (h : s.Ok recorded)
    (hc : s.captureThread recorded avails = some s') : s'.Ok recorded := by
  obtain ⟨pass, hpass, hs'⟩ := Option.bind_eq_some_iff.mp hc
  cases hs'
  have hexec : s.ring.exec (.captureThread avails) = some pass.ring := by
    simp only [CaptureRing.exec, hpass, Option.map_some]
  have hring := h.ring.exec hexec
  cases hdev : s.ring.buffer.mDevice with
  | none =>
      unfold CaptureRing.captureThread at hpass
      simp only [hdev, Option.isNone_none, if_true] at hpass
      cases hpass
      exact h
  | some device =>
      have hsome : s.ring.buffer.mDevice.isSome := by rw [hdev]; rfl
      obtain ⟨hframed, hpos⟩ := h.ring.framed hsome
      obtain ⟨pass', hpass', hreads⟩ := h.ring.captureThread hsome avails
      obtain rfl : pass' = pass := Option.some.inj (hpass'.symm.trans hpass)
      obtain ⟨htaken, hholds⟩ := holds_foldl hframed.frame_pos (h.place hsome).symm hpos.2
        hreads.inside hreads.places (h.held hsome)
      have hbuffer : pass'.ring.buffer = s.ring.buffer := by rw [hreads.ring]
      refine ⟨hring, fun hnone ↦ ?_, fun _ ↦ ?_, fun _ ↦ ?_, fun _ ↦ ?_⟩
      · have hnone : pass'.ring.buffer.mDevice = none := hnone
        rw [hbuffer, hdev] at hnone
        cases hnone
      · dsimp only
        rw [hbuffer, htaken, hreads.last, h.place hsome, Nat.mod_add_mod]
      · dsimp only
        rw [hbuffer, htaken]
        exact Nat.dvd_add (h.frames hsome) (Nat.dvd_mul_left _ _)
      · dsimp only
        rw [hbuffer]
        exact hholds

/-- **Step lemma**. -/
theorem Ok.exec (h : s.Ok recorded) (hc : s.exec recorded op = some s') : s'.Ok recorded := by
  by_cases hop : ∃ avails, op = .captureThread avails
  · obtain ⟨avails, rfl⟩ := hop
    exact h.captureThread hc
  · have hop : ∀ avails, op ≠ .captureThread avails := fun avails heq ↦ hop ⟨avails, heq⟩
    have hother : ∃ ring, s.ring.exec op = some ring ∧ s' = { s with ring := ring } := by
      have heq : s.exec recorded op = (s.ring.exec op).map fun ring ↦ { s with ring := ring } := by
        cases op with
        | captureThread avails => exact absurd rfl (hop avails)
        | _ => rfl
      obtain ⟨ring, hring, hs'⟩ := Option.map_eq_some_iff.mp (heq.symm.trans hc)
      exact ⟨ring, hring, hs'.symm⟩
    obtain ⟨ring, hring, rfl⟩ := hother
    have hok := h.ring.exec hring
    obtain ⟨hpos, hbuffer⟩ := exec_keeps hop hring
    cases hdev : s.ring.buffer.mDevice with
    | none =>
        have hzero : s.taken = 0 := h.idle hdev
        refine ⟨hok, fun _ ↦ hzero, fun _ ↦ ?_, fun _ ↦ ?_, fun _ ↦ ?_⟩
        · dsimp only
          rw [hpos, h.ring.idle hdev, hzero, Nat.zero_mod]
          rfl
        · dsimp only
          rw [hzero]
          exact Nat.dvd_zero _
        · dsimp only
          rw [hzero]
          exact Ring.Holds.zero _
    | some device =>
        have hsome : s.ring.buffer.mDevice.isSome := by rw [hdev]; rfl
        have hbuffer := hbuffer hsome
        refine ⟨hok, fun hnone ↦ ?_, fun _ ↦ ?_, fun _ ↦ ?_, fun _ ↦ ?_⟩
        · have hnone : ring.buffer.mDevice = none := hnone
          rw [hbuffer, hdev] at hnone
          cases hnone
        · dsimp only
          rw [hbuffer, hpos]
          exact h.place hsome
        · dsimp only
          rw [hbuffer]
          exact h.frames hsome
        · dsimp only
          rw [hbuffer]
          exact h.held hsome

/-- **Run lemma**. -/
theorem ok_of_reachable (h : Reachable (functional (exec recorded)) IsNew s) : s.Ok recorded :=
  h.invariant (P := Ok recorded) (fun _ ↦ IsNew.ok) fun _ _ _ hok hs ↦ hok.exec hs

/-! ## Reading -/

/-- The read position is the write position. -/
theorem getCurrentPosition_readpos {r : CaptureRing} {cappos readpos : UInt32}
    (h : r.getCurrentPosition = some (cappos, readpos)) : readpos = r.mWritePos := by
  unfold CaptureRing.getCurrentPosition at h
  dsimp only at h
  split at h
  · split at h
    · cases h
    · cases h
      rfl
  · cases h
    rfl

/-- **The regions of a `Lock`** at the place of a byte that has not been stored over have the
bytes of the stream. -/
theorem Ok.read (h : s.Ok recorded) (hdev : s.ring.buffer.mDevice.isSome) {w : ℕ}
    (samples : s.ring.buffer.Samples w) {mLocked mLocked' : Bool} {cursor bytes flags : UInt32}
    {regions : LockedRegions w}
    (hlock : s.ring.buffer.lock samples.data mLocked cursor bytes flags true true =
      (.ok, regions, mLocked'))
    {c : ℕ} (hcursor : cursor.toNat = c % s.ring.buffer.size.toNat)
    (hnew : c + (s.ring.buffer.lockBytes bytes flags).toNat ≤ s.taken)
    (hlap : s.taken ≤ c + s.ring.buffer.size.toNat) :
    regions.read s.mBuffer samples.data =
      Ring.read recorded c (s.ring.buffer.lockBytes bytes flags).toNat := by
  obtain ⟨hle, hcount, -, rfl⟩ := DSCBuffer.lock_cases hlock
  obtain ⟨hptr1, hbytes1, hbytes2, hptr2⟩ :=
    DSCBuffer.splitRegions_spec samples.data hle hcount
  have hoffset1 := samples.offset_add (UInt32.le_iff_toNat_le.mp hle)
  rw [DSCBuffer.Samples.offset] at hoffset1
  have hread := (h.held hdev).read (h.ring.framed hdev).1.size_pos hlap hnew
  rw [← hread, LockedRegions.read, hbytes1, hbytes2, hptr1, hoffset1, hcursor]
  congr 1
  rcases hptr2 with hptr2 | ⟨-, hzero⟩
  · rw [hptr2, BitVec.sub_self]
    rfl
  · rw [hzero, hcursor] at hbytes2
    rw [← hbytes2]
    rfl

end CaptureStream

open CaptureStream

/-- **What a client reads is what the device has recorded.**  In every reachable state of an
initialized buffer, the read position is where the next byte of the stream goes, after a whole
number of frames.  A client that has read the first `c` bytes, and is less than a lap behind,
finds out from the read position how many more there are.  If it locks that range, or another
that begins there and has been recorded, or the whole ring, the regions have the bytes of the
stream in order. -/
theorem capture_stream {recorded : ℕ → UInt8} {s : CaptureStream}
    (h : Reachable (functional (CaptureStream.exec recorded)) CaptureStream.IsNew s)
    (hdev : s.ring.buffer.mDevice.isSome) :
    s.ring.buffer.frameSize ∣ s.taken ∧
      (∃ cappos readpos, s.ring.getCurrentPosition = some (cappos, readpos) ∧
        readpos.toNat = s.taken % s.ring.buffer.size.toNat ∧
        ∀ c ≤ s.taken, s.taken < c + s.ring.buffer.size.toNat →
          Ring.ahead s.ring.buffer.size.toNat (c % s.ring.buffer.size.toNat) readpos.toNat =
            s.taken - c) ∧
      ∀ (w : ℕ) (samples : s.ring.buffer.Samples w) mLocked cursor bytes flags regions mLocked'
        (count : UInt32) c,
        s.ring.buffer.lock samples.data mLocked cursor bytes flags true true =
            (.ok, regions, mLocked') →
          (count = if hasFlag flags captureEntireBuffer then s.ring.buffer.size else bytes) →
          cursor.toNat = c % s.ring.buffer.size.toNat →
          c + count.toNat ≤ s.taken → s.taken ≤ c + s.ring.buffer.size.toNat →
          regions.read s.mBuffer samples.data = Ring.read recorded c count.toNat := by
  have hok := ok_of_reachable h
  refine ⟨hok.frames hdev, ?_, ?_⟩
  · obtain ⟨cappos, readpos, hpositions, -, -⟩ := hok.ring.getCurrentPosition hdev
    have hreadpos := getCurrentPosition_readpos hpositions
    refine ⟨cappos, readpos, hpositions, hreadpos ▸ hok.place hdev, fun c hle hlt ↦ ?_⟩
    rw [hreadpos, hok.place hdev]
    exact Ring.ahead_mod_of_lt hle hlt
  · rintro w samples mLocked cursor bytes flags regions mLocked' count c hlock rfl
    exact hok.read hdev samples hlock

/-- Six frames in two passes, on a ring of four: the last two bytes and the first two are bytes
6 to 9 of the stream. -/
theorem capture_stream_wrap : ∃ s, Reachable
      (functional (CaptureStream.exec UInt8.ofNat)) CaptureStream.IsNew s ∧
    s.taken = 12 ∧ ∃ samples : s.ring.buffer.Samples 32, ∃ regions : LockedRegions 32,
      s.ring.buffer.lock samples.data false 6 4 0 true true = (.ok, regions, true) ∧
      regions.audioBytes2 = 2 ∧ regions.read s.mBuffer samples.data = [6, 7, 8, 9] := by
  have h0 : Reachable (functional (CaptureStream.exec UInt8.ofNat)) CaptureStream.IsNew
      { ring := { buffer := { mIs8 := true } } } := .init ⟨_, ⟨true, rfl⟩, rfl⟩
  have h1 := h0.step_get initializeFour rfl
  have h2 := h1.step_get (.captureThread 3) (by decide +kernel)
  obtain ⟨s, h3, hdev, hsize, htaken, hlock⟩ : ∃ s, Reachable
        (functional (CaptureStream.exec UInt8.ofNat)) CaptureStream.IsNew s ∧
      s.ring.buffer.mDevice.isSome ∧ s.ring.buffer.size = 8 ∧ s.taken = 12 ∧
      s.ring.buffer.lock (16 : BitVec 32) false 6 4 0 true true = (.ok, ⟨22, 2, 16, 2⟩, true) :=
    ⟨_, h2.step_get (.captureThread 3) (by decide +kernel), by decide +kernel, by decide +kernel,
      by decide +kernel, rfl⟩
  let samples : s.ring.buffer.Samples 32 :=
    { data := 16, ne_null := fun _ ↦ by decide, fits := by rw [hsize]; decide }
  obtain ⟨-, -, hread⟩ := capture_stream h3 hdev
  refine ⟨s, h3, htaken, samples, _, hlock, rfl, ?_⟩
  exact hread 32 samples false 6 4 0 _ _ 4 6 hlock rfl (by rw [hsize]; rfl)
    (by rw [htaken]; exact Nat.le_add_right 10 2) (by rw [hsize, htaken]; decide)

end Dsoal
