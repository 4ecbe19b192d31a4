import Dsoal.Core.CaptureLoop
import Dsoal.Lib.Ring

/-!
# The capture ring

The write position is a multiple of the frame size and inside the buffer, in every
reachable state.  From this it follows that a pass of the capture thread ends, and where
each frame goes (`capture_reads`), and that the reported positions are in order
(`Ok.getCurrentPosition`).  Which notifications it signals is another matter: the pass compares
the write positions before and after, and does not see full laps (`capture_notifies`).
-/

namespace Dsoal

open TransitionSystem

/-! ## A buffer that has been initialized -/

namespace DSCBuffer

variable {b : DSCBuffer} {name : String} {desc : DSCBufferDesc} {env : CaptureEnv}

/-- The number of bytes of a frame. -/
abbrev frameSize (b : DSCBuffer) : ℕ := b.mWaveFmt.nBlockAlign.toNat

/-- What `Initialize` ensures of the format and of the size. -/
structure Framed (b : DSCBuffer) : Prop where
  frame_pos : 0 < b.frameSize
  frame_le : b.frameSize ≤ 4
  size_pos : 0 < b.size.toNat
  size_lt : b.size.toNat < 2 ^ 31
  dvd_size : b.frameSize ∣ b.size.toNat
  rate_le : b.mWaveFmt.nSamplesPerSec ≤ frequencyMax

/-- A format samples are captured in has frames of one, two or four bytes. -/
theorem frame_of_captureFormat {nChannels wBitsPerSample : UInt16} {alformat : CaptureFormat}
    (h : captureFormat nChannels wBitsPerSample = some alformat) :
    0 < nChannels.toNat * wBitsPerSample.toNat / 8 ∧
      nChannels.toNat * wBitsPerSample.toNat / 8 ≤ 4 := by
  unfold captureFormat at h
  split_ifs at h with h1 h8 h16 h2 h8 h16
  all_goals
    subst_vars
    decide

/-- A conversion keeps what the checks are about. -/
theorem convertFormat_eq {format mWaveFmt : WaveFormat} {alformat : CaptureFormat}
    (h : convertFormat format = some (mWaveFmt, alformat)) :
    mWaveFmt.nBlockAlign = format.nBlockAlign ∧ mWaveFmt.nSamplesPerSec = format.nSamplesPerSec ∧
      captureFormat format.nChannels format.wBitsPerSample = some alformat := by
  unfold convertFormat at h
  split_ifs at h
  all_goals
    obtain ⟨f, hf, he⟩ := Option.map_eq_some_iff.mp h
    cases he
    exact ⟨rfl, rfl, hf⟩

/-- The checks of `Initialize` ensure a whole number of frames. -/
theorem framed_of_checks {format mWaveFmt : WaveFormat} {alformat : CaptureFormat}
    {bytes : UInt32} {mIs8 : Bool} {device : Option CaptureDevice} (hvalid : validFormat format)
    (hconv : convertFormat format = some (mWaveFmt, alformat))
    (hbytes : ¬ (bytes < mWaveFmt.nBlockAlign.toUInt32 ∨ bytes > 0x7FFFFFFF ∨
      bytes % mWaveFmt.nBlockAlign.toUInt32 ≠ 0)) :
    Framed { mIs8 := mIs8, mWaveFmt := mWaveFmt, size := bytes, mDevice := device } := by
  obtain ⟨halign, hrate, hformat⟩ := convertFormat_eq hconv
  obtain ⟨hpos, hle⟩ := frame_of_captureFormat hformat
  simp only [validFormat, decide_eq_true_eq, Bool.not_eq_true', decide_eq_false_iff_not,
    not_or, UInt32.not_lt] at hvalid
  simp only [not_or, UInt32.not_lt, not_not] at hbytes
  obtain ⟨-, -, hblock, ⟨-, hmax⟩, -⟩ := hvalid
  obtain ⟨hframe, hint, hmod⟩ := hbytes
  rw [← hblock, ← halign] at hpos hle
  have hframe' : mWaveFmt.nBlockAlign.toNat ≤ bytes.toNat := hframe
  have hint' : bytes.toNat ≤ 0x7FFFFFFF := hint
  have hmod' : bytes.toNat % mWaveFmt.nBlockAlign.toNat = 0 := congrArg UInt32.toNat hmod
  exact {
    frame_pos := hpos
    frame_le := hle
    size_pos := by
      show 0 < bytes.toNat
      omega
    size_lt := by
      show bytes.toNat < _
      omega
    dvd_size := Nat.dvd_of_mod_eq_zero hmod'
    rate_le := by
      show mWaveFmt.nSamplesPerSec ≤ _
      rw [hrate]
      exact hmax }

/-- **`Initialize`** that does not succeed leaves the buffer without a device, and one that
does leaves it with a whole number of frames. -/
theorem initializeBuffer_cases (b : DSCBuffer) (name : String) (desc : DSCBufferDesc)
    (env : CaptureEnv) :
    (b.initializeBuffer name desc env).2 = b ∨
      b.mDevice = none ∧ ((b.initializeBuffer name desc env).2.mDevice = none ∨
        (b.initializeBuffer name desc env).2.Framed) := by
  unfold initializeBuffer
  split
  · exact .inl rfl
  rename_i hdev
  have hnone : b.mDevice = none := by simpa using hdev
  split
  · exact .inl rfl
  cases desc.lpwfxFormat with
  | none => exact .inl rfl
  | some format =>
      dsimp only
      split
      · exact .inl rfl
      split
      · exact .inl rfl
      split
      · exact .inl rfl
      rename_i hvalid
      cases hconv : convertFormat format with
      | none => exact .inl rfl
      | some r =>
          obtain ⟨mWaveFmt, alformat⟩ := r
          dsimp only
          refine .inr ⟨hnone, ?_⟩
          split
          · exact .inl hnone
          rename_i hbytes
          split
          · exact .inl hnone
          split
          · exact .inr (framed_of_checks (by simpa using hvalid) hconv hbytes)
          · exact .inl hnone

end DSCBuffer

/-! ## The inner loop -/

namespace CaptureCall

/-- The call writes to the byte at `n`. -/
def Writes (frame : ℕ) (c : CaptureCall) (n : ℕ) : Prop :=
  n ∈ Set.Ico c.offset.toNat (c.offset.toNat + c.frames.toNat * frame)

/-- Where the frames of a call go. -/
def places (frame : ℕ) (c : CaptureCall) : List ℕ :=
  (List.range c.frames.toNat).map fun i ↦ c.offset.toNat + i * frame

/-- The call asks for a frame and stays inside a buffer of `size` bytes. -/
def Inside (frame size : ℕ) (c : CaptureCall) : Prop :=
  1 ≤ c.frames.toNat ∧ c.offset.toNat + c.frames.toNat * frame ≤ size

end CaptureCall

namespace DSCBuffer

variable {b : DSCBuffer}

/-- A write position: the beginning of a frame of the buffer. -/
def Position (b : DSCBuffer) (pos : UInt32) : Prop :=
  b.frameSize ∣ pos.toNat ∧ pos.toNat < b.size.toNat

/-- The frames up to the end of the buffer. -/
theorem Framed.room (h : b.Framed) {pos : UInt32} (hpos : b.Position pos) :
    ∃ room : ℕ, 0 < room ∧ pos.toNat + room * b.frameSize = b.size.toNat ∧
      ((b.size - pos) / b.mWaveFmt.nBlockAlign.toUInt32).toNat = room := by
  obtain ⟨hdvd, hlt⟩ := hpos
  obtain ⟨room, hroom⟩ := Nat.dvd_sub h.dvd_size hdvd
  refine ⟨room, Nat.pos_of_ne_zero ?_, ?_, ?_⟩
  · rintro rfl
    omega
  · rw [Nat.mul_comm]
    omega
  · rw [UInt32.toNat_div, UInt32.toNat_sub_of_le b.size pos (UInt32.le_iff_toNat_le.mpr hlt.le),
      UInt16.toNat_toUInt32, hroom]
    exact Nat.mul_div_cancel_left room h.frame_pos

/-- **One pass of the inner loop** reads up to the end of the buffer at the latest, and ends
at the beginning of a frame. -/
theorem Framed.advance (h : b.Framed) {pos avail room toread stop next : UInt32}
    (hpos : b.Position pos) (havail : 0 < avail.toNat)
    (hroom : room = (b.size - pos) / b.mWaveFmt.nBlockAlign.toUInt32)
    (hread : toread = if room < avail then room else avail)
    (hstop : stop = pos + toread * b.mWaveFmt.nBlockAlign.toUInt32)
    (hnext : next = if stop = b.size then 0 else stop) :
    1 ≤ toread.toNat ∧ toread.toNat ≤ avail.toNat ∧
      pos.toNat + toread.toNat * b.frameSize ≤ b.size.toNat ∧ b.Position next ∧
      next.toNat = (pos.toNat + toread.toNat * b.frameSize) % b.size.toNat := by
  obtain ⟨frames, hframes, hend, hdiv⟩ := h.room hpos
  have hmin : toread.toNat = min frames avail.toNat := by
    rw [← hdiv, ← hroom, hread]
    split
    · rename_i hlt
      exact (Nat.min_eq_left (Nat.le_of_lt hlt)).symm
    · rename_i hle
      exact (Nat.min_eq_right (Nat.le_of_not_lt hle)).symm
  have hle : toread.toNat * b.frameSize ≤ frames * b.frameSize :=
    Nat.mul_le_mul_right _ (by omega)
  have hsize := h.size_lt
  have hsum : stop.toNat = pos.toNat + toread.toNat * b.frameSize := by
    have hprod : (toread * b.mWaveFmt.nBlockAlign.toUInt32).toNat =
        toread.toNat * b.frameSize := by
      rw [UInt32.toNat_mul, UInt16.toNat_toUInt32]
      show toread.toNat * b.frameSize % 2 ^ 32 = _
      exact Nat.mod_eq_of_lt (by omega)
    rw [hstop, UInt32.toNat_add, hprod]
    exact Nat.mod_eq_of_lt (by omega)
  have hdvd : b.frameSize ∣ stop.toNat :=
    hsum ▸ Nat.dvd_add hpos.1 (Nat.dvd_mul_left _ _)
  refine ⟨by omega, by omega, by omega, ?_⟩
  rw [← hsum]
  split at hnext
  · rename_i heq
    subst hnext
    exact ⟨⟨Nat.dvd_zero _, h.size_pos⟩, by rw [heq, Nat.mod_self]; rfl⟩
  · rename_i hne
    subst hnext
    have hne' : next.toNat ≠ b.size.toNat := fun he ↦ hne (UInt32.toNat_inj.mp he)
    have hlt : next.toNat < b.size.toNat := by omega
    exact ⟨⟨hdvd, hlt⟩, (Nat.mod_eq_of_lt hlt).symm⟩

/-- **The inner loop** ends after as many passes as there are frames at most.  Its calls put
the frames at consecutive places of the ring. -/
theorem Framed.readFrames (h : b.Framed) {fuel : ℕ} {avail pos : UInt32}
    (hpos : b.Position pos) (hfuel : avail.toNat ≤ fuel) (hint : avail.toNat < 2 ^ 31) :
    ∃ calls last, b.readFrames fuel avail pos = some (calls, last) ∧ b.Position last ∧
      last.toNat = (pos.toNat + avail.toNat * b.frameSize) % b.size.toNat ∧
      (∀ c ∈ calls, c.Inside b.frameSize b.size.toNat) ∧
      calls.flatMap (CaptureCall.places b.frameSize) =
        Ring.frames b.size.toNat pos.toNat b.frameSize avail.toNat := by
  induction fuel generalizing avail pos with
  | zero =>
      obtain rfl : avail = 0 := UInt32.toNat_inj.mp (Nat.le_zero.mp hfuel)
      refine ⟨[], pos, rfl, hpos, ?_, by simp, rfl⟩
      rw [UInt32.toNat_zero, Nat.zero_mul, Nat.add_zero, Nat.mod_eq_of_lt hpos.2]
  | succ fuel ih =>
      by_cases hzero : avail = 0
      · subst hzero
        refine ⟨[], pos, rfl, hpos, ?_, by simp, rfl⟩
        rw [UInt32.toNat_zero, Nat.zero_mul, Nat.add_zero, Nat.mod_eq_of_lt hpos.2]
      have havail : 0 < avail.toNat :=
        Nat.pos_of_ne_zero fun h0 ↦ hzero (UInt32.toNat_inj.mp h0)
      have hblock : b.mWaveFmt.nBlockAlign.toUInt32 ≠ 0 := by
        intro h0
        have := congrArg UInt32.toNat h0
        rw [UInt16.toNat_toUInt32] at this
        exact h.frame_pos.ne' this
      set room := (b.size - pos) / b.mWaveFmt.nBlockAlign.toUInt32 with hroom
      set toread := if room < avail then room else avail with hread
      set stop := pos + toread * b.mWaveFmt.nBlockAlign.toUInt32 with hstop
      set next := if stop = b.size then 0 else stop with hnext
      obtain ⟨hone, hle, hfit, hpos', hmod⟩ := h.advance hpos havail hroom hread hstop hnext
      have hrest : (avail - toread).toNat = avail.toNat - toread.toNat :=
        UInt32.toNat_sub_of_le _ _ (UInt32.le_iff_toNat_le.mpr hle)
      have hsat : saturateSizei toread = toread := by
        refine if_neg (UInt32.not_lt.mpr (UInt32.le_iff_toNat_le.mpr ?_))
        show toread.toNat ≤ 0x7FFFFFFF
        omega
      obtain ⟨calls, last, hcalls, hlast, hend, hinside, hplaces⟩ :=
        ih hpos' (by omega) (show (avail - toread).toNat < _ by omega)
      refine ⟨⟨pos, toread⟩ :: calls, last, ?_, hlast, ?_, ?_, ?_⟩
      · rw [DSCBuffer.readFrames, if_neg hzero]
        simp only [if_neg hblock, ← hroom, ← hread, ← hstop, ← hnext, hcalls, hsat, Option.bind_eq_bind,
          Option.bind_some]
      · rw [hend, hmod, hrest, Nat.mod_add_mod, Nat.add_assoc, ← Nat.add_mul,
          Nat.add_sub_cancel' hle]
      · intro c hc
        rcases List.mem_cons.mp hc with rfl | hc
        · exact ⟨hone, hfit⟩
        · exact hinside c hc
      · have hsplit : avail.toNat = toread.toNat + (avail - toread).toNat := by omega
        rw [hsplit, Ring.frames_add, ← hmod, ← hplaces, List.flatMap_cons,
          Ring.frames_eq h.frame_pos hfit]
        rfl

end DSCBuffer

/-! ## Passes -/

namespace CaptureRing

variable {r r' : CaptureRing} {avails : Int32} {op : CaptureRingOp} {pass : CapturePass}

/-- The invariant: without a device nothing has been captured, and with one the write
position is the beginning of a frame. -/
structure Ok (r : CaptureRing) : Prop where
  idle : r.buffer.mDevice = none → r.mWritePos = 0
  framed : r.buffer.mDevice.isSome → r.buffer.Framed ∧ r.buffer.Position r.mWritePos

/-- The number of frames that are available. -/
def available (avails : Int32) : ℕ := avails.toInt.toNat

theorem available_lt (avails : Int32) : available avails < 2 ^ 31 := by
  have h := Int32.toInt_lt avails
  unfold available
  omega

theorem toNat_saturateUnsigned (avails : Int32) :
    (saturateUnsigned avails).toNat = available avails := by
  have hbits : avails.toUInt32.toNat = avails.toBitVec.toNat := rfl
  have hint : avails.toInt = avails.toBitVec.toInt := rfl
  have hcond := BitVec.toInt_eq_toNat_cond avails.toBitVec
  unfold saturateUnsigned available
  split
  · rename_i hneg
    have hneg' : avails.toInt < 0 := Int32.lt_iff_toInt_lt.mp hneg
    rw [Int.toNat_of_nonpos hneg'.le]
    rfl
  · rename_i hneg
    have hpos : ¬ avails.toInt < 0 := fun h ↦ hneg (Int32.lt_iff_toInt_lt.mpr h)
    rw [hint] at hpos ⊢
    rw [hbits]
    split at hcond <;> omega

/-- A notification is signalled if it is between the positions before and after. -/
theorem captureNotified_iff {oldpos writepos dwOffset : UInt32} {size : ℕ}
    (hsize : size < 2 ^ 31) (hold : oldpos.toNat < size) (hpos : writepos.toNat < size) :
    captureNotified oldpos writepos dwOffset ↔
      dwOffset.toNat < 2 ^ 32 - 1 ∧ Ring.Between oldpos.toNat writepos.toNat dwOffset.toNat := by
  have hstop : dwOffset = offsetStop ↔ dwOffset.toNat = 2 ^ 32 - 1 := by
    rw [← UInt32.toNat_inj]
    rfl
  have hlt := dwOffset.toNat_lt
  unfold captureNotified Ring.Between
  simp only [gt_iff_lt, ge_iff_le, UInt32.lt_iff_toNat_lt, UInt32.le_iff_toNat_le, ne_eq, hstop]
  split <;> simp only [decide_eq_true_eq] <;> omega

/-- What a pass does with `count` frames. -/
structure Reads (r : CaptureRing) (count : ℕ) (pass : CapturePass) : Prop where
  ring : pass.ring = { r with mWritePos := pass.ring.mWritePos }
  position : r.buffer.Position pass.ring.mWritePos
  last : pass.ring.mWritePos.toNat =
    (r.mWritePos.toNat + count * r.buffer.frameSize) % r.buffer.size.toNat
  inside : ∀ c ∈ pass.calls, c.Inside r.buffer.frameSize r.buffer.size.toNat
  places : pass.calls.flatMap (CaptureCall.places r.buffer.frameSize) =
    Ring.frames r.buffer.size.toNat r.mWritePos.toNat r.buffer.frameSize count
  signalled : pass.signalled = r.mNotifies.filter fun notify ↦
    captureNotified r.mWritePos pass.ring.mWritePos notify.dwOffset

/-- A pass that finds no frames reads nothing and signals nothing. -/
theorem Reads.zero (hpos : r.buffer.Position r.mWritePos) : r.Reads 0 { ring := r } where
  ring := rfl
  position := hpos
  last := by rw [Nat.zero_mul, Nat.add_zero, Nat.mod_eq_of_lt hpos.2]
  inside := by simp
  places := rfl
  signalled := by
    refine (List.filter_eq_nil_iff.mpr fun notify _ ↦ ?_).symm
    unfold captureNotified
    simp only [gt_iff_lt, ge_iff_le, UInt32.lt_iff_toNat_lt, UInt32.le_iff_toNat_le]
    split <;> simp only [decide_eq_true_eq] <;> omega

/-- **A pass of the capture thread** always ends.  Its calls put the available frames at
consecutive places from the write position on, and the new write position is where they
end. -/
theorem Ok.captureThread (h : r.Ok) (hdev : r.buffer.mDevice.isSome) (avails : Int32) :
    ∃ pass, r.captureThread avails = some pass ∧ r.Reads (available avails) pass := by
  obtain ⟨hframed, hpos⟩ := h.framed hdev
  have hnone : r.buffer.mDevice.isNone = false := by simpa using hdev
  unfold CaptureRing.captureThread
  simp only [hnone, Bool.false_eq_true, if_false]
  split
  · rename_i hneg
    have hneg' : avails.toInt < 0 := Int32.lt_iff_toInt_lt.mp hneg
    rw [available, Int.toNat_of_nonpos hneg'.le]
    exact ⟨_, rfl, .zero hpos⟩
  rw [← toNat_saturateUnsigned]
  split
  · rename_i hzero
    rw [hzero]
    exact ⟨_, rfl, .zero hpos⟩
  · have hlt := available_lt avails
    rw [← toNat_saturateUnsigned] at hlt
    obtain ⟨calls, last, hcalls, hlast, hend, hinside, hplaces⟩ :=
      hframed.readFrames hpos le_rfl hlt
    rw [hcalls]
    exact ⟨_, rfl, rfl, hlast, hend, hinside, hplaces, rfl⟩

/-- The invariant depends on the device and the write position alone. -/
theorem Ok.congr (h : r.Ok) (hbuffer : r'.buffer = r.buffer) (hpos : r'.mWritePos = r.mWritePos) :
    r'.Ok := by
  constructor
  · rw [hbuffer, hpos]
    exact h.idle
  · rw [hbuffer, hpos]
    exact h.framed

/-- **Step lemma**. -/
theorem Ok.exec (h : r.Ok) (hc : r.exec op = some r') : r'.Ok := by
  cases op with
  | initializeRing name desc env =>
      cases hc
      rcases r.buffer.initializeBuffer_cases name desc env with hsame | ⟨hnone, hnew⟩
      · exact h.congr hsame rfl
      · refine ⟨fun _ ↦ h.idle hnone, fun hsome ↦ ?_⟩
        rcases hnew with hnew | hframed
        · change (r.buffer.initializeBuffer name desc env).2.mDevice.isSome at hsome
          rw [hnew] at hsome
          cases hsome
        · refine ⟨hframed, ?_⟩
          show DSCBuffer.Position _ r.mWritePos
          rw [h.idle hnone]
          exact ⟨Nat.dvd_zero _, hframed.size_pos⟩
  | start dwFlags =>
      cases hc
      split
      · exact h.congr rfl rfl
      · exact h
  | stop =>
      cases hc
      exact h.congr rfl rfl
  | setNotificationPositions notifies =>
      cases hc
      unfold CaptureRing.setNotificationPositions
      cases notifies with
      | none => exact h
      | some notifies =>
          dsimp only
          split
          · exact h
          cases notificationPositions r.buffer.size.toNat notifies with
          | none => exact h
          | some newnots => exact h.congr rfl rfl
  | captureThread avails =>
      obtain ⟨pass, hpass, rfl⟩ := Option.map_eq_some_iff.mp hc
      cases hdev : r.buffer.mDevice with
      | none =>
          unfold CaptureRing.captureThread at hpass
          simp only [hdev, Option.isNone_none, if_true] at hpass
          cases hpass
          exact h
      | some device =>
          obtain ⟨pass', hpass', hreads⟩ := h.captureThread (by simp [hdev]) avails
          obtain rfl : pass' = pass := Option.some.inj (hpass'.symm.trans hpass)
          rw [hreads.ring]
          refine ⟨fun hn ↦ ?_, fun hs ↦ ⟨(h.framed hs).1, hreads.position⟩⟩
          rw [show r.buffer.mDevice = none from hn] at hdev
          cases hdev

theorem IsNew.ok (h : r.IsNew) : r.Ok := by
  obtain ⟨mIs8, rfl⟩ := h
  exact ⟨fun _ ↦ rfl, fun hs ↦ by cases hs⟩

/-- **Run lemma**. -/
theorem ok_of_reachable (h : Reachable (functional CaptureRing.exec) IsNew r) : r.Ok :=
  h.invariant (P := Ok) (fun _ ↦ IsNew.ok) fun _ _ _ hok hs ↦ hok.exec hs

/-- The bytes a pass writes to are those of its frames. -/
theorem Reads.writes_iff {count n : ℕ} (h : r.Reads count pass) (hframed : r.buffer.Framed)
    (hpos : r.buffer.Position r.mWritePos) (hn : n < r.buffer.size.toNat) :
    (∃ c ∈ pass.calls, c.Writes r.buffer.frameSize n) ↔
      Ring.ahead r.buffer.size.toNat r.mWritePos.toNat n < count * r.buffer.frameSize := by
  rw [← Ring.mem_frames_iff hframed.frame_pos hframed.dvd_size hpos.1 hpos.2 hn, ← h.places]
  simp only [CaptureCall.Writes, Ring.mem_Ico_mul hframed.frame_pos, List.mem_flatMap,
    CaptureCall.places]
  constructor
  · rintro ⟨c, hc, x, hx, hn⟩
    exact ⟨x, ⟨c, hc, hx⟩, hn⟩
  · rintro ⟨x, ⟨c, hc, hx⟩, hn⟩
    exact ⟨c, hc, x, hx, hn⟩

/-- A notification is signalled if its offset is on the way from the write position before
to the one after. -/
theorem Reads.signalled_iff {count : ℕ} (h : r.Reads count pass) (hframed : r.buffer.Framed)
    (hpos : r.buffer.Position r.mWritePos) {notify : PositionNotify ℕ}
    (hmem : notify ∈ r.mNotifies) (hn : notify.dwOffset.toNat < r.buffer.size.toNat) :
    notify ∈ pass.signalled ↔
      Ring.ahead r.buffer.size.toNat r.mWritePos.toNat notify.dwOffset.toNat <
        count * r.buffer.frameSize % r.buffer.size.toNat := by
  have hsize := hframed.size_lt
  rw [h.signalled, List.mem_filter, captureNotified_iff hsize hpos.2 h.position.2, h.last,
    Ring.between_iff hpos.2 hn]
  exact ⟨fun hs ↦ hs.2.2, fun hlt ↦ ⟨hmem, by omega, hlt⟩⟩

/-- **`GetCurrentPosition`** of an initialized buffer reports where frames begin. -/
theorem Ok.getCurrentPosition (h : r.Ok) (hdev : r.buffer.mDevice.isSome) :
    ∃ cappos readpos, r.getCurrentPosition = some (cappos, readpos) ∧
      r.buffer.Position cappos ∧ r.buffer.Position readpos := by
  obtain ⟨hframed, hpos⟩ := h.framed hdev
  unfold CaptureRing.getCurrentPosition
  dsimp only
  split_ifs with hcapturing hzero
  · have hsize := hframed.size_pos
    rw [hzero] at hsize
    exact absurd hsize (by decide)
  · refine ⟨_, _, rfl, ?_, hpos⟩
    -- the write-ahead is at most 2000 frames of 4 bytes
    have hrate : r.buffer.mWaveFmt.nSamplesPerSec.toNat / 100 ≤ 2000 := by
      have hmax : r.buffer.mWaveFmt.nSamplesPerSec.toNat ≤ 200000 :=
        UInt32.le_iff_toNat_le.mp hframed.rate_le
      omega
    have hframe := hframed.frame_le
    have hmul : r.buffer.mWaveFmt.nSamplesPerSec.toNat / 100 * r.buffer.frameSize ≤ 2000 * 4 :=
      Nat.mul_le_mul hrate hframe
    have hsize := hframed.size_lt
    obtain ⟨hdvd, hlt⟩ := hpos
    have hahead : (r.buffer.mWaveFmt.nSamplesPerSec / 100 *
        r.buffer.mWaveFmt.nBlockAlign.toUInt32).toNat =
        r.buffer.mWaveFmt.nSamplesPerSec.toNat / 100 * r.buffer.frameSize := by
      rw [UInt32.toNat_mul, UInt32.toNat_div, UInt16.toNat_toUInt32]
      exact Nat.mod_eq_of_lt (lt_of_le_of_lt hmul (by decide))
    have hsum : r.mWritePos.toNat +
        r.buffer.mWaveFmt.nSamplesPerSec.toNat / 100 * r.buffer.frameSize < 2 ^ 32 := by
      have hadd := Nat.add_lt_add_of_lt_of_le hlt hmul
      omega
    unfold DSCBuffer.Position
    rw [UInt32.toNat_mod, UInt32.toNat_add, hahead, Nat.mod_eq_of_lt hsum]
    exact ⟨(Nat.dvd_mod_iff hframed.dvd_size).mpr (Nat.dvd_add hdvd (Nat.dvd_mul_left _ _)),
      Nat.mod_lt _ hframed.size_pos⟩
  · exact ⟨_, _, rfl, hpos, hpos⟩

end CaptureRing

open CaptureRing

variable {r : CaptureRing}

/-- **A pass of the capture thread reads all available frames**, however many, into
consecutive places of the buffer.  In every reachable state of an initialized buffer the
write position is the beginning of a frame inside the buffer; the inner loop ends, each of
its calls asks for a frame at least and stays inside the buffer, which is shorter than
`2 ^ 31` bytes, and the new write position is where the last frame ends. -/
theorem capture_reads (h : Reachable (functional CaptureRing.exec) CaptureRing.IsNew r)
    (hdev : r.buffer.mDevice.isSome) :
    r.buffer.frameSize ∣ r.mWritePos.toNat ∧ r.mWritePos.toNat < r.buffer.size.toNat ∧
      r.buffer.size.toNat < 2 ^ 31 ∧
      ∀ avails : Int32, ∃ pass, r.captureThread avails = some pass ∧
        (∀ c ∈ pass.calls, 1 ≤ c.frames.toNat ∧
          c.offset.toNat + c.frames.toNat * r.buffer.frameSize ≤ r.buffer.size.toNat) ∧
        pass.calls.flatMap (CaptureCall.places r.buffer.frameSize) =
          (List.range avails.toInt.toNat).map (fun i ↦
            (r.mWritePos.toNat + i * r.buffer.frameSize) % r.buffer.size.toNat) ∧
        pass.ring.mWritePos.toNat =
          (r.mWritePos.toNat + avails.toInt.toNat * r.buffer.frameSize) % r.buffer.size.toNat := by
  have hok := ok_of_reachable h
  obtain ⟨hframed, hdvd, hlt⟩ := hok.framed hdev
  refine ⟨hdvd, hlt, hframed.size_lt, fun avails ↦ ?_⟩
  obtain ⟨pass, hpass, hreads⟩ := hok.captureThread hdev avails
  exact ⟨pass, hpass, hreads.inside, hreads.places, hreads.last⟩

/-- A format of 16-bit mono samples. -/
def captureMono : WaveFormat where
  wFormatTag := formatPcm
  nChannels := 1
  nSamplesPerSec := 22050
  nAvgBytesPerSec := 44100
  nBlockAlign := 2
  wBitsPerSample := 16

/-- `Initialize` of a buffer of four such samples. -/
def initializeFour : CaptureRingOp :=
  .initializeRing "" { dwSize := 28, dwBufferBytes := 8, lpwfxFormat := some captureMono }
    { opens := fun _ ↦ true }

/-- Two frames, with one left to the end of the buffer. -/
theorem capture_reads_wrap : ∃ r, Reachable (functional CaptureRing.exec) CaptureRing.IsNew r ∧
    r.mWritePos = 6 ∧ ∃ pass, r.captureThread 2 = some pass ∧
      pass.calls = [⟨6, 1⟩, ⟨0, 1⟩] ∧ pass.ring.mWritePos.toNat = (6 + 2 * 2) % 8 := by
  have h0 : Reachable (functional CaptureRing.exec) CaptureRing.IsNew
      { buffer := { mIs8 := true } } := .init ⟨true, rfl⟩
  have h1 := h0.step_get initializeFour rfl
  have h2 := h1.step_get (.captureThread 3) (by decide +kernel)
  obtain ⟨-, -, -, hpass⟩ := capture_reads h2 (by decide +kernel)
  obtain ⟨pass, hpass, -, -, hlast⟩ := hpass 2
  refine ⟨_, h2, by decide +kernel, pass, hpass, ?_, hlast⟩
  have hcalls : (CaptureRing.captureThread _ 2).map CapturePass.calls = some pass.calls :=
    congrArg (Option.map CapturePass.calls) hpass
  refine Option.some.inj (hcalls.symm.trans ?_)
  decide +kernel

/-- **Which notifications a pass signals.**  In every reachable state of an initialized
buffer, the bytes a pass writes are those less than the size of its frames ahead of the old
write position.  It signals exactly the notifications on these bytes if and only if the frames
do not fill the buffer, or all notifications in question are in the last, partial lap.  It
never signals `DSCBPN_OFFSET_STOP`. -/
theorem capture_notifies (h : Reachable (functional CaptureRing.exec) CaptureRing.IsNew r)
    (hdev : r.buffer.mDevice.isSome) {avails : Int32}
    {pass : CapturePass} (hpass : r.captureThread avails = some pass) :
    (∀ n < r.buffer.size.toNat, (∃ c ∈ pass.calls, c.Writes r.buffer.frameSize n) ↔
      Ring.ahead r.buffer.size.toNat r.mWritePos.toNat n <
        avails.toInt.toNat * r.buffer.frameSize) ∧
    ((∀ notify ∈ r.mNotifies, notify.dwOffset.toNat < r.buffer.size.toNat →
        (notify ∈ pass.signalled ↔
          ∃ c ∈ pass.calls, c.Writes r.buffer.frameSize notify.dwOffset.toNat)) ↔
      avails.toInt.toNat * r.buffer.frameSize < r.buffer.size.toNat ∨
        ∀ notify ∈ r.mNotifies, notify.dwOffset.toNat < r.buffer.size.toNat →
          Ring.ahead r.buffer.size.toNat r.mWritePos.toNat notify.dwOffset.toNat <
            avails.toInt.toNat * r.buffer.frameSize % r.buffer.size.toNat) ∧
    ∀ notify ∈ pass.signalled, notify.dwOffset ≠ offsetStop := by
  have hok := ok_of_reachable h
  obtain ⟨hframed, hpos⟩ := hok.framed hdev
  obtain ⟨pass', hpass', hreads⟩ := hok.captureThread hdev avails
  obtain rfl : pass' = pass := Option.some.inj (hpass'.symm.trans hpass)
  have hwrites : ∀ n < r.buffer.size.toNat, _ ↔ _ := fun n hn ↦
    hreads.writes_iff hframed hpos hn
  refine ⟨hwrites, ?_, fun notify hs ↦ ?_⟩
  · have hone : ∀ notify ∈ r.mNotifies, notify.dwOffset.toNat < r.buffer.size.toNat →
        ((notify ∈ pass'.signalled ↔
          ∃ c ∈ pass'.calls, c.Writes r.buffer.frameSize notify.dwOffset.toNat) ↔
        avails.toInt.toNat * r.buffer.frameSize < r.buffer.size.toNat ∨
          Ring.ahead r.buffer.size.toNat r.mWritePos.toNat notify.dwOffset.toNat <
            avails.toInt.toNat * r.buffer.frameSize % r.buffer.size.toNat) := by
      intro notify hmem hn
      rw [hreads.signalled_iff hframed hpos hmem hn, hwrites _ hn]
      exact Ring.lt_mod_iff hframed.size_pos
    constructor
    · intro hall
      by_cases hlt : avails.toInt.toNat * r.buffer.frameSize < r.buffer.size.toNat
      · exact .inl hlt
      · exact .inr fun notify hmem hn ↦
          ((hone notify hmem hn).mp (hall notify hmem hn)).resolve_left hlt
    · rintro (hlt | hall) notify hmem hn
      · exact (hone notify hmem hn).mpr (.inl hlt)
      · exact (hone notify hmem hn).mpr (.inr (hall notify hmem hn))
  · rw [hreads.signalled, List.mem_filter,
      captureNotified_iff hframed.size_lt hpos.2 hreads.position.2] at hs
    rintro hstop
    rw [hstop] at hs
    exact absurd hs.2.1 (by decide)

/-- A pass of three frames signals the notification at their last byte. -/
theorem capture_notifies_three : ∃ r,
    Reachable (functional CaptureRing.exec) CaptureRing.IsNew r ∧
    r.mNotifies = [⟨5, 1⟩] ∧ ∃ pass, r.captureThread 3 = some pass ∧
      ∀ notify ∈ r.mNotifies, notify.dwOffset.toNat < r.buffer.size.toNat →
        (notify ∈ pass.signalled ↔
          ∃ c ∈ pass.calls, c.Writes r.buffer.frameSize notify.dwOffset.toNat) := by
  have h0 : Reachable (functional CaptureRing.exec) CaptureRing.IsNew
      { buffer := { mIs8 := true } } := .init ⟨true, rfl⟩
  have h1 := h0.step_get initializeFour rfl
  have h2 := h1.step_get (.setNotificationPositions (some [⟨5, 1⟩])) (by decide +kernel)
  obtain ⟨pass, hpass, -⟩ := (ok_of_reachable h2).captureThread (by decide +kernel) 3
  obtain ⟨-, hnotifies, -⟩ := capture_notifies h2 (by decide +kernel) hpass
  exact ⟨_, h2, by decide +kernel, pass, hpass, hnotifies.mpr (.inl (by decide +kernel))⟩

/-- A pass that fills the buffer signals nothing. -/
theorem capture_notifies_full : ∃ r,
    Reachable (functional CaptureRing.exec) CaptureRing.IsNew r ∧ r.buffer.mDevice.isSome ∧
    ∃ pass, r.captureThread 4 = some pass ∧ ∃ notify ∈ r.mNotifies,
      notify.dwOffset.toNat < r.buffer.size.toNat ∧
      (∃ c ∈ pass.calls, c.Writes r.buffer.frameSize notify.dwOffset.toNat) ∧
      notify ∉ pass.signalled := by
  have h0 : Reachable (functional CaptureRing.exec) CaptureRing.IsNew
      { buffer := { mIs8 := true } } := .init ⟨true, rfl⟩
  have h1 := h0.step_get initializeFour rfl
  have h2 := h1.step_get (.setNotificationPositions (some [⟨0, 1⟩])) (by decide +kernel)
  obtain ⟨pass, hpass, -⟩ := (ok_of_reachable h2).captureThread (by decide +kernel) 4
  have hcalls : pass.calls = [⟨0, 4⟩] := by
    have hmap := congrArg (Option.map CapturePass.calls) hpass
    refine Option.some.inj (hmap.symm.trans ?_)
    decide +kernel
  have hsignalled : pass.signalled = [] := by
    have hmap := congrArg (Option.map CapturePass.signalled) hpass
    refine Option.some.inj (hmap.symm.trans ?_)
    decide +kernel
  refine ⟨_, h2, by decide +kernel, pass, hpass, ⟨0, 1⟩, by decide +kernel, by decide +kernel, ?_, ?_⟩
  · rw [hcalls]
    exact ⟨⟨0, 4⟩, List.mem_singleton_self _, by decide, by decide +kernel⟩
  · rw [hsignalled]
    exact List.not_mem_nil

end Dsoal
