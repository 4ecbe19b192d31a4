import Dsoal.Core.FormatChecks

/-!
# The arithmetic of the format checks

The products in the checks on a wave format are exact as long as they fit.  The capture buffer
restricts the number of channels first, and there they always do.  The other two validators
multiply whatever 16-bit numbers pass the checks on single fields.  A frame of `2 ^ 31` bits
or more is rejected all the same, by the comparison with the block alignment.  A byte rate
that wraps around is not: it is compared with a field that can hold the wrapped value.
-/

namespace Dsoal

open WaveFormat

/-! ## Machine products -/

theorem toInt_promote (x : UInt16) : (promote x).toInt = x.toNat := by
  have := x.toNat_lt
  exact Int32.toInt_ofNat_of_lt (by omega)

theorem toNat_mul_lt (x y : UInt16) : x.toNat * y.toNat < 2 ^ 32 :=
  (Nat.mul_lt_mul'' x.toNat_lt y.toNat_lt : _ < 2 ^ 16 * 2 ^ 16)

/-- Whole bytes in a sample are whole bytes in a frame. -/
theorem dvd_frameBits {y : UInt16} (h8 : y % 8 = 0) (x : UInt16) : 8 ∣ x.toNat * y.toNat :=
  Dvd.dvd.mul_left (Nat.dvd_of_mod_eq_zero (by simpa using congrArg UInt16.toNat h8)) _

/-- A signed product of promoted numbers is the exact one or, from `2 ^ 31` on, negative. -/
theorem toInt_promote_mul (x y : UInt16) :
    (promote x * promote y).toInt =
      if x.toNat * y.toNat < 2 ^ 31 then ((x.toNat * y.toNat : ℕ) : ℤ)
      else ((x.toNat * y.toNat : ℕ) : ℤ) - 2 ^ 32 := by
  have hlt := toNat_mul_lt x y
  rw [Int32.toInt_mul, toInt_promote, toInt_promote, ← Int.natCast_mul, Int.bmod_def]
  split_ifs <;> omega

/-- The comparison with the block alignment is the comparison of the exact numbers, whether
the product fits or not: the block alignment is not negative. -/
theorem promote_eq_div_iff {a x y : UInt16} (h8 : y % 8 = 0) :
    promote a = promote x * promote y / 8 ↔ a.toNat * 8 = x.toNat * y.toNat := by
  have hdvd := dvd_frameBits h8 x
  have hlt := toNat_mul_lt x y
  have ha := a.toNat_lt
  have h8' : (8 : Int32).toInt = 8 := rfl
  rw [← Int32.toInt_inj, toInt_promote, Int32.toInt_div_of_ne_right _ _ (by decide),
    toInt_promote_mul, h8']
  generalize x.toNat * y.toNat = p at *
  split_ifs with hp
  · rw [Int.tdiv_eq_ediv_of_nonneg (by omega)]
    omega
  · have hneg : ((p : ℤ) - 2 ^ 32).tdiv 8 = -((2 ^ 32 - (p : ℤ)) / 8) := by
      rw [← Int.neg_sub, Int.neg_tdiv, Int.tdiv_eq_ediv_of_nonneg (by omega)]
    omega

/-- The unsigned product of a block alignment and a rate is exact if it fits. -/
theorem toNat_mul_of_lt {a : UInt16} {r : UInt32} (h : a.toNat * r.toNat < 2 ^ 32) :
    (a.toUInt32 * r).toNat = a.toNat * r.toNat := by
  rw [UInt32.toNat_mul, UInt16.toNat_toUInt32, Nat.mod_eq_of_lt h]

/-! ## The checks before the products -/

namespace WaveFormat

variable {format : WaveFormat} {warn : Bool}

/-- The format passes the checks on single fields that `SharedBuffer::Create` and `SetFormat`
begin with. -/
structure FieldsPass (format : WaveFormat) : Prop where
  nChannels : format.nChannels ≠ 0
  frequencyMin_le : frequencyMin ≤ format.nSamplesPerSec
  le_frequencyMax : format.nSamplesPerSec ≤ frequencyMax
  nBlockAlign : format.nBlockAlign ≠ 0
  wBitsPerSample : format.wBitsPerSample ≠ 0
  dvd : format.wBitsPerSample % 8 = 0

theorem FieldsPass.blockAlign_pos (h : format.FieldsPass) : 0 < format.nBlockAlign.toNat :=
  Nat.pos_of_ne_zero fun h0 ↦ h.nBlockAlign (UInt16.toNat_inj.mp h0)

/-- The block alignment is the size of a frame. -/
def FrameExact (format : WaveFormat) : Prop :=
  format.nBlockAlign.toNat * 8 = format.nChannels.toNat * format.wBitsPerSample.toNat

/-- The byte rate is the sampling rate times the block alignment. -/
def RateExact (format : WaveFormat) : Prop :=
  format.nAvgBytesPerSec.toNat = format.nSamplesPerSec.toNat * format.nBlockAlign.toNat

instance : Decidable format.FrameExact := inferInstanceAs (Decidable (_ = _))

instance : Decidable format.RateExact := inferInstanceAs (Decidable (_ = _))

/-- No product the checks evaluate overflows, and what they accept has exact frames. -/
structure Exact (format : WaveFormat) (checks : List FieldCheck) : Prop where
  fits : Check.EvaluatesOnly Product.Fits checks
  frame : Check.run checks = .ok () → format.FrameExact

theorem checkSamplesPerSec_passes_iff :
    format.checkSamplesPerSec.passes = true ↔
      frequencyMin ≤ format.nSamplesPerSec ∧ format.nSamplesPerSec ≤ frequencyMax := by
  simp [checkSamplesPerSec, UInt32.not_lt]

theorem checkBits_passes_iff :
    format.checkBits.passes = true ↔ format.wBitsPerSample ≠ 0 ∧ format.wBitsPerSample % 8 = 0 := by
  simp [checkBits]

theorem checkFrame_passes_iff (h8 : format.wBitsPerSample % 8 = 0) :
    format.checkFrame.passes = true ↔ format.FrameExact := by
  simpa [checkFrame, FrameExact] using promote_eq_div_iff h8

/-- A byte rate that fits is compared exactly. -/
theorem rateExact_of_passes (hfits : format.byteRate.Fits)
    (h : format.checkByteRate.passes = true) : format.RateExact := by
  have heq : format.nAvgBytesPerSec = format.nBlockAlign.toUInt32 * format.nSamplesPerSec := by
    simpa [checkByteRate] using h
  rw [RateExact, heq, toNat_mul_of_lt hfits, Nat.mul_comm]

/-- The checks that `SharedBuffer::Create` and `SetFormat` begin with. -/
def frameChecks (format : WaveFormat) : List FieldCheck :=
  [format.checkChannels, format.checkSamplesPerSec, format.checkBlockAlign, format.checkBits,
    format.checkFrame]

theorem fieldsPass_iff :
    format.FieldsPass ↔ format.checkChannels.passes = true ∧
      format.checkSamplesPerSec.passes = true ∧ format.checkBlockAlign.passes = true ∧
      format.checkBits.passes = true := by
  rw [checkSamplesPerSec_passes_iff, checkBits_passes_iff]
  constructor
  · rintro ⟨hc, hmin, hmax, ha, hb, h8⟩
    exact ⟨by simpa [checkChannels] using hc, ⟨hmin, hmax⟩, by simpa [checkBlockAlign] using ha,
      hb, h8⟩
  · rintro ⟨hc, ⟨hmin, hmax⟩, ha, hb, h8⟩
    exact ⟨by simpa [checkChannels] using hc, hmin, hmax, by simpa [checkBlockAlign] using ha,
      hb, h8⟩

/-- What is evaluated by a validator that begins with `frameChecks`. -/
theorem evaluatesOnly_frameChecks_iff {cs : List FieldCheck} :
    Check.EvaluatesOnly Product.Fits (format.frameChecks ++ cs) ↔
      (format.FieldsPass → format.frameBits.Fits ∧
        (format.FrameExact → Check.EvaluatesOnly Product.Fits cs)) := by
  rw [frameChecks, List.cons_append, Check.evaluatesOnly_cons_of_nil rfl rfl, List.cons_append,
    Check.evaluatesOnly_cons_of_nil rfl rfl, List.cons_append,
    Check.evaluatesOnly_cons_of_nil rfl rfl, List.cons_append,
    Check.evaluatesOnly_cons_of_nil rfl rfl, List.cons_append,
    Check.evaluatesOnly_cons_of_singleton rfl rfl, List.nil_append, fieldsPass_iff]
  constructor
  · rintro h ⟨hc, hs, ha, hb⟩
    obtain ⟨hfits, hcs⟩ := h hc hs ha hb
    exact ⟨hfits, fun he ↦ hcs ((checkFrame_passes_iff (checkBits_passes_iff.mp hb).2).mpr he)⟩
  · intro h hc hs ha hb
    obtain ⟨hfits, hcs⟩ := h ⟨hc, hs, ha, hb⟩
    exact ⟨hfits, fun hf ↦ hcs ((checkFrame_passes_iff (checkBits_passes_iff.mp hb).2).mp hf)⟩

/-- What is accepted by a validator that begins with `frameChecks`. -/
theorem run_frameChecks_iff {cs : List FieldCheck} :
    Check.run (format.frameChecks ++ cs) = .ok () ↔
      format.FieldsPass ∧ format.FrameExact ∧ Check.run cs = .ok () := by
  simp only [frameChecks, List.cons_append, List.nil_append, Check.run_cons_eq_ok,
    fieldsPass_iff]
  constructor
  · rintro ⟨hc, hs, ha, hb, hf, hcs⟩
    exact ⟨⟨hc, hs, ha, hb⟩, (checkFrame_passes_iff (checkBits_passes_iff.mp hb).2).mp hf, hcs⟩
  · rintro ⟨⟨hc, hs, ha, hb⟩, hf, hcs⟩
    exact ⟨hc, hs, ha, hb, (checkFrame_passes_iff (checkBits_passes_iff.mp hb).2).mpr hf, hcs⟩

/-! ## The three validators -/

theorem sharedBufferChecks_exact_iff :
    format.Exact (format.sharedBufferChecks warn) ↔
      (format.FieldsPass → format.frameBits.Fits ∧
        (format.FrameExact → format.nAvgBytesPerSec ≠ 0 ∨ warn = true → format.byteRate.Fits)) := by
  have hlist : format.sharedBufferChecks warn =
    format.frameChecks ++ [format.checkNonzeroByteRate warn, format.warnByteRate] := rfl
  have hrest : Check.EvaluatesOnly Product.Fits
      [format.checkNonzeroByteRate warn, format.warnByteRate] ↔
        (format.nAvgBytesPerSec ≠ 0 ∨ warn = true → format.byteRate.Fits) := by
    cases warn <;> simp [checkNonzeroByteRate, warnByteRate]
    tauto
  constructor
  · rintro ⟨hfits, -⟩
    rw [hlist, evaluatesOnly_frameChecks_iff, hrest] at hfits
    exact hfits
  · intro h
    refine ⟨?_, fun hrun ↦ (run_frameChecks_iff.mp (hlist ▸ hrun)).2.1⟩
    rw [hlist, evaluatesOnly_frameChecks_iff, hrest]
    exact h

theorem setFormatChecks_exact_iff :
    format.Exact format.setFormatChecks ∧
        (Check.run format.setFormatChecks = .ok () → format.RateExact) ↔
      (format.FieldsPass → format.frameBits.Fits ∧
        (format.FrameExact → format.byteRate.Fits)) := by
  have hlist : format.setFormatChecks = format.frameChecks ++
    [format.checkByteRate, format.checkFormatTag, format.storeProducts] := rfl
  have hrest (hframe : format.frameBits.Fits) : Check.EvaluatesOnly Product.Fits
      [format.checkByteRate, format.checkFormatTag, format.storeProducts] ↔
        format.byteRate.Fits := by
    rw [Check.evaluatesOnly_cons_of_singleton rfl rfl, Check.evaluatesOnly_cons_of_nil rfl rfl]
    simp only [and_iff_left_iff_imp]
    intro hrate _ _
    simp [storeProducts, hframe, hrate]
  constructor
  · rintro ⟨⟨hfits, -⟩, -⟩ hfields
    rw [hlist, evaluatesOnly_frameChecks_iff] at hfits
    obtain ⟨hframe, hcs⟩ := hfits hfields
    exact ⟨hframe, fun he ↦ (hrest hframe).mp (hcs he)⟩
  · intro h
    have hrun : Check.run format.setFormatChecks = .ok () →
        format.FieldsPass ∧ format.FrameExact ∧ format.checkByteRate.passes = true := by
      rw [hlist, run_frameChecks_iff, Check.run_cons_eq_ok]
      tauto
    refine ⟨⟨?_, fun hr ↦ (hrun hr).2.1⟩, fun hr ↦ ?_⟩
    · rw [hlist, evaluatesOnly_frameChecks_iff]
      exact fun hfields ↦ ⟨(h hfields).1, fun he ↦ (hrest (h hfields).1).mpr ((h hfields).2 he)⟩
    · obtain ⟨hfields, hframe, hrate⟩ := hrun hr
      exact rateExact_of_passes ((h hfields).2 hframe) hrate

/-- With at most two channels no product overflows. -/
theorem frameBits_fits_of_le (h : format.nChannels.toNat ≤ 2) : format.frameBits.Fits :=
  Product.Fits.mono h (Nat.le_of_lt_succ format.wBitsPerSample.toNat_lt)
    (by decide : 2 * 65535 < IntType.int.bound)

theorem byteRate_fits_of_le (h : format.nChannels.toNat ≤ 2) (hframe : format.FrameExact)
    (hrate : format.nSamplesPerSec ≤ frequencyMax) : format.byteRate.Fits := by
  have hbits := format.wBitsPerSample.toNat_lt
  have halign : format.nBlockAlign.toNat ≤ 16383 := by
    have := Nat.mul_le_mul h (Nat.le_of_lt_succ hbits)
    unfold FrameExact at hframe
    omega
  exact Product.Fits.mono halign (UInt32.le_iff_toNat_le.mp hrate)
    (by decide : 16383 * frequencyMax.toNat < IntType.dword.bound)

/-- The capture buffer restricts the number of channels before it multiplies. -/
theorem captureChecks_exact :
    format.Exact format.captureChecks ∧
      (Check.run format.captureChecks = .ok () → format.RateExact) := by
  have hchannels (h : format.checkCaptureChannels.passes = true) :
      format.nChannels.toNat ≤ 2 := by
    simp only [checkCaptureChannels, Bool.not_eq_true', decide_eq_false_iff_not, not_or] at h
    exact UInt16.not_lt.mp h.2
  have hframe (h : format.checkBits.passes = true) (hf : format.checkFrame.passes = true) :
      format.FrameExact := (checkFrame_passes_iff (checkBits_passes_iff.mp h).2).mp hf
  refine ⟨⟨?_, fun hrun ↦ ?_⟩, fun hrun ↦ ?_⟩
  · rw [captureChecks, Check.evaluatesOnly_cons_of_nil rfl rfl,
      Check.evaluatesOnly_cons_of_nil rfl rfl, Check.evaluatesOnly_cons_of_singleton rfl rfl,
      Check.evaluatesOnly_cons_of_nil rfl rfl, Check.evaluatesOnly_cons_of_singleton rfl rfl]
    refine fun hc hb ↦ ⟨frameBits_fits_of_le (hchannels hc), fun hf hs ↦ ⟨?_, fun _ ↦
      Check.evaluatesOnly_nil⟩⟩
    exact byteRate_fits_of_le (hchannels hc) (hframe hb hf) (checkSamplesPerSec_passes_iff.mp hs).2
  · simp only [captureChecks, Check.run_cons_eq_ok] at hrun
    obtain ⟨-, hb, hf, -⟩ := hrun
    exact hframe hb hf
  · simp only [captureChecks, Check.run_cons_eq_ok] at hrun
    obtain ⟨hc, hb, hf, hs, hr, -⟩ := hrun
    exact rateExact_of_passes (byteRate_fits_of_le (hchannels hc) (hframe hb hf)
      (checkSamplesPerSec_passes_iff.mp hs).2) hr

/-- **When the format checks are exact.**  The products of `SharedBuffer::Create` and of
`SetFormat` fit, and what is accepted has an exact block alignment and byte rate, if and only
if one of the first checks rejects the format or the numbers are small; the order of the checks
makes the second product count only when the block alignment is right.  In `DSCBuffer` they
always fit. -/
theorem formatChecks_exact_iff (format : WaveFormat) (warn : Bool) :
    (format.Exact (format.sharedBufferChecks warn) ↔
      (format.FieldsPass → format.nChannels.toNat * format.wBitsPerSample.toNat < 2 ^ 31 ∧
        (format.FrameExact → format.nAvgBytesPerSec ≠ 0 ∨ warn = true →
          format.nBlockAlign.toNat * format.nSamplesPerSec.toNat < 2 ^ 32))) ∧
    (format.Exact format.setFormatChecks ∧
        (Check.run format.setFormatChecks = .ok () → format.RateExact) ↔
      (format.FieldsPass → format.nChannels.toNat * format.wBitsPerSample.toNat < 2 ^ 31 ∧
        (format.FrameExact →
          format.nBlockAlign.toNat * format.nSamplesPerSec.toNat < 2 ^ 32))) ∧
    (format.Exact format.captureChecks ∧
      (Check.run format.captureChecks = .ok () → format.RateExact)) :=
  ⟨sharedBufferChecks_exact_iff, setFormatChecks_exact_iff, captureChecks_exact⟩

/-- 32767 channels of 16 bits at 200 kHz, with the byte rate modulo `2 ^ 32`. -/
def wrappedFormat : WaveFormat where
  wFormatTag := formatPcm
  nChannels := 32767
  nSamplesPerSec := 200000
  nAvgBytesPerSec := 221898112
  nBlockAlign := 65534
  wBitsPerSample := 16

/-- `SetFormat` accepts a byte rate that has wrapped around. -/
theorem setFormatChecks_wrapped :
    ¬ ((wrappedFormat.Exact (wrappedFormat.sharedBufferChecks true)) ∧
      (wrappedFormat.Exact wrappedFormat.setFormatChecks ∧
        (Check.run wrappedFormat.setFormatChecks = .ok () → wrappedFormat.RateExact)) ∧
      (wrappedFormat.Exact wrappedFormat.captureChecks ∧
        (Check.run wrappedFormat.captureChecks = .ok () → wrappedFormat.RateExact))) := by
  rintro ⟨-, ⟨-, hrate⟩, -⟩
  have haccepted : Check.run wrappedFormat.setFormatChecks = .ok () := by decide
  exact absurd (hrate haccepted) (by decide)

/-! ## The exact checks -/

theorem validFormat_iff : validFormat format = true ↔ format.FieldsPass ∧ format.FrameExact := by
  simp only [validFormat, decide_eq_true_eq, FrameExact]
  constructor
  · rintro ⟨hc, hmin, hmax, ha, hb, hmod, heq⟩
    have := dvd_frameBits hmod format.nChannels
    exact ⟨⟨hc, hmin, hmax, ha, hb, hmod⟩, by omega⟩
  · rintro ⟨⟨hc, hmin, hmax, ha, hb, hmod⟩, heq⟩
    exact ⟨hc, hmin, hmax, ha, hb, hmod, by omega⟩

/-- The checks of `SharedBuffer::Create` in the arithmetic of the code are the exact ones. -/
theorem run_sharedBufferChecks_iff :
    Check.run (format.sharedBufferChecks warn) = .ok () ↔
      validFormat format = true ∧ format.nAvgBytesPerSec ≠ 0 := by
  have hlist : format.sharedBufferChecks warn =
    format.frameChecks ++ [format.checkNonzeroByteRate warn, format.warnByteRate] := rfl
  rw [hlist, run_frameChecks_iff, validFormat_iff, and_assoc]
  simp [checkNonzeroByteRate, warnByteRate]

/-- `copy_format` accepts what passes the checks in the arithmetic of the code. -/
theorem run_setFormatChecks_iff :
    Check.run format.setFormatChecks = .ok () ↔ (PrimaryBuffer.copyFormat format).isSome = true := by
  have hlist : format.setFormatChecks = format.frameChecks ++
    [format.checkByteRate, format.checkFormatTag, format.storeProducts] := rfl
  rw [hlist, run_frameChecks_iff, ← and_assoc, ← validFormat_iff]
  simp only [PrimaryBuffer.copyFormat, Check.run_cons_eq_ok, checkByteRate, checkFormatTag,
    storeProducts, Check.run_nil, decide_eq_true_eq, and_true]
  split_ifs <;> simp_all

/-- The checks of the capture buffer in the arithmetic of the code are the exact ones. -/
theorem run_captureChecks_iff :
    Check.run format.captureChecks = .ok () ↔ DSCBuffer.validFormat format = true := by
  have hframe (h : format.wBitsPerSample % 8 = 0) : format.FrameExact ↔
      format.nBlockAlign.toNat = format.nChannels.toNat * format.wBitsPerSample.toNat / 8 := by
    have := dvd_frameBits h format.nChannels
    unfold FrameExact
    omega
  have hcomm : format.nBlockAlign.toUInt32 * format.nSamplesPerSec =
    format.nSamplesPerSec * format.nBlockAlign.toUInt32 := UInt32.mul_comm _ _
  simp only [captureChecks, Check.run_cons_eq_ok, Check.run_nil, and_true, DSCBuffer.validFormat,
    decide_eq_true_eq]
  constructor
  · rintro ⟨hc, hb, hf, hs, hr⟩
    have h8 := (checkBits_passes_iff.mp hb).2
    refine ⟨hc, hb, (hframe h8).mp ((checkFrame_passes_iff h8).mp hf), hs, ?_⟩
    simpa [checkByteRate, hcomm] using hr
  · rintro ⟨hc, hb, hf, hs, hr⟩
    have h8 := (checkBits_passes_iff.mp hb).2
    refine ⟨hc, hb, (checkFrame_passes_iff h8).mpr ((hframe h8).mpr hf), hs, ?_⟩
    simpa [checkByteRate, hcomm] using hr

end WaveFormat

end Dsoal
