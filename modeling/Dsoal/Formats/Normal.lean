import Dsoal.Core.FormatBytes
import Dsoal.Formats.Sizes

/-!
# Formats that have been stored

Each of the three places that accept a wave format stores a normal form of it: a plain format
loses what follows its header, an extensible one gets a full extension and the number of valid
bits that was left out, and `SetFormat` computes the block alignment and the byte rate again.
A normal form is accepted at the same place and is its own normal form, so that the format an
application gets from `GetFormat` can be passed back.
-/

namespace Dsoal

/-! ## The conversions -/

theorem convertFormat_normal {src dst : WaveFormat} {t : SampleType} {c : ChannelConfig}
    (h : convertFormat src = some (dst, t, c)) : convertFormat dst = some (dst, t, c) := by
  obtain ⟨rfl, -, -⟩ := convertFormat_cases h
  exact h

theorem convertFormatExtensible_normal {src dst : WaveFormat} {t : SampleType}
    {c : ChannelConfig} (h : convertFormatExtensible src = some (dst, t, c)) :
    convertFormatExtensible dst = some (dst, t, c) := by
  obtain ⟨rfl, hc, ht⟩ := convertFormatExtensible_cases h
  simp only [convertFormatExtensible, ite_self, ne_eq, not_true_eq_false, if_false, hc, ht]

/-- What is stored of a format is in normal form, and `SharedBuffer::Create` finds the same
samples and channels for it. -/
theorem convertAny_normal {src dst : WaveFormat} {t : SampleType} {c : ChannelConfig}
    (h : convertAny src = some (dst, t, c)) :
    (∃ cbSize wValidBitsPerSample dwChannelMask subFormat, dst = { src with
      cbSize, wValidBitsPerSample, dwChannelMask, subFormat }) ∧
    dst.Stored ∧ convertAny dst = some (dst, t, c) := by
  unfold convertAny at h
  split_ifs at h with htag hsize
  · have hdst := (convertFormatExtensible_cases h).1
    have htag' : dst.wFormatTag = formatExtensible := by rw [hdst]; exact htag
    have hsize' : dst.cbSize = extExtraSize := by rw [hdst]
    refine ⟨⟨_, _, _, _, hdst⟩, .inl ⟨htag', hsize'⟩, ?_⟩
    rw [convertAny, if_pos htag', hsize', if_neg (by decide), convertFormatExtensible_normal h]
  · have hdst := (convertFormat_cases h).1
    have htag' : ¬ dst.wFormatTag = formatExtensible := by rw [hdst]; exact htag
    refine ⟨⟨_, _, _, _, hdst⟩, .inr ⟨htag', by rw [hdst]; exact ⟨rfl, rfl, rfl, rfl⟩⟩, ?_⟩
    rw [convertAny, if_neg htag', convertFormat_normal h]

/-! ## The three places -/

/-- Creating a shared buffer with the format that is stored in one makes the same one. -/
theorem SharedBuffer.createAL_normal {bufferDesc : BufferDesc} {format : WaveFormat}
    {exts : Extensions} {warn memory : Bool} {sb : SharedBuffer} {al : ALBuffer}
    (h : createAL bufferDesc format exts warn memory = .ok (sb, al)) :
    sb.mWfxFormat.Stored ∧
      createAL { bufferDesc with lpwfxFormat := some sb.mWfxFormat } sb.mWfxFormat exts warn
        memory = .ok (sb, al) := by
  obtain ⟨-, -, -, -, -, t, c, hc, -⟩ := createAL_cases h
  obtain ⟨⟨cbSize, validBits, mask, sub, hdst⟩, hstored, hagain⟩ := convertAny_normal hc
  have hchecks : sb.mWfxFormat.sharedBufferChecks warn = format.sharedBufferChecks warn := by
    rw [hdst]; rfl
  have halign : sb.mWfxFormat.nBlockAlign = format.nBlockAlign := by rw [hdst]
  refine ⟨hstored, ?_⟩
  rw [← h]
  simp only [createAL, hchecks, halign, hagain, hc]

namespace PrimaryBuffer

/-- The normal form `SetFormat` stores. -/
def normal (wfx : WaveFormat) : WaveFormat :=
  if wfx.wFormatTag = formatExtensible then
    { wfx with
      cbSize := extExtraSize
      wValidBitsPerSample :=
        if wfx.wValidBitsPerSample = 0 then wfx.wBitsPerSample else wfx.wValidBitsPerSample }
  else
    { wfx with cbSize := 0, wValidBitsPerSample := 0, dwChannelMask := 0, subFormat := .other }

/-- The block alignment and the byte rate that are computed again are the ones that have been
checked. -/
theorem copyFormat_eq_some_iff {wfx format : WaveFormat} :
    copyFormat wfx = some format ↔
      validFormat wfx = true ∧
      wfx.nAvgBytesPerSec = wfx.nBlockAlign.toUInt32 * wfx.nSamplesPerSec ∧
      validFormatTag wfx = true ∧ format = normal wfx := by
  by_cases hvalid : validFormat wfx = true
  · have halign : UInt16.ofNat (wfx.wBitsPerSample.toNat * wfx.nChannels.toNat / 8) =
        wfx.nBlockAlign := by
      have hframe := (WaveFormat.validFormat_iff.mp hvalid).2
      have hlt := wfx.nBlockAlign.toNat_lt
      rw [← UInt16.toNat_inj, UInt16.toNat_ofNat', Nat.mul_comm, ← hframe,
        Nat.mul_div_cancel _ (by decide), Nat.mod_eq_of_lt hlt]
    by_cases hrate : wfx.nAvgBytesPerSec = wfx.nBlockAlign.toUInt32 * wfx.nSamplesPerSec
    · have hrate' : wfx.nSamplesPerSec * wfx.nBlockAlign.toUInt32 = wfx.nAvgBytesPerSec := by
        rw [hrate, UInt32.mul_comm]
      by_cases htag : validFormatTag wfx = true
      · simp only [copyFormat, hvalid, ← hrate, htag, halign, hrate', normal]
        by_cases hext : wfx.wFormatTag = formatExtensible <;> simp [hext, eq_comm]
      · simp [copyFormat, hvalid, hrate, htag]
    · simp [copyFormat, hvalid, hrate]
  · simp [copyFormat, hvalid]

theorem normal_normal (wfx : WaveFormat) : normal (normal wfx) = normal wfx := by
  unfold normal
  split_ifs with hext hvalid <;> simp_all

/-- The header of a normal form is the header of the format. -/
theorem normal_header (wfx : WaveFormat) :
    ∃ cbSize wValidBitsPerSample dwChannelMask subFormat, normal wfx = { wfx with
      cbSize, wValidBitsPerSample, dwChannelMask, subFormat } := by
  by_cases hext : wfx.wFormatTag = formatExtensible
  · exact ⟨_, _, _, _, by rw [normal, if_pos hext]⟩
  · exact ⟨_, _, _, _, by rw [normal, if_neg hext]⟩

theorem stored_normal (wfx : WaveFormat) : (normal wfx).Stored := by
  by_cases hext : wfx.wFormatTag = formatExtensible
  · exact .inl (by rw [normal, if_pos hext]; exact ⟨hext, rfl⟩)
  · exact .inr (by rw [normal, if_neg hext]; exact ⟨hext, rfl, rfl, rfl, rfl⟩)

/-- The number of valid bits that is filled in passes the check on it. -/
theorem validFormatTag_normal {wfx : WaveFormat} (h : validFormatTag wfx = true) :
    validFormatTag (normal wfx) = true := by
  by_cases hext : wfx.wFormatTag = formatExtensible
  · have hpcm : formatExtensible ≠ formatPcm := by decide
    have hfloat : formatExtensible ≠ formatIeeeFloat := by decide
    simp only [validFormatTag, hext, hpcm, hfloat, if_false, if_true] at h
    simp only [normal, hext, if_true, validFormatTag, hpcm, hfloat, if_false]
    split_ifs at h with hbits
    by_cases hvalid : wfx.wValidBitsPerSample = 0
    · simpa [hvalid] using h
    · simpa [hvalid, hbits] using h
  · simpa [normal, hext, validFormatTag] using h

/-- `SetFormat` stores a format in normal form, and stores that unchanged. -/
theorem storedFormat_normal {wfx format : WaveFormat} (h : storedFormat wfx = some format) :
    format.Stored ∧ storedFormat format = some format := by
  unfold storedFormat at h
  split_ifs at h
  obtain ⟨hvalid, hrate, htag, rfl⟩ := copyFormat_eq_some_iff.mp h
  obtain ⟨cbSize, validBits, mask, sub, hheader⟩ := normal_header wfx
  have hstored := stored_normal wfx
  have hagain : copyFormat (normal wfx) = some (normal wfx) := by
    refine copyFormat_eq_some_iff.mpr ⟨?_, ?_, validFormatTag_normal htag, (normal_normal wfx).symm⟩
    · rw [hheader]; exact hvalid
    · rw [hheader]; exact hrate
  rw [storedFormat, if_neg hstored.not_short, hagain]
  exact ⟨hstored, rfl⟩

end PrimaryBuffer

namespace DSCBuffer

/-- A capture buffer stores a format in normal form and opens the same device for that. -/
theorem convertFormat_stored {format mWaveFmt : WaveFormat} {alformat : CaptureFormat}
    (h : convertFormat format = some (mWaveFmt, alformat)) :
    (∃ cbSize wValidBitsPerSample dwChannelMask subFormat, mWaveFmt = { format with
      cbSize, wValidBitsPerSample, dwChannelMask, subFormat }) ∧
    mWaveFmt.Stored ∧ convertFormat mWaveFmt = some (mWaveFmt, alformat) := by
  have hpcm : formatExtensible ≠ formatPcm := by decide
  unfold convertFormat at h
  split_ifs at h with htag hext hsub hvalid hmask
  · obtain ⟨alformat', hal, heq⟩ := Option.map_eq_some_iff.mp h
    cases heq
    refine ⟨⟨_, _, _, _, rfl⟩, .inr ⟨htag ▸ hpcm.symm, rfl, rfl, rfl, rfl⟩, ?_⟩
    simp [convertFormat, htag, hal]
  · obtain ⟨alformat', hal, heq⟩ := Option.map_eq_some_iff.mp h
    cases heq
    refine ⟨⟨_, _, _, _, rfl⟩, .inl ⟨hext, rfl⟩, ?_⟩
    simp only [convertFormat, hext, hpcm, if_false, if_true, hsub, hmask, hal]
    simp

/-- The checks on the extension of a format, those on the size of the buffer, and what is
asked of the system. -/
structure Opens (b : DSCBuffer) (name : String) (desc : DSCBufferDesc) (env : CaptureEnv)
    (format mWaveFmt : WaveFormat) (alformat : CaptureFormat) : Prop where
  not_initialized : ¬ b.mDevice.isSome = true
  dwFXCount : ¬ desc.dwFXCount > 0
  not_short : ¬ (format.wFormatTag = formatExtensible ∧ format.cbSize < extExtraSize)
  not_long : ¬ (format.wFormatTag = formatExtensible ∧ format.cbSize > extExtraSize ∧
    format.cbSize ≠ sizeofExtensible)
  valid : validFormat format = true
  converts : convertFormat format = some (mWaveFmt, alformat)
  dwBufferBytes : ¬ (desc.dwBufferBytes < mWaveFmt.nBlockAlign.toUInt32 ∨
    desc.dwBufferBytes > 0x7FFFFFFF ∨ desc.dwBufferBytes % mWaveFmt.nBlockAlign.toUInt32 ≠ 0)
  samples : env.samples = true
  opens : env.opens ⟨name, mWaveFmt.nSamplesPerSec, alformat,
    desc.dwBufferBytes / mWaveFmt.nBlockAlign.toUInt32⟩ = true

/-- **When `Initialize` succeeds**, and what it leaves. -/
theorem initializeBuffer_eq_ok_iff {b b' : DSCBuffer} {name : String} {desc : DSCBufferDesc}
    {env : CaptureEnv} :
    b.initializeBuffer name desc env = (.ok, b') ↔ ∃ format mWaveFmt alformat,
      desc.lpwfxFormat = some format ∧ b.Opens name desc env format mWaveFmt alformat ∧
      b' = { b with
        mWaveFmt := mWaveFmt
        size := desc.dwBufferBytes
        mDevice := some ⟨name, mWaveFmt.nSamplesPerSec, alformat,
          desc.dwBufferBytes / mWaveFmt.nBlockAlign.toUInt32⟩ } := by
  constructor
  · intro h
    unfold initializeBuffer at h
    split at h
    · cases h
    rename_i hdev
    split at h
    · cases h
    rename_i hfx
    cases hformat : desc.lpwfxFormat with
    | none => simp [hformat] at h
    | some format =>
      simp only [hformat] at h
      split at h
      · cases h
      rename_i hshort
      split at h
      · cases h
      rename_i hlong
      split at h
      · cases h
      rename_i hvalid
      cases hconv : convertFormat format with
      | none => simp [hconv] at h
      | some r =>
        obtain ⟨mWaveFmt, alformat⟩ := r
        simp only [hconv] at h
        split_ifs at h with hbytes hsamples hopens
        all_goals cases h
        exact ⟨format, mWaveFmt, alformat, rfl, ⟨hdev, hfx, hshort, hlong, by simpa using hvalid,
          hconv, hbytes, by simpa using hsamples, hopens⟩, rfl⟩
  · rintro ⟨format, mWaveFmt, alformat, hformat, ho, rfl⟩
    simp only [initializeBuffer, hformat, if_neg ho.not_initialized, if_neg ho.dwFXCount,
      if_neg ho.not_short, if_neg ho.not_long, ho.valid, ho.converts, if_neg ho.dwBufferBytes,
      ho.samples, ho.opens, Bool.not_true, Bool.false_eq_true, if_false, if_true]

/-- A capture buffer that is initialized with the format of one is the same one. -/
theorem initializeBuffer_normal {b b' : DSCBuffer} {name : String} {desc : DSCBufferDesc}
    {env : CaptureEnv} (h : b.initializeBuffer name desc env = (.ok, b')) :
    b'.mWaveFmt.Stored ∧
      b.initializeBuffer name { desc with lpwfxFormat := some b'.mWaveFmt } env = (.ok, b') := by
  obtain ⟨format, mWaveFmt, alformat, -, ho, rfl⟩ := initializeBuffer_eq_ok_iff.mp h
  obtain ⟨⟨cbSize, validBits, mask, sub, hheader⟩, hstored, hagain⟩ :=
    convertFormat_stored ho.converts
  refine ⟨hstored, initializeBuffer_eq_ok_iff.mpr ⟨mWaveFmt, mWaveFmt, alformat, rfl, ?_, rfl⟩⟩
  exact {
    not_initialized := ho.not_initialized
    dwFXCount := ho.dwFXCount
    not_short := hstored.not_short
    not_long := fun h ↦ hstored.not_long ⟨h.1, h.2.1⟩
    valid := by rw [hheader]; exact ho.valid
    converts := hagain
    dwBufferBytes := ho.dwBufferBytes
    samples := ho.samples
    opens := ho.opens }

end DSCBuffer

/-- **Normalisation is idempotent.**  The bytes that `GetFormat` reports of an accepted format
are accepted at the same place.  They make the same OpenAL format, and `GetFormat` answers as
before whatever it is asked. -/
theorem normalisation_idempotent :
    (∀ bufferDesc format exts warn memory sb al,
      SharedBuffer.createAL bufferDesc format exts warn memory = .ok (sb, al) →
        ∃ bytes, sb.mWfxFormat.getFormat true sb.mWfxFormat.size true =
            (.ok, some bytes, some sb.mWfxFormat.size) ∧
          ∃ sb', SharedBuffer.createAL
              { bufferDesc with lpwfxFormat := some (WaveFormat.ofBytes bytes) }
              (WaveFormat.ofBytes bytes) exts warn memory = .ok (sb', al) ∧
            sb'.mWfxFormat.getFormat = sb.mWfxFormat.getFormat) ∧
    (∀ wfx format, PrimaryBuffer.storedFormat wfx = some format →
        ∃ bytes, format.getFormat true format.size true =
            (.ok, some bytes, some format.size) ∧
          ∃ format', PrimaryBuffer.storedFormat (WaveFormat.ofBytes bytes) = some format' ∧
            (∀ exts, format'.alFormat exts = format.alFormat exts) ∧
            format'.getFormat = format.getFormat) ∧
    (∀ (b b' : DSCBuffer) name desc env, b.initializeBuffer name desc env = (.ok, b') →
        ∃ bytes, b'.mWaveFmt.getCaptureFormat true b'.mWaveFmt.size true =
            (.ok, some bytes, some b'.mWaveFmt.size) ∧
          ∃ b'', b.initializeBuffer name
              { desc with lpwfxFormat := some (WaveFormat.ofBytes bytes) } env = (.ok, b'') ∧
            b''.mDevice = b'.mDevice ∧
            b''.mWaveFmt.getCaptureFormat = b'.mWaveFmt.getCaptureFormat) := by
  refine ⟨fun bufferDesc format exts warn memory sb al h ↦ ?_, fun wfx format h ↦ ?_,
    fun b b' name desc env h ↦ ?_⟩
  · obtain ⟨hstored, hagain⟩ := SharedBuffer.createAL_normal h
    refine ⟨_, WaveFormat.getFormat_reported true, sb, ?_, rfl⟩
    rw [WaveFormat.ofBytes_reported hstored]
    exact hagain
  · obtain ⟨hstored, hagain⟩ := PrimaryBuffer.storedFormat_normal h
    refine ⟨_, WaveFormat.getFormat_reported true, format, ?_, fun exts ↦ rfl, rfl⟩
    rw [WaveFormat.ofBytes_reported hstored]
    exact hagain
  · obtain ⟨hstored, hagain⟩ := DSCBuffer.initializeBuffer_normal h
    refine ⟨_, WaveFormat.getCaptureFormat_reported true, b', ?_, rfl, rfl⟩
    rw [WaveFormat.ofBytes_reported hstored]
    exact hagain

end Dsoal
