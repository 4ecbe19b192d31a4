import Dsoal.Formats.Normal
import Dsoal.Object.WriteEmu

/-!
# Primary formats and the write-emulation buffer

`SetFormat` accepts every PCM format of up to 32 bits and every 32-bit float format, with any
number of channels.  The write-emulation buffer is a secondary buffer with the stored format,
and `ConvertFormat` supports fewer: 8-bit and 16-bit PCM and 32-bit float, mono and stereo, and
the speaker layouts of an extensible format it has a name for.  For the others
`createWriteEmu` fails.
-/

namespace Dsoal

namespace WaveFormat

/-! ## The formats that can be played -/

/-- The channel masks with the number of channels `ConvertFormat` expects of each; without a
mask it goes by the number alone. -/
def speakerLayouts : List (UInt32 × UInt16) :=
  [(0x4, 1), (0x3, 2), (0x30, 2), (0x33, 4), (0x3F, 6), (0x60F, 6), (0x63F, 8),
    (0, 1), (0, 2), (0, 4), (0, 6), (0, 8)]

/-- The samples are integers. -/
def IsPcm (format : WaveFormat) : Prop :=
  format.wFormatTag = formatPcm ∨ format.wFormatTag = formatExtensible ∧ format.subFormat = .pcm

/-- The samples are floats. -/
def IsFloat (format : WaveFormat) : Prop :=
  format.wFormatTag = formatIeeeFloat ∨
    format.wFormatTag = formatExtensible ∧ format.subFormat = .ieeeFloat

/-- OpenAL has a format for the samples and the channels. -/
structure Playable (format : WaveFormat) : Prop where
  samples : format.IsPcm ∧ (format.wBitsPerSample = 8 ∨ format.wBitsPerSample = 16) ∨
    format.IsFloat ∧ format.wBitsPerSample = 32
  /-- The samples of an extensible format are not padded. -/
  unpadded : format.wFormatTag = formatExtensible →
    format.wValidBitsPerSample = 0 ∨ format.wValidBitsPerSample = format.wBitsPerSample
  layout : if format.wFormatTag = formatExtensible
    then (format.dwChannelMask, format.nChannels) ∈ speakerLayouts
    else format.nChannels = 1 ∨ format.nChannels = 2

variable {format : WaveFormat}

theorem isSome_sampleType_iff {tag bits : UInt16} :
    (sampleType tag bits).isSome = true ↔
      tag = formatPcm ∧ (bits = 8 ∨ bits = 16) ∨ tag = formatIeeeFloat ∧ bits = 32 := by
  unfold sampleType
  by_cases hpcm : tag = formatPcm
  · have hfloat : formatPcm ≠ formatIeeeFloat := by decide
    rw [if_pos hpcm]
    by_cases h8 : bits = 8
    · simp [hpcm, h8]
    · by_cases h16 : bits = 16 <;> simp [hpcm, h8, h16, hfloat]
  · rw [if_neg hpcm]
    by_cases hfloat : tag = formatIeeeFloat
    · have hpcm : formatIeeeFloat ≠ formatPcm := by decide
      by_cases h32 : bits = 32 <;> simp [hfloat, h32, hpcm]
    · simp [hpcm, hfloat]

/-- One comparison in `channelConfig`. -/
theorem of_isSome_ite {α : Type} {p : Prop} [Decidable p] {a b : Option α} {P : Prop}
    (ha : p → a.isSome = true → P) (hb : b.isSome = true → P)
    (h : (if p then a else b).isSome = true) : P := by
  split_ifs at h with hp
  exacts [ha hp h, hb h]

theorem isSome_channelConfig_iff {mask : UInt32} {nChannels : UInt16} :
    (channelConfig mask nChannels).isSome = true ↔ (mask, nChannels) ∈ speakerLayouts := by
  constructor
  · have hnone : (none : Option ChannelConfig).isSome = true →
        (mask, nChannels) ∈ speakerLayouts := by rintro ⟨⟩
    have hone {k : UInt32} {n : UInt16} {c : ChannelConfig} (hmem : (k, n) ∈ speakerLayouts)
        (hmask : mask = k) (h : (if nChannels = n then some c else none).isSome = true) :
        (mask, nChannels) ∈ speakerLayouts :=
      of_isSome_ite (fun (hn : nChannels = n) _ ↦ hmask ▸ hn ▸ hmem) hnone h
    unfold channelConfig
    refine of_isSome_ite (hone (by decide)) ?_
    refine of_isSome_ite (hone (by decide)) ?_
    refine of_isSome_ite (hone (by decide)) ?_
    refine of_isSome_ite (hone (by decide)) ?_
    refine of_isSome_ite (fun hmask ↦ ?_) ?_
    · exact hmask.elim (hone (by decide)) (hone (by decide))
    refine of_isSome_ite (hone (by decide)) ?_
    refine of_isSome_ite (fun hmask ↦ ?_) hnone
    have hnumber {n : UInt16} (hmem : (0, n) ∈ speakerLayouts) (hn : nChannels = n) :
        (mask, nChannels) ∈ speakerLayouts := hmask ▸ hn ▸ hmem
    refine of_isSome_ite (fun hn _ ↦ hnumber (by decide) hn) ?_
    refine of_isSome_ite (fun hn _ ↦ hnumber (by decide) hn) ?_
    refine of_isSome_ite (fun hn _ ↦ hnumber (by decide) hn) ?_
    refine of_isSome_ite (fun hn _ ↦ hnumber (by decide) hn) ?_
    exact of_isSome_ite (fun hn _ ↦ hnumber (by decide) hn) hnone
  · intro h
    simp only [speakerLayouts, List.mem_cons, Prod.mk.injEq, List.not_mem_nil, or_false] at h
    rcases h with ⟨rfl, rfl⟩ | ⟨rfl, rfl⟩ | ⟨rfl, rfl⟩ | ⟨rfl, rfl⟩ | ⟨rfl, rfl⟩ | ⟨rfl, rfl⟩ |
      ⟨rfl, rfl⟩ | ⟨rfl, rfl⟩ | ⟨rfl, rfl⟩ | ⟨rfl, rfl⟩ | ⟨rfl, rfl⟩ | ⟨rfl, rfl⟩ <;> rfl

theorem isSome_convertFormat_iff :
    (convertFormat format).isSome = true ↔
      (sampleType format.wFormatTag format.wBitsPerSample).isSome = true ∧
        (format.nChannels = 1 ∨ format.nChannels = 2) := by
  simp only [convertFormat]
  cases sampleType format.wFormatTag format.wBitsPerSample with
  | none => simp
  | some t =>
    by_cases h1 : format.nChannels = 1
    · simp [h1]
    · by_cases h2 : format.nChannels = 2 <;> simp [h1, h2]

theorem isSome_convertFormatExtensible_iff :
    (convertFormatExtensible format).isSome = true ↔
      (format.wValidBitsPerSample = 0 ∨ format.wValidBitsPerSample = format.wBitsPerSample) ∧
        (channelConfig format.dwChannelMask format.nChannels).isSome = true ∧
        (subFormatSampleType format.subFormat format.wBitsPerSample).isSome = true := by
  have hbits : (if format.wValidBitsPerSample = 0 then format.wBitsPerSample
      else format.wValidBitsPerSample) = format.wBitsPerSample ↔
      format.wValidBitsPerSample = 0 ∨ format.wValidBitsPerSample = format.wBitsPerSample := by
    by_cases h0 : format.wValidBitsPerSample = 0 <;> simp [h0]
  simp only [convertFormatExtensible, ← hbits]
  by_cases hvalid : (if format.wValidBitsPerSample = 0 then format.wBitsPerSample
      else format.wValidBitsPerSample) = format.wBitsPerSample
  · simp only [hvalid, ne_eq, not_true_eq_false, if_false, true_and]
    cases channelConfig format.dwChannelMask format.nChannels with
    | none => simp
    | some c => cases subFormatSampleType format.subFormat format.wBitsPerSample <;> simp
  · simp [hvalid]

/-- `ConvertFormat` accepts the formats that can be played. -/
theorem isSome_convertAny_iff
    (hsize : ¬ (format.wFormatTag = formatExtensible ∧ format.cbSize < extExtraSize)) :
    (convertAny format).isSome = true ↔ format.Playable := by
  by_cases hext : format.wFormatTag = formatExtensible
  · have hcb : ¬ format.cbSize < extExtraSize := fun h ↦ hsize ⟨hext, h⟩
    have hsub : (subFormatSampleType format.subFormat format.wBitsPerSample).isSome = true ↔
        format.IsPcm ∧ (format.wBitsPerSample = 8 ∨ format.wBitsPerSample = 16) ∨
          format.IsFloat ∧ format.wBitsPerSample = 32 := by
      have hpcm : formatExtensible ≠ formatPcm := by decide
      have hfloat : formatExtensible ≠ formatIeeeFloat := by decide
      have hne : formatPcm ≠ formatIeeeFloat := by decide
      cases hs : format.subFormat <;>
        simp [subFormatSampleType, isSome_sampleType_iff, IsPcm, IsFloat, hext, hs, hpcm, hfloat,
          hne, hne.symm]
    rw [convertAny, if_pos hext, if_neg hcb, isSome_convertFormatExtensible_iff,
      isSome_channelConfig_iff, hsub]
    constructor
    · rintro ⟨hpad, hlayout, hsamples⟩
      exact ⟨hsamples, fun _ ↦ hpad, by rwa [if_pos hext]⟩
    · rintro ⟨hsamples, hpad, hlayout⟩
      exact ⟨hpad hext, by rwa [if_pos hext] at hlayout, hsamples⟩
  · have hplain : format.IsPcm ∧ (format.wBitsPerSample = 8 ∨ format.wBitsPerSample = 16) ∨
        format.IsFloat ∧ format.wBitsPerSample = 32 ↔
        (sampleType format.wFormatTag format.wBitsPerSample).isSome = true := by
      simp [isSome_sampleType_iff, IsPcm, IsFloat, hext]
    rw [convertAny, if_neg hext, isSome_convertFormat_iff, ← hplain]
    constructor
    · rintro ⟨hsamples, hlayout⟩
      exact ⟨hsamples, fun h ↦ absurd h hext, by rwa [if_neg hext]⟩
    · rintro ⟨hsamples, -, hlayout⟩
      exact ⟨hsamples, by rwa [if_neg hext] at hlayout⟩

theorem playable_normal (wfx : WaveFormat) :
    (PrimaryBuffer.normal wfx).Playable ↔ wfx.Playable := by
  by_cases hext : wfx.wFormatTag = formatExtensible
  · have hbits : (if wfx.wValidBitsPerSample = 0 then wfx.wBitsPerSample
        else wfx.wValidBitsPerSample) = 0 ∨ (if wfx.wValidBitsPerSample = 0
          then wfx.wBitsPerSample else wfx.wValidBitsPerSample) = wfx.wBitsPerSample ↔
        wfx.wValidBitsPerSample = 0 ∨ wfx.wValidBitsPerSample = wfx.wBitsPerSample := by
      by_cases h0 : wfx.wValidBitsPerSample = 0 <;> simp [h0]
    rw [PrimaryBuffer.normal, if_pos hext]
    constructor
    · rintro ⟨hsamples, hpad, hlayout⟩
      exact ⟨hsamples, fun h ↦ hbits.mp (hpad h), hlayout⟩
    · rintro ⟨hsamples, hpad, hlayout⟩
      exact ⟨hsamples, fun h ↦ hbits.mpr (hpad h), hlayout⟩
  · rw [PrimaryBuffer.normal, if_neg hext]
    constructor
    · rintro ⟨hsamples, -, hlayout⟩
      refine ⟨?_, fun h ↦ absurd h hext, by rwa [if_neg hext] at hlayout ⊢⟩
      simpa [IsPcm, IsFloat, hext] using hsamples
    · rintro ⟨hsamples, -, hlayout⟩
      refine ⟨?_, fun h ↦ absurd h hext, by rwa [if_neg hext] at hlayout ⊢⟩
      simpa [IsPcm, IsFloat, hext] using hsamples

/-- With every extension OpenAL has a format for everything that is converted. -/
theorem isSome_alFormat_iff {exts : Extensions} (hfloat : exts.float32 = true)
    (hmc : exts.mcFormats = true) :
    (format.alFormat exts).isSome = true ↔ (convertAny format).isSome = true := by
  cases h : convertAny format with
  | none => simp [alFormat, h]
  | some r =>
    obtain ⟨dst, t, c⟩ := r
    simp [alFormat, h, isSome_getALFormat, hasALFormat, hfloat, hmc]

end WaveFormat

/-! ## The description of the write-emulation buffer -/

namespace PrimaryBuffer

variable {primary : PrimaryBuffer} {flags : UInt32} {exts : Extensions} {samples : Bool}

/-- A frame that is played has at most 32 bytes. -/
theorem blockAlign_le_of_convertAny {format dst : WaveFormat} {t : SampleType} {c : ChannelConfig}
    (hframe : format.FrameExact) (h : convertAny format = some (dst, t, c)) :
    format.nBlockAlign.toNat ≤ 32 := by
  obtain ⟨hbits, hcount⟩ := size_of_convertAny h
  have hsize : t.size ≤ 4 := by cases t <;> decide
  have hchannels : c.count ≤ 8 := by cases c <;> decide
  have hmul := Nat.mul_le_mul hchannels hsize
  rw [WaveFormat.FrameExact, ← hbits, ← hcount, ← Nat.mul_assoc] at hframe
  exact (Nat.eq_of_mul_eq_mul_right (by decide) hframe).trans_le hmul

/-- The description asks for whole frames, which need no rounding, and within the range of
sizes. -/
theorem toNat_emuDesc_size (flags : UInt32) (hpos : 0 < primary.mFormat.nBlockAlign.toNat)
    (hle : primary.mFormat.nBlockAlign.toNat ≤ 32) :
    sizeMin ≤ bufferSize (primary.emuDesc flags).dwBufferBytes primary.mFormat.nBlockAlign ∧
      bufferSize (primary.emuDesc flags).dwBufferBytes primary.mFormat.nBlockAlign ≤ sizeMax := by
  obtain ⟨a, ha⟩ : ∃ a, a = primary.mFormat.nBlockAlign := ⟨_, rfl⟩
  rw [← ha] at hpos hle
  have hmod : primaryBufSize % a.toUInt32 ≤ primaryBufSize := by
    rw [UInt32.le_iff_toNat_le, UInt32.toNat_mod]
    exact Nat.mod_le _ _
  have hbytes : (primary.emuDesc flags).dwBufferBytes.toNat =
      a.toNat * (32768 / a.toNat) := by
    have hdiv := Nat.div_add_mod 32768 a.toNat
    have hsize : primaryBufSize.toNat = 32768 := rfl
    rw [emuDesc, ← ha, UInt32.toNat_sub_of_le _ _ hmod, UInt32.toNat_mod, UInt16.toNat_toUInt32,
      hsize]
    omega
  have hlarge : 32768 < a.toNat * (32768 / a.toNat) + a.toNat := by
    have hdiv := Nat.div_add_mod 32768 a.toNat
    have := Nat.mod_lt 32768 hpos
    omega
  have hsmall : a.toNat * (32768 / a.toNat) ≤ 32768 := Nat.mul_div_le _ _
  have hne : a ≠ 0 := fun h0 ↦ by simp [h0] at hpos
  have hround := toNat_bufferSize (primary.emuDesc flags).dwBufferBytes hne
  have hceil : a.toNat * (32768 / a.toNat) ⌈/⌉ a.toNat = 32768 / a.toNat :=
    smul_ceilDiv hpos (32768 / a.toNat)
  rw [hbytes, if_pos (by omega), hceil] at hround
  rw [← ha, UInt32.le_iff_toNat_le, UInt32.le_iff_toNat_le, hround]
  have hmin : sizeMin.toNat = 4 := rfl
  have hmax : sizeMax.toNat = 0x0FFFFFFF := rfl
  omega

/-- A stored format passes the checks it has been accepted by. -/
theorem copyFormat_of_stored {format : WaveFormat} (h : storedFormat format = some format) :
    copyFormat format = some format := by
  unfold storedFormat at h
  split_ifs at h
  exact h

/-- The byte rate of a format that is played is exact, and is not zero. -/
theorem nAvgBytesPerSec_ne_zero {format : WaveFormat} (h : copyFormat format = some format)
    (hle : format.nBlockAlign.toNat ≤ 32) : format.nAvgBytesPerSec ≠ 0 := by
  obtain ⟨hvalid, hrate, -⟩ := copyFormat_eq_some_iff.mp h
  have hfields := (WaveFormat.validFormat_iff.mp hvalid).1
  have hmin : 100 ≤ format.nSamplesPerSec.toNat :=
    UInt32.le_iff_toNat_le.mp hfields.frequencyMin_le
  have hmax : format.nSamplesPerSec.toNat ≤ 200000 :=
    UInt32.le_iff_toNat_le.mp hfields.le_frequencyMax
  have hmul := Nat.mul_le_mul hle hmax
  have hpos := Nat.mul_pos hfields.blockAlign_pos (Nat.lt_of_lt_of_le (by decide) hmin)
  rw [hrate, ne_eq, ← UInt32.toNat_inj, toNat_mul_of_lt (by omega)]
  exact hpos.ne'

/-- **What `SharedBuffer::Create` makes of a stored format**: with memory, everything OpenAL has
a format for. -/
theorem create_emuDesc_iff (h : storedFormat primary.mFormat = some primary.mFormat) :
    (∃ sb, SharedBuffer.create (primary.emuDesc flags) primary.mFormat exts samples = .ok sb) ↔
      samples = true ∧ (primary.mFormat.alFormat exts).isSome = true := by
  have hcopy := copyFormat_of_stored h
  have hvalid := (copyFormat_eq_some_iff.mp hcopy).1
  obtain ⟨hfields, hframe⟩ := WaveFormat.validFormat_iff.mp hvalid
  have hflags : hasFlag (primary.emuDesc flags).dwFlags Caps.locSoftware = false :=
    DSound8OAL.hasFlag_emuDesc _ _ (by decide) (by decide)
  cases hc : convertAny primary.mFormat with
  | none =>
    simp only [SharedBuffer.create, hc, WaveFormat.alFormat]
    split_ifs <;> simp
  | some r =>
    obtain ⟨dst, t, c⟩ := r
    have hle := blockAlign_le_of_convertAny hframe hc
    obtain ⟨hmin, hmax⟩ := toNat_emuDesc_size flags hfields.blockAlign_pos hle
    have hal : (primary.mFormat.alFormat exts).isSome = hasALFormat t c exts := by
      simp [WaveFormat.alFormat, hc, isSome_getALFormat]
    simp only [SharedBuffer.create, hvalid, nAvgBytesPerSec_ne_zero hcopy hle, hflags,
      UInt32.not_lt.mpr hmin, UInt32.not_lt.mpr hmax, hc, hal, Bool.not_true, Bool.false_eq_true,
      if_false, false_and]
    cases samples <;> cases hasALFormat t c exts <;> simp

end PrimaryBuffer

/-! ## The call of `createWriteEmu` -/

namespace Buffer

variable {b : Buffer} {sb : SharedBuffer}

/-- A buffer with storage can always be asked to be located. -/
theorem isSome_initLocation (parent : Parent) (dev : DeviceSources) (h : b.mBuffer = some sb) :
    (b.initLocation parent dev).isSome = true := by
  have hleave : (b.leaveLocation dev).1.mBuffer = some sb := by
    unfold leaveLocation
    split <;> exact h
  have hset (want : LocStatus) : (b.setLocation parent dev want).isSome = true := by
    unfold setLocation
    split_ifs
    · rfl
    · rfl
    · simp only [hleave]
      split <;> rfl
  simp only [initLocation, h, Option.bind_eq_bind, Option.bind_some]
  split_ifs
  · rfl
  · obtain ⟨r, hr⟩ := Option.isSome_iff_exists.mp (hset (describedLocation sb.mFlags))
    simp [hr]

/-- Initializing a new buffer with the description of the write-emulation buffer comes down to
creating its storage. -/
theorem attach_emuDesc (born : ℕ) (exts : Extensions) (primary : PrimaryBuffer) (flags : UInt32)
    (samples : Bool) :
    (∃ emu, (fresh born false).attach exts (some (primary.emuDesc flags)) samples = .ok emu) ↔
      ∃ sb, SharedBuffer.create (primary.emuDesc flags) primary.mFormat exts samples = .ok sb := by
  have hstorage : (fresh born false).storage exts (some (primary.emuDesc flags)) samples =
      SharedBuffer.create (primary.emuDesc flags) primary.mFormat exts samples := by
    simp only [storage, fresh, PrimaryBuffer.emuDesc]
    simp
  simp only [attach, hstorage]
  cases SharedBuffer.create (primary.emuDesc flags) primary.mFormat exts samples <;> simp [fresh]

end Buffer

namespace DSound8OAL

variable {s s' : DSound8OAL} {flags : UInt32} {mem : Memory}

theorem isSome_destroyWriteEmu (h : s.mShared.isSome = true) : s.destroyWriteEmu.isSome = true := by
  obtain ⟨dev, hdev⟩ := Option.isSome_iff_exists.mp h
  unfold destroyWriteEmu
  split
  · rfl
  · rename_i emu _
    cases hloc : emu.mLocStatus <;> simp [leaveSource, hloc, hdev]

/-- `createWriteEmu` succeeds if there is memory, a valid description and a hardware source. -/
theorem createWriteEmu_ok_iff :
    (∃ s', s.createWriteEmu flags mem = some (.ok, s')) ↔ EmuCall.Succeeds ⟨s, flags, mem⟩ := by
  constructor
  · rintro ⟨s', hc⟩
    obtain ⟨-, hne, -⟩ | ⟨hmem, ⟨ha, -⟩ | ⟨emu, dev, emu', dev', ha, hdev, hinit, -⟩⟩ :=
      createWriteEmu_cases hc
    · exact absurd rfl hne
    · exact absurd rfl (Buffer.attach_error ha)
    · exact ⟨hmem, emu, dev, ha, hdev, (initLocation_emuDesc ha hinit).mp rfl⟩
  · rintro ⟨(hmem : mem.emu = true), emu, dev, ha, (hdev : s.mShared = some dev), hslot⟩
    have ha : (Buffer.fresh s.nextBorn false).attach s.mExtensions
        (some (s.mPrimaryBuffer.emuDesc flags)) mem.samples = .ok emu := ha
    obtain ⟨sb, hsb, -⟩ := Buffer.attach_flags ha
    obtain ⟨⟨hr, emu', dev'⟩, hinit⟩ :=
      Option.isSome_iff_exists.mp (Buffer.isSome_initLocation s.parent dev hsb)
    obtain rfl : hr = .ok := (initLocation_emuDesc ha hinit).mpr hslot
    obtain ⟨s₁, hs₁⟩ := Option.isSome_iff_exists.mp (isSome_destroyWriteEmu
      (s := { s with nextBorn := s.nextBorn + 1, mShared := some dev' }) rfl)
    refine ⟨{ s₁ with mPrimaryBuffer := { s₁.mPrimaryBuffer with mWriteEmu := some emu' } }, ?_⟩
    have hinit : emu.initLocation
        { s with nextBorn := s.nextBorn + 1, mShared := some dev }.parent dev =
          some (.ok, emu', dev') := hinit
    simp only [createWriteEmu, hmem, ha, hdev, Option.bind_eq_bind, Option.bind_some, hinit,
      Bool.not_true, Bool.false_eq_true, if_false, HResult.failed_eq_true, ne_eq,
      not_true_eq_false, hs₁]

/-- Whether `createWriteEmu` succeeds with a stored format. -/
theorem succeeds_iff (h : PrimaryBuffer.storedFormat s.mPrimaryBuffer.mFormat =
      some s.mPrimaryBuffer.mFormat) :
    EmuCall.Succeeds ⟨s, flags, mem⟩ ↔ mem.emu = true ∧ mem.samples = true ∧
      (s.mPrimaryBuffer.mFormat.alFormat s.mExtensions).isSome = true ∧
      ∃ dev, s.mShared = some dev ∧ (dev.acquire .hardware).isSome = true := by
  have hattach := (Buffer.attach_emuDesc s.nextBorn s.mExtensions s.mPrimaryBuffer flags
    mem.samples).trans (PrimaryBuffer.create_emuDesc_iff h)
  constructor
  · rintro ⟨hmem, emu, dev, ha, hdev, hslot⟩
    obtain ⟨hsamples, hformat⟩ := hattach.mp ⟨emu, ha⟩
    exact ⟨hmem, hsamples, hformat, dev, hdev, hslot⟩
  · rintro ⟨hmem, hsamples, hformat, dev, hdev, hslot⟩
    obtain ⟨emu, ha⟩ := hattach.mpr ⟨hsamples, hformat⟩
    exact ⟨hmem, emu, dev, ha, hdev, hslot⟩

/-- **The accepted formats that can be emulated.**  With memory, a hardware source and the
extensions of OpenAL, `createWriteEmu` succeeds with a format that `SetFormat` has accepted if
and only if the format has 8-bit or 16-bit integer or 32-bit float samples without padding, and
one or two channels or, if it is extensible, one of the speaker layouts. -/
theorem createWriteEmu_accepted_iff {wfx : WaveFormat} {dev : DeviceSources}
    (hformat : PrimaryBuffer.storedFormat wfx = some s.mPrimaryBuffer.mFormat)
    (hdev : s.mShared = some dev) (hslot : (dev.acquire .hardware).isSome = true)
    (hmem : mem.emu = true) (hsamples : mem.samples = true)
    (hfloat : s.mExtensions.float32 = true) (hmc : s.mExtensions.mcFormats = true) :
    (∃ s', s.createWriteEmu flags mem = some (.ok, s')) ↔ wfx.Playable := by
  obtain ⟨hstored, hagain⟩ := PrimaryBuffer.storedFormat_normal hformat
  have hnormal : s.mPrimaryBuffer.mFormat = PrimaryBuffer.normal wfx := by
    unfold PrimaryBuffer.storedFormat at hformat
    split_ifs at hformat
    exact (PrimaryBuffer.copyFormat_eq_some_iff.mp hformat).2.2.2
  have hplayable : (s.mPrimaryBuffer.mFormat.alFormat s.mExtensions).isSome = true ↔
      wfx.Playable := by
    rw [WaveFormat.isSome_alFormat_iff hfloat hmc,
      WaveFormat.isSome_convertAny_iff hstored.not_short, hnormal, WaveFormat.playable_normal]
  rw [createWriteEmu_ok_iff, succeeds_iff hagain, hplayable]
  constructor
  · exact fun h ↦ h.2.2.1
  · exact fun h ↦ ⟨hmem, hsamples, h, dev, hdev, hslot⟩

/-- An object on a device with one source of each kind, at the level `DSSCL_PRIORITY`, whose
primary buffer has a certain format. -/
def withFormat (format : WaveFormat) : DSound8OAL where
  mIs8 := true
  mPrioLevel := Level.priority
  mShared := some oneSource
  mExtensions := { float32 := true, mcFormats := true }
  mPrimaryBuffer := { mFormat := format }

/-- Stereo PCM at 44.1 kHz. -/
def stereoPcm (wBitsPerSample nBlockAlign : UInt16) : WaveFormat where
  wFormatTag := formatPcm
  nChannels := 2
  nSamplesPerSec := 44100
  nAvgBytesPerSec := 44100 * nBlockAlign.toUInt32
  nBlockAlign := nBlockAlign
  wBitsPerSample := wBitsPerSample

theorem createWriteEmu_accepted_iff_sixteen :
    (∃ s', (withFormat (stereoPcm 16 4)).createWriteEmu 0 {} = some (.ok, s')) ↔
      (stereoPcm 16 4).Playable :=
  createWriteEmu_accepted_iff (by decide) rfl
    (by decide : (oneSource.acquire .hardware).isSome = true) rfl rfl rfl rfl

/-- `SetFormat` accepts 24-bit samples, with which `createWriteEmu` fails. -/
theorem createWriteEmu_rejects_accepted :
    PrimaryBuffer.storedFormat (stereoPcm 24 6) = some (stereoPcm 24 6) ∧
      (oneSource.acquire .hardware).isSome = true ∧
      ((withFormat (stereoPcm 24 6)).createWriteEmu 0 {}).map Prod.fst = some .invalidParam := by
  refine ⟨by decide, by decide, ?_⟩
  rfl

end DSound8OAL

end Dsoal
