import Mathlib.Tactic.SplitIfs
import Dsoal.Core.Basic

/-!
# Wave formats and shared buffers

A `SharedBuffer` is the sample storage that a buffer and its duplicates have in
common.  `SharedBuffer::Create` checks the description it is made from; what the
rest of the program reads of the result is its size, its flags and its format,
none of which ever changes, so that sharing one is the same as copying it.
-/

namespace Dsoal

/-- The `SubFormat` GUIDs that are told apart. -/
inductive SubFormat where
  | pcm | ieeeFloat | other
  deriving DecidableEq, Repr

/-- `WAVEFORMATEXTENSIBLE`; the last three fields are meaningful for
`WAVE_FORMAT_EXTENSIBLE` only. -/
structure WaveFormat where
  wFormatTag : UInt16 := 0
  nChannels : UInt16 := 0
  nSamplesPerSec : UInt32 := 0
  nAvgBytesPerSec : UInt32 := 0
  nBlockAlign : UInt16 := 0
  wBitsPerSample : UInt16 := 0
  cbSize : UInt16 := 0
  wValidBitsPerSample : UInt16 := 0
  dwChannelMask : UInt32 := 0
  subFormat : SubFormat := .other
  deriving DecidableEq, Repr

/-- `WAVE_FORMAT_PCM`. -/
def formatPcm : UInt16 := 1

/-- `WAVE_FORMAT_IEEE_FLOAT`. -/
def formatIeeeFloat : UInt16 := 3

/-- `WAVE_FORMAT_EXTENSIBLE`. -/
def formatExtensible : UInt16 := 0xFFFE

/-- `sizeof(WAVEFORMATEXTENSIBLE) - sizeof(WAVEFORMATEX)`. -/
def extExtraSize : UInt16 := 22

/-- `DSBUFFERDESC`. -/
structure BufferDesc where
  dwSize : UInt32
  dwFlags : UInt32
  dwBufferBytes : UInt32
  lpwfxFormat : Option WaveFormat
  deriving DecidableEq, Repr

/-- `sizeof(DSBUFFERDESC1)`. -/
def sizeofBufferDesc1 : UInt32 := 20

/-! ## The format of the samples -/

inductive SampleType where
  | uint8 | int16 | float32
  deriving DecidableEq, Repr

inductive ChannelConfig where
  | mono | stereo | rearStereo | quad | x51 | x71
  deriving DecidableEq, Repr

/-- The samples of a format without an extension. -/
def sampleType (tag bits : UInt16) : Option SampleType :=
  if tag = formatPcm then
    if bits = 8 then some .uint8
    else if bits = 16 then some .int16
    else none
  else if tag = formatIeeeFloat then
    if bits = 32 then some .float32 else none
  else none

/-- `ConvertFormat` of a `WAVEFORMATEX`: the stored format and its interpretation. -/
def convertFormat (src : WaveFormat) : Option (WaveFormat × SampleType × ChannelConfig) :=
  let dst : WaveFormat := { src with
    cbSize := 0, wValidBitsPerSample := 0, dwChannelMask := 0, subFormat := .other }
  match sampleType dst.wFormatTag dst.wBitsPerSample with
  | none => none
  | some t =>
    if dst.nChannels = 1 then some (dst, t, .mono)
    else if dst.nChannels = 2 then some (dst, t, .stereo)
    else none

/-- The channel configuration of a channel mask and a number of channels. -/
def channelConfig (mask : UInt32) (nChannels : UInt16) : Option ChannelConfig :=
  if mask = 0x4 then if nChannels = 1 then some .mono else none
  else if mask = 0x3 then if nChannels = 2 then some .stereo else none
  else if mask = 0x30 then if nChannels = 2 then some .rearStereo else none
  else if mask = 0x33 then if nChannels = 4 then some .quad else none
  else if mask = 0x3F ∨ mask = 0x60F then if nChannels = 6 then some .x51 else none
  else if mask = 0x63F then if nChannels = 8 then some .x71 else none
  else if mask = 0 then
    if nChannels = 1 then some .mono
    else if nChannels = 2 then some .stereo
    else if nChannels = 4 then some .quad
    else if nChannels = 6 then some .x51
    else if nChannels = 8 then some .x71
    else none
  else none

/-- The samples of an extensible format. -/
def subFormatSampleType (sub : SubFormat) (bits : UInt16) : Option SampleType :=
  match sub with
  | .pcm => sampleType formatPcm bits
  | .ieeeFloat => sampleType formatIeeeFloat bits
  | .other => none

/-- `ConvertFormat` of a `WAVEFORMATEXTENSIBLE`. -/
def convertFormatExtensible (src : WaveFormat) :
    Option (WaveFormat × SampleType × ChannelConfig) :=
  let validBits := if src.wValidBitsPerSample = 0 then src.wBitsPerSample else src.wValidBitsPerSample
  let dst : WaveFormat := { src with cbSize := extExtraSize, wValidBitsPerSample := validBits }
  if dst.wValidBitsPerSample ≠ dst.wBitsPerSample then none
  else
    match channelConfig dst.dwChannelMask dst.nChannels with
    | none => none
    | some config =>
      match subFormatSampleType dst.subFormat dst.wBitsPerSample with
      | none => none
      | some t => some (dst, t, config)

/-- Whether `GetALFormat` finds a format. -/
def hasALFormat (sampleType : SampleType) (config : ChannelConfig) (exts : Extensions) : Bool :=
  (sampleType ≠ .float32 ∨ exts.float32) ∧ (config = .mono ∨ config = .stereo ∨ exts.mcFormats)

/-! ## Shared buffers -/

/-- `SharedBuffer`. -/
structure SharedBuffer where
  /-- `mData.size()`. -/
  dataSize : UInt32
  mFlags : UInt32
  mWfxFormat : WaveFormat
  deriving DecidableEq, Repr

/-- The number of bytes a buffer gets: the requested number, rounded up to the
block alignment. -/
def bufferSize (dwBufferBytes : UInt32) (nBlockAlign : UInt16) : UInt32 :=
  let bufSize := dwBufferBytes + nBlockAlign.toUInt32 - 1
  bufSize - bufSize % nBlockAlign.toUInt32

/-- The checks on a format that `SharedBuffer::Create` and `SetFormat` have in
common. -/
def validFormat (format : WaveFormat) : Bool :=
  format.nChannels ≠ 0 ∧
  frequencyMin ≤ format.nSamplesPerSec ∧ format.nSamplesPerSec ≤ frequencyMax ∧
  format.nBlockAlign ≠ 0 ∧
  format.wBitsPerSample ≠ 0 ∧ format.wBitsPerSample % 8 = 0 ∧
  format.nBlockAlign.toNat = format.nChannels.toNat * format.wBitsPerSample.toNat / 8

/-- The conversion `SharedBuffer::Create` picks by the format tag. -/
def convertAny (format : WaveFormat) : Option (WaveFormat × SampleType × ChannelConfig) :=
  if format.wFormatTag = formatExtensible then
    if format.cbSize < extExtraSize then none else convertFormatExtensible format
  else convertFormat format

/-- `SharedBuffer::Create`; `memory` says whether the storage can be allocated. -/
def SharedBuffer.create (bufferDesc : BufferDesc) (format : WaveFormat) (exts : Extensions)
    (memory : Bool) : Except HResult SharedBuffer :=
  if !validFormat format then .error .invalidParam
  else if format.nAvgBytesPerSec = 0 then .error .invalidParam
  else if hasFlag bufferDesc.dwFlags Caps.locSoftware ∧
      hasFlag bufferDesc.dwFlags Caps.locHardware then .error .invalidParam
  else
    let bufSize := bufferSize bufferDesc.dwBufferBytes format.nBlockAlign
    if bufSize < sizeMin then .error .bufferTooSmall
    else if bufSize > sizeMax then .error .invalidParam
    else if !memory then .error .outOfMemory
    else
      match convertAny format with
      | none => .error .invalidParam
      | some (mWfxFormat, sampleType, config) =>
          if !hasALFormat sampleType config exts then .error .invalidParam
          else .ok { dataSize := bufSize, mFlags := bufferDesc.dwFlags, mWfxFormat := mWfxFormat }

/-- What is stored for a `WAVEFORMATEX`, and how it is interpreted. -/
theorem convertFormat_cases {src dst : WaveFormat} {t : SampleType} {c : ChannelConfig}
    (h : convertFormat src = some (dst, t, c)) :
    dst = { src with
      cbSize := 0, wValidBitsPerSample := 0, dwChannelMask := 0, subFormat := .other } ∧
    sampleType src.wFormatTag src.wBitsPerSample = some t ∧
    (src.nChannels = 1 ∧ c = .mono ∨ src.nChannels = 2 ∧ c = .stereo) := by
  simp only [convertFormat] at h
  split at h
  · contradiction
  · rename_i t' ht
    split_ifs at h with h1 h2 <;> cases h
    · exact ⟨rfl, ht, .inl ⟨h1, rfl⟩⟩
    · exact ⟨rfl, ht, .inr ⟨h2, rfl⟩⟩

/-- The same for a `WAVEFORMATEXTENSIBLE`: all bits are valid. -/
theorem convertFormatExtensible_cases {src dst : WaveFormat} {t : SampleType}
    {c : ChannelConfig} (h : convertFormatExtensible src = some (dst, t, c)) :
    dst = { src with cbSize := extExtraSize, wValidBitsPerSample := src.wBitsPerSample } ∧
    channelConfig src.dwChannelMask src.nChannels = some c ∧
    subFormatSampleType src.subFormat src.wBitsPerSample = some t := by
  simp only [convertFormatExtensible] at h
  generalize (if src.wValidBitsPerSample = 0 then src.wBitsPerSample
    else src.wValidBitsPerSample) = validBits at h
  split at h
  · contradiction
  · rename_i hbits
    obtain rfl := Decidable.not_not.mp hbits
    split at h
    · contradiction
    · rename_i c' hc
      split at h
      · contradiction
      · rename_i t' ht
        cases h
        exact ⟨rfl, hc, ht⟩

/-- Converting a format keeps the sampling rate and the size of a frame. -/
theorem convertAny_keeps {src dst : WaveFormat} {t : SampleType} {c : ChannelConfig}
    (h : convertAny src = some (dst, t, c)) :
    dst.nSamplesPerSec = src.nSamplesPerSec ∧ dst.nBlockAlign = src.nBlockAlign := by
  unfold convertAny at h
  split_ifs at h
  · obtain ⟨rfl, -, -⟩ := convertFormatExtensible_cases h
    exact ⟨rfl, rfl⟩
  · obtain ⟨rfl, -, -⟩ := convertFormat_cases h
    exact ⟨rfl, rfl⟩

theorem frequencyMin_le_of_validFormat {format : WaveFormat} (h : validFormat format) :
    frequencyMin ≤ format.nSamplesPerSec := by
  simp only [validFormat, decide_eq_true_eq] at h
  exact h.2.1

/-- What a shared buffer keeps of its description, and what the checks ensure. -/
theorem SharedBuffer.create_ok {bufferDesc : BufferDesc} {format : WaveFormat}
    {exts : Extensions} {memory : Bool} {sb : SharedBuffer}
    (h : SharedBuffer.create bufferDesc format exts memory = .ok sb) :
    sb.mFlags = bufferDesc.dwFlags ∧ frequencyMin ≤ sb.mWfxFormat.nSamplesPerSec ∧
      sizeMin ≤ sb.dataSize := by
  simp only [SharedBuffer.create] at h
  split_ifs at h with hv _ _ hsize
  split at h
  · contradiction
  · next mWfxFormat sampleType config hc =>
      split_ifs at h
      obtain rfl := Except.ok.inj h
      refine ⟨rfl, ?_, UInt32.not_lt.mp hsize⟩
      rw [(convertAny_keeps hc).1]
      exact frequencyMin_le_of_validFormat (by simpa using hv)

/-- A failure to create a shared buffer is not a success code. -/
theorem SharedBuffer.create_error {bufferDesc : BufferDesc} {format : WaveFormat}
    {exts : Extensions} {memory : Bool} {hr : HResult}
    (h : SharedBuffer.create bufferDesc format exts memory = .error hr) : hr ≠ .ok := by
  simp only [SharedBuffer.create] at h
  split_ifs at h
  all_goals try (cases h; decide)
  split at h
  · cases h
    decide
  · split_ifs at h
    cases h
    decide

end Dsoal
