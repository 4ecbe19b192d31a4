import Dsoal.Core.FormatChecks

/-!
# The buffers of OpenAL

`SharedBuffer::Create` hands its storage to OpenAL with a format that `GetALFormat` looks up.
OpenAL reads the size of a frame off that format, and knows nothing of the block alignment.
-/

namespace Dsoal

/-- The `AL_FORMAT_…` constants that are used. -/
inductive ALFormat where
  | mono8 | stereo8 | rear8 | quad8 | chn51_8 | chn71_8
  | mono16 | stereo16 | rear16 | quad16 | chn51_16 | chn71_16
  | monoFloat32 | stereoFloat32 | rear32 | quad32 | chn51_32 | chn71_32
  deriving DecidableEq, Repr

namespace ALFormat

/-- The number of channels of a format. -/
def channels : ALFormat → ℕ
  | mono8 | mono16 | monoFloat32 => 1
  | stereo8 | stereo16 | stereoFloat32 | rear8 | rear16 | rear32 => 2
  | quad8 | quad16 | quad32 => 4
  | chn51_8 | chn51_16 | chn51_32 => 6
  | chn71_8 | chn71_16 | chn71_32 => 8

/-- The number of bytes of a sample. -/
def sampleSize : ALFormat → ℕ
  | mono8 | stereo8 | rear8 | quad8 | chn51_8 | chn71_8 => 1
  | mono16 | stereo16 | rear16 | quad16 | chn51_16 | chn71_16 => 2
  | monoFloat32 | stereoFloat32 | rear32 | quad32 | chn51_32 | chn71_32 => 4

end ALFormat

/-- `GetALFormat`; `none` is `AL_NONE`. -/
def getALFormat (sampleType : SampleType) (channelConfig : ChannelConfig) (exts : Extensions) :
    Option ALFormat :=
  match sampleType with
  | .uint8 =>
    match channelConfig with
    | .mono => some .mono8
    | .stereo => some .stereo8
    | .rearStereo => if exts.mcFormats then some .rear8 else none
    | .quad => if exts.mcFormats then some .quad8 else none
    | .x51 => if exts.mcFormats then some .chn51_8 else none
    | .x71 => if exts.mcFormats then some .chn71_8 else none
  | .int16 =>
    match channelConfig with
    | .mono => some .mono16
    | .stereo => some .stereo16
    | .rearStereo => if exts.mcFormats then some .rear16 else none
    | .quad => if exts.mcFormats then some .quad16 else none
    | .x51 => if exts.mcFormats then some .chn51_16 else none
    | .x71 => if exts.mcFormats then some .chn71_16 else none
  | .float32 =>
    if exts.float32 then
      match channelConfig with
      | .mono => some .monoFloat32
      | .stereo => some .stereoFloat32
      | .rearStereo => if exts.mcFormats then some .rear32 else none
      | .quad => if exts.mcFormats then some .quad32 else none
      | .x51 => if exts.mcFormats then some .chn51_32 else none
      | .x71 => if exts.mcFormats then some .chn71_32 else none
    else none

/-- The number of bytes of a sample. -/
def SampleType.size : SampleType → ℕ
  | .uint8 => 1
  | .int16 => 2
  | .float32 => 4

/-- The byte the storage is filled with, silence. -/
def SampleType.silence : SampleType → UInt8
  | .uint8 => 0x80
  | .int16 | .float32 => 0

/-- The number of channels. -/
def ChannelConfig.count : ChannelConfig → ℕ
  | .mono => 1
  | .stereo | .rearStereo => 2
  | .quad => 4
  | .x51 => 6
  | .x71 => 8

/-- The format OpenAL gets has the samples and the channels it was looked up for. -/
theorem getALFormat_spec {t : SampleType} {c : ChannelConfig} {exts : Extensions}
    {alFormat : ALFormat} (h : getALFormat t c exts = some alFormat) :
    alFormat.sampleSize = t.size ∧ alFormat.channels = c.count := by
  cases t <;> cases c <;> simp only [getALFormat] at h <;> (try split_ifs at h) <;> cases h <;>
    exact ⟨rfl, rfl⟩

theorem isSome_getALFormat (t : SampleType) (c : ChannelConfig) (exts : Extensions) :
    (getALFormat t c exts).isSome = hasALFormat t c exts := by
  cases t <;> cases c <;> cases h : exts.mcFormats <;> cases h' : exts.float32 <;>
    simp [getALFormat, hasALFormat, h, h']

/-! ## The buffer of a shared buffer -/

/-- `mAlBuffer`, as `alBufferDataStatic` has set it up. -/
structure ALBuffer where
  format : ALFormat
  /-- The byte every sample begins as. -/
  silence : UInt8
  size : UInt32
  frequency : UInt32
  deriving DecidableEq, Repr

/-- `SharedBuffer::Create`, in the arithmetic of the code; `warn` says whether warnings are
written out. -/
def SharedBuffer.createAL (bufferDesc : BufferDesc) (format : WaveFormat) (exts : Extensions)
    (warn memory : Bool) : Except HResult (SharedBuffer × ALBuffer) :=
  match Check.run (format.sharedBufferChecks warn) with
  | .error hr => .error hr
  | .ok () =>
    if hasFlag bufferDesc.dwFlags Caps.locSoftware ∧
        hasFlag bufferDesc.dwFlags Caps.locHardware then .error .invalidParam
    else
      let bufSize := bufferSize bufferDesc.dwBufferBytes format.nBlockAlign
      if bufSize < sizeMin then .error .bufferTooSmall
      else if bufSize > sizeMax then .error .invalidParam
      else if !memory then .error .outOfMemory
      else
        match convertAny format with
        | none => .error .invalidParam
        | some (mWfxFormat, sampleType, channelConfig) =>
          match getALFormat sampleType channelConfig exts with
          | none => .error .invalidParam
          | some mAlFormat => .ok
            ({ dataSize := bufSize, mFlags := bufferDesc.dwFlags, mWfxFormat := mWfxFormat },
              ⟨mAlFormat, sampleType.silence, bufSize, mWfxFormat.nSamplesPerSec⟩)

/-- The format OpenAL gets for a wave format. -/
def WaveFormat.alFormat (format : WaveFormat) (exts : Extensions) : Option ALFormat := do
  let (_, sampleType, channelConfig) ← convertAny format
  getALFormat sampleType channelConfig exts

/-- The format `SetFormat` stores.  It ignores an extensible format that is cut off, without
failing. -/
def PrimaryBuffer.storedFormat (wfx : WaveFormat) : Option WaveFormat :=
  if wfx.wFormatTag = formatExtensible ∧ wfx.cbSize < extExtraSize then none
  else PrimaryBuffer.copyFormat wfx

end Dsoal
