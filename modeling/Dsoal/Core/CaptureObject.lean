import Mathlib.Algebra.Group.Nat.Defs
import Dsoal.Core.DeviceId
import Dsoal.Core.Format

/-!
# The `DSCapture` object

`CreateCaptureBuffer` makes a `DSCBuffer` and initializes it, which opens the capture device
the object has been initialized with.  What OpenAL answers to `alcCaptureOpenDevice` is a
function of the arguments; the name `""` stands for the default device there.
-/

namespace Dsoal

/-- `DSCBUFFERDESC`. -/
structure DSCBufferDesc where
  dwSize : UInt32
  dwBufferBytes : UInt32
  lpwfxFormat : Option WaveFormat
  dwFXCount : UInt32 := 0
  deriving DecidableEq, Repr

/-- `sizeof(DSCBUFFERDESC1)`, the offset of `dwFXCount`. -/
def sizeofDSCBufferDesc1 : UInt32 := 20

/-- The copy `CreateCaptureBuffer` makes of `dwSize` bytes.  What is not copied is zero. -/
def DSCBufferDesc.copy (desc : DSCBufferDesc) : DSCBufferDesc :=
  let copied := min 4 (desc.dwSize - sizeofDSCBufferDesc1).toNat
  { desc with dwSize := 28, dwFXCount := UInt32.ofNat (desc.dwFXCount.toNat % 2 ^ (8 * copied)) }

/-! ## Capture devices -/

/-- The formats samples are captured in. -/
inductive CaptureFormat where
  | mono8 | mono16 | stereo8 | stereo16
  deriving DecidableEq, Repr

/-- The arguments a capture device is opened with. -/
structure CaptureDevice where
  devicename : String
  frequency : UInt32
  format : CaptureFormat
  buffersize : UInt32
  deriving DecidableEq, Repr

/-- What happens in a call of `CreateCaptureBuffer`: whether there is memory for the buffer
and for its samples, and which devices OpenAL opens. -/
structure CaptureEnv where
  buffer : Bool := true
  samples : Bool := true
  opens : CaptureDevice → Bool

/-! ## The buffer -/

/-- `DSCBuffer`, as far as `Initialize` sets it up. -/
structure DSCBuffer where
  mIs8 : Bool
  mWaveFmt : WaveFormat := {}
  /-- `mBuffer.size()`. -/
  size : UInt32 := 0
  mDevice : Option CaptureDevice := none
  deriving DecidableEq, Repr

namespace DSCBuffer

/-- The checks on the numbers of a format. -/
def validFormat (format : WaveFormat) : Bool :=
  !(format.nChannels < 1 ∨ format.nChannels > 2) ∧
  !(format.wBitsPerSample = 0 ∨ format.wBitsPerSample % 8 ≠ 0) ∧
  format.nBlockAlign.toNat = format.nChannels.toNat * format.wBitsPerSample.toNat / 8 ∧
  !(format.nSamplesPerSec < frequencyMin ∨ format.nSamplesPerSec > frequencyMax) ∧
  format.nAvgBytesPerSec = format.nSamplesPerSec * format.nBlockAlign.toUInt32

/-- The format for a number of channels and of bits. -/
def captureFormat (nChannels wBitsPerSample : UInt16) : Option CaptureFormat :=
  if nChannels = 1 then
    if wBitsPerSample = 8 then some .mono8
    else if wBitsPerSample = 16 then some .mono16
    else none
  else if nChannels = 2 then
    if wBitsPerSample = 8 then some .stereo8
    else if wBitsPerSample = 16 then some .stereo16
    else none
  else none

/-- The stored format and the format of the device; `none` is `DSERR_BADFORMAT`. -/
def convertFormat (format : WaveFormat) : Option (WaveFormat × CaptureFormat) :=
  if format.wFormatTag = formatPcm then
    (captureFormat format.nChannels format.wBitsPerSample).map fun alformat ↦
      ({ format with
        cbSize := 0, wValidBitsPerSample := 0, dwChannelMask := 0, subFormat := .other }, alformat)
  else if format.wFormatTag = formatExtensible then
    if format.subFormat ≠ .pcm then none
    else if format.wValidBitsPerSample ≠ 0 ∧
        format.wValidBitsPerSample ≠ format.wBitsPerSample then none
    else if (format.nChannels = 1 ∧ format.dwChannelMask = 0x4) ∨
        (format.nChannels = 2 ∧ format.dwChannelMask = 0x3) then
      (captureFormat format.nChannels format.wBitsPerSample).map fun alformat ↦
        ({ format with
          cbSize := extExtraSize, wValidBitsPerSample := format.wBitsPerSample }, alformat)
    else none
  else none

/-- `sizeof(WAVEFORMATEXTENSIBLE)`. -/
def sizeofExtensible : UInt16 := 40

/-- `Initialize`; `name` is the device name of the parent. -/
def initializeBuffer (b : DSCBuffer) (name : String) (desc : DSCBufferDesc) (env : CaptureEnv) :
    HResult × DSCBuffer :=
  if b.mDevice.isSome then (.alreadyInitialized, b)
  else if desc.dwFXCount > 0 then (.invalidParam, b)
  else
    match desc.lpwfxFormat with
    | none => (.invalidParam, b)
    | some format =>
      if format.wFormatTag = formatExtensible ∧ format.cbSize < extExtraSize then
        (.invalidParam, b)
      else if format.wFormatTag = formatExtensible ∧ format.cbSize > extExtraSize ∧
          format.cbSize ≠ sizeofExtensible then (.controlUnavail, b)
      else if !validFormat format then (.invalidParam, b)
      else
        match convertFormat format with
        | none => (.badFormat, b)
        | some (mWaveFmt, alformat) =>
          let b := { b with mWaveFmt := mWaveFmt }
          let frame := mWaveFmt.nBlockAlign.toUInt32
          if desc.dwBufferBytes < frame ∨ desc.dwBufferBytes > 0x7FFFFFFF ∨
              desc.dwBufferBytes % frame ≠ 0 then (.invalidParam, b)
          else if !env.samples then (.outOfMemory, b)
          else
            let b := { b with size := desc.dwBufferBytes }
            let device : CaptureDevice :=
              ⟨name, mWaveFmt.nSamplesPerSec, alformat, desc.dwBufferBytes / frame⟩
            if env.opens device then (.ok, { b with mDevice := some device })
            else (.invalidParam, b)

end DSCBuffer

/-! ## The object -/

/-- `DSCapture`. -/
structure DSCapture where
  mIs8 : Bool
  /-- Empty until `Initialize` succeeds. -/
  mDeviceName : String := ""
  deriving DecidableEq, Repr

/-- What `GetCaps` writes. -/
structure DSCCaps where
  dwFlags : UInt32
  dwFormats : UInt32
  dwChannels : UInt32
  deriving DecidableEq, Repr

namespace DSCapture

/-- `CreateCaptureBuffer`, and the buffer it returns. -/
def createCaptureBuffer (s : DSCapture) (dscBufferDesc : Option DSCBufferDesc)
    (dsCaptureBuffer outer : Bool) (env : CaptureEnv) : HResult × Option DSCBuffer :=
  if !dsCaptureBuffer then (.invalidParam, none)
  else if outer then (.noAggregation, none)
  else
    match dscBufferDesc with
    | none => (.invalidParam, none)
    | some desc =>
      if desc.dwSize < sizeofDSCBufferDesc1 then (.invalidParam, none)
      else if !env.buffer then (.fail, none)
      else
        let (hr, dscbuf) := DSCBuffer.initializeBuffer { mIs8 := s.mIs8 } s.mDeviceName desc.copy env
        if hr.failed then (hr, none) else (.ok, some dscbuf)

/-- `sizeof(DSCCAPS)`. -/
def sizeofDSCCaps : UInt32 := 16

/-- `GetCaps`, with `dwSize` of its argument. -/
def getCaps (s : DSCapture) (dscCaps : Option UInt32) : HResult × Option DSCCaps :=
  if s.mDeviceName = "" then (.uninitialized, none)
  else
    match dscCaps with
    | none => (.invalidParam, none)
    | some dwSize =>
      if dwSize < sizeofDSCCaps then (.invalidParam, none)
      else (.ok, some { dwFlags := 0x2, dwFormats := 0xFFFFF, dwChannels := 2 })

/-- `Initialize`.  The name of the device is its identifier as a string, which is empty if the
conversion fails. -/
def initializeCapture (s : DSCapture) (guid : Option Guid) (sys : DefaultEndpoints)
    (stringFromCLSID : Guid → String) : HResult × DSCapture :=
  if s.mDeviceName ≠ "" then (.alreadyInitialized, s)
  else
    match chooseDevice .defaultCapture .defaultPlayback .defaultVoicePlayback guid with
    | none => (.noDriver, s)
    | some guid =>
      let (hr, devguid) := getDeviceID sys guid .null
      if hr.failed then (hr, s)
      else
        let s := { s with mDeviceName := stringFromCLSID devguid }
        if s.mDeviceName = "" then (.outOfMemory, s) else (.ok, s)

end DSCapture

end Dsoal
