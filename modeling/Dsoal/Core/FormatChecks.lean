import Dsoal.Core.CaptureObject
import Dsoal.Core.Primary
import Dsoal.Lib.Checks

/-!
# The checks on a wave format

`SharedBuffer::Create`, `PrimaryBuffer::SetFormat` and `DSCBuffer::Initialize` each check the
numbers of a wave format, in three different orders.  Here a validator is the list of its
checks, with the products the code evaluates on the way, and the conditions are those of the
code in its own arithmetic: two 16-bit fields are multiplied as `int`s, a 16-bit field and the
sampling rate as `DWORD`s.  A signed product wraps around here as the others do; the list of
the products that are evaluated says where the standard leaves it undefined.

`validFormat`, `copyFormat` and `DSCBuffer.validFormat` state the same checks with the exact
block alignment.
-/

namespace Dsoal

/-- The promotion of a `WORD` to `int`. -/
def promote (x : UInt16) : Int32 := Int32.ofNat x.toNat

namespace WaveFormat

/-- `nChannels*wBitsPerSample`. -/
def frameBits (format : WaveFormat) : Product :=
  ⟨.int, format.nChannels.toNat, format.wBitsPerSample.toNat⟩

/-- `nBlockAlign*nSamplesPerSec`. -/
def byteRate (format : WaveFormat) : Product :=
  ⟨.dword, format.nBlockAlign.toNat, format.nSamplesPerSec.toNat⟩

/-! ## The single checks -/

/-- A check of the fields of a format. -/
abbrev FieldCheck := Check Product HResult

/-- `nChannels <= 0`. -/
def checkChannels (format : WaveFormat) : FieldCheck where
  passes := format.nChannels ≠ 0
  error := .invalidParam

/-- The check of the capture buffer, which has at most two channels. -/
def checkCaptureChannels (format : WaveFormat) : FieldCheck where
  passes := !(format.nChannels < 1 ∨ format.nChannels > 2)
  error := .invalidParam

/-- The range of `nSamplesPerSec`. -/
def checkSamplesPerSec (format : WaveFormat) : FieldCheck where
  passes := !(format.nSamplesPerSec < frequencyMin ∨ format.nSamplesPerSec > frequencyMax)
  error := .invalidParam

/-- `nBlockAlign <= 0`. -/
def checkBlockAlign (format : WaveFormat) : FieldCheck where
  passes := format.nBlockAlign ≠ 0
  error := .invalidParam

/-- `wBitsPerSample == 0 || (wBitsPerSample%8) != 0`. -/
def checkBits (format : WaveFormat) : FieldCheck where
  passes := !(format.wBitsPerSample = 0 ∨ format.wBitsPerSample % 8 ≠ 0)
  error := .invalidParam

/-- `nBlockAlign != nChannels*wBitsPerSample/8`. -/
def checkFrame (format : WaveFormat) : FieldCheck where
  evaluates := [format.frameBits]
  passes := promote format.nBlockAlign =
    promote format.nChannels * promote format.wBitsPerSample / 8
  onFailure := [format.frameBits]
  error := .invalidParam

/-- `nAvgBytesPerSec != nBlockAlign*nSamplesPerSec`. -/
def checkByteRate (format : WaveFormat) : FieldCheck where
  evaluates := [format.byteRate]
  passes := format.nAvgBytesPerSec = format.nBlockAlign.toUInt32 * format.nSamplesPerSec
  onFailure := [format.byteRate]
  error := .invalidParam

/-- `nAvgBytesPerSec == 0`; a warning is written out only if `warn`. -/
def checkNonzeroByteRate (format : WaveFormat) (warn : Bool) : FieldCheck where
  passes := format.nAvgBytesPerSec ≠ 0
  onFailure := if warn then [format.byteRate] else []
  error := .invalidParam

/-- The comparison that only warns of an unexpected `nAvgBytesPerSec`. -/
def warnByteRate (format : WaveFormat) : FieldCheck where
  evaluates := [format.byteRate]
  passes := true
  error := .invalidParam

/-- The checks `SetFormat` makes by format tag. -/
def checkFormatTag (format : WaveFormat) : FieldCheck where
  passes := PrimaryBuffer.validFormatTag format
  error := .invalidParam

/-- The products `SetFormat` stores. -/
def storeProducts (format : WaveFormat) : FieldCheck where
  evaluates := [format.byteRate, format.frameBits]
  passes := true
  error := .invalidParam

/-! ## The three validators -/

/-- The checks of `SharedBuffer::Create`. -/
def sharedBufferChecks (format : WaveFormat) (warn : Bool) : List FieldCheck :=
  [format.checkChannels, format.checkSamplesPerSec, format.checkBlockAlign, format.checkBits,
    format.checkFrame, format.checkNonzeroByteRate warn, format.warnByteRate]

/-- The checks of `copy_format` in `PrimaryBuffer::SetFormat`. -/
def setFormatChecks (format : WaveFormat) : List FieldCheck :=
  [format.checkChannels, format.checkSamplesPerSec, format.checkBlockAlign, format.checkBits,
    format.checkFrame, format.checkByteRate, format.checkFormatTag, format.storeProducts]

/-- The checks of `DSCBuffer::Initialize`. -/
def captureChecks (format : WaveFormat) : List FieldCheck :=
  [format.checkCaptureChannels, format.checkBits, format.checkFrame, format.checkSamplesPerSec,
    format.checkByteRate]

end WaveFormat

end Dsoal
