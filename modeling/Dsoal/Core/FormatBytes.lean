import Dsoal.Core.Format
import Dsoal.Lib.Packed

/-!
# Wave formats in memory

A `WAVEFORMATEX` is followed in memory by `cbSize` bytes, for `WAVE_FORMAT_EXTENSIBLE` by the
rest of a `WAVEFORMATEXTENSIBLE`.  `GetFormat` copies as many bytes of the stored format, and
what an application passes back is a pointer to bytes of that layout.
-/

namespace Dsoal

/-- The bytes of a GUID.  The formats with another sample format that are stored are plain ones,
where the GUID is zero. -/
def SubFormat.bytes : SubFormat → List UInt8
  | .pcm => [1, 0, 0, 0, 0, 0, 0x10, 0, 0x80, 0, 0, 0xAA, 0, 0x38, 0x9B, 0x71]
  | .ieeeFloat => [3, 0, 0, 0, 0, 0, 0x10, 0, 0x80, 0, 0, 0xAA, 0, 0x38, 0x9B, 0x71]
  | .other => List.replicate 16 0

/-- The sample format a GUID stands for. -/
def SubFormat.ofBytes (bs : List UInt8) : SubFormat :=
  if bs = SubFormat.pcm.bytes then .pcm
  else if bs = SubFormat.ieeeFloat.bytes then .ieeeFloat
  else .other

namespace WaveFormat

/-- The bytes of the `WAVEFORMATEX`. -/
def formatBytes (format : WaveFormat) : List UInt8 :=
  Packed.word format.wFormatTag ++ (Packed.word format.nChannels ++
    (Packed.dword format.nSamplesPerSec ++ (Packed.dword format.nAvgBytesPerSec ++
      (Packed.word format.nBlockAlign ++ (Packed.word format.wBitsPerSample ++
        Packed.word format.cbSize)))))

/-- The bytes of a `WAVEFORMATEXTENSIBLE` after those. -/
def extensionBytes (format : WaveFormat) : List UInt8 :=
  Packed.word format.wValidBitsPerSample ++ (Packed.dword format.dwChannelMask ++
    format.subFormat.bytes)

/-- The bytes of a `WAVEFORMATEXTENSIBLE`. -/
def bytes (format : WaveFormat) : List UInt8 := format.formatBytes ++ format.extensionBytes

/-- The format some bytes stand for. -/
def ofBytes (bs : List UInt8) : WaveFormat :=
  let (wFormatTag, bs) := Packed.readWord bs
  let (nChannels, bs) := Packed.readWord bs
  let (nSamplesPerSec, bs) := Packed.readDword bs
  let (nAvgBytesPerSec, bs) := Packed.readDword bs
  let (nBlockAlign, bs) := Packed.readWord bs
  let (wBitsPerSample, bs) := Packed.readWord bs
  let (cbSize, bs) := Packed.readWord bs
  let (wValidBitsPerSample, bs) := Packed.readWord bs
  let (dwChannelMask, bs) := Packed.readDword bs
  { wFormatTag, nChannels, nSamplesPerSec, nAvgBytesPerSec, nBlockAlign, wBitsPerSample, cbSize,
    wValidBitsPerSample, dwChannelMask, subFormat := SubFormat.ofBytes (bs.take 16) }

/-- `sizeof(WAVEFORMATEX)`. -/
def sizeofFormat : ℕ := 18

/-- The size of a format with what follows it. -/
def size (format : WaveFormat) : UInt32 := UInt32.ofNat sizeofFormat + format.cbSize.toUInt32

/-- The bytes `GetFormat` copies. -/
def reported (format : WaveFormat) : List UInt8 := format.bytes.take format.size.toNat

/-- `Buffer::GetFormat` and `PrimaryBuffer::GetFormat`: the bytes at `wfx` and the number at
`sizeWritten`, as far as there is something to write. -/
def getFormat (mFormat : WaveFormat) (wfx : Bool) (sizeAllocated : UInt32) (sizeWritten : Bool) :
    HResult × Option (List UInt8) × Option UInt32 :=
  if !wfx ∧ !sizeWritten then (.invalidParam, none, none)
  else
    let written := if sizeWritten then some mFormat.size else none
    if wfx then
      if sizeAllocated < mFormat.size then (.invalidParam, none, written)
      else (.ok, some mFormat.reported, written)
    else (.ok, none, written)

/-- `DSCBuffer::GetFormat`, which writes the size last. -/
def getCaptureFormat (mWaveFmt : WaveFormat) (wfx : Bool) (sizeAllocated : UInt32)
    (sizeWritten : Bool) : HResult × Option (List UInt8) × Option UInt32 :=
  if !wfx ∧ !sizeWritten then (.invalidParam, none, none)
  else if wfx ∧ sizeAllocated < mWaveFmt.size then (.invalidParam, none, none)
  else
    (.ok, if wfx then some mWaveFmt.reported else none,
      if sizeWritten then some mWaveFmt.size else none)

/-! ## Bytes and formats -/

variable {format : WaveFormat}

@[simp] theorem length_formatBytes : format.formatBytes.length = sizeofFormat := by
  simp [formatBytes, sizeofFormat]

@[simp] theorem length_extensionBytes :
    format.extensionBytes.length = extExtraSize.toNat := by
  cases h : format.subFormat <;> simp [extensionBytes, h, SubFormat.bytes, extExtraSize]

/-- The header of a format is read off its bytes, whatever follows. -/
theorem ofBytes_append (rest : List UInt8) :
    ofBytes (format.formatBytes ++ rest) = { format with
      wValidBitsPerSample := (Packed.readWord rest).1
      dwChannelMask := (Packed.readDword (Packed.readWord rest).2).1
      subFormat := SubFormat.ofBytes
        ((Packed.readDword (Packed.readWord rest).2).2.take 16) } := by
  simp [ofBytes, formatBytes]

theorem ofBytes_subFormat (sub : SubFormat) : SubFormat.ofBytes (sub.bytes.take 16) = sub := by
  cases sub <;> rfl

/-- A format with its extension is read off its bytes. -/
theorem ofBytes_bytes : ofBytes format.bytes = format := by
  rw [bytes, ofBytes_append, extensionBytes, Packed.readWord_append, Packed.readDword_append,
    ofBytes_subFormat]

/-- A stored format: an extensible one has its whole extension, a plain one has none. -/
def Stored (format : WaveFormat) : Prop :=
  (format.wFormatTag = formatExtensible ∧ format.cbSize = extExtraSize) ∨
    (format.wFormatTag ≠ formatExtensible ∧ format.cbSize = 0 ∧ format.wValidBitsPerSample = 0 ∧
      format.dwChannelMask = 0 ∧ format.subFormat = .other)

theorem Stored.not_short (h : format.Stored) :
    ¬ (format.wFormatTag = formatExtensible ∧ format.cbSize < extExtraSize) := by
  rintro ⟨hext, hshort⟩
  rcases h with ⟨-, hsize⟩ | ⟨hplain, -⟩
  · rw [hsize] at hshort
    exact absurd hshort (by decide)
  · exact hplain hext

theorem Stored.not_long (h : format.Stored) :
    ¬ (format.wFormatTag = formatExtensible ∧ format.cbSize > extExtraSize) := by
  rintro ⟨hext, hlong⟩
  rcases h with ⟨-, hsize⟩ | ⟨hplain, -⟩
  · rw [hsize] at hlong
    exact absurd hlong (by decide)
  · exact hplain hext

/-- **Round trip.**  What is reported of a stored format is read as that format. -/
theorem ofBytes_reported (h : format.Stored) : ofBytes format.reported = format := by
  rcases h with ⟨-, hsize⟩ | ⟨-, hsize, hvalid, hmask, hsub⟩
  · have hlength : format.bytes.length = format.size.toNat := by
      rw [bytes, List.length_append, length_formatBytes, length_extensionBytes, size, hsize]
      rfl
    rw [reported, ← hlength, List.take_length, ofBytes_bytes]
  · have hlength : format.formatBytes.length = format.size.toNat := by
      rw [length_formatBytes, size, hsize]
      rfl
    rw [reported, bytes, List.take_left' hlength, ← List.append_nil format.formatBytes,
      ofBytes_append, Packed.readWord_nil, Packed.readDword_nil]
    simp only [List.take_nil, ← hvalid, ← hmask]
    rw [show SubFormat.ofBytes [] = format.subFormat from hsub ▸ rfl]

/-- A buffer of the reported size gets the whole format. -/
theorem getFormat_reported (sizeWritten : Bool) :
    format.getFormat true format.size sizeWritten =
      (.ok, some format.reported, if sizeWritten then some format.size else none) := by
  simp [getFormat]

theorem getCaptureFormat_reported (sizeWritten : Bool) :
    format.getCaptureFormat true format.size sizeWritten =
      (.ok, some format.reported, if sizeWritten then some format.size else none) := by
  simp [getCaptureFormat]

end WaveFormat

end Dsoal
