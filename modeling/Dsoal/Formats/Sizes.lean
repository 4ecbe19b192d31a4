import Mathlib.Algebra.Order.Floor.Div
import Dsoal.Core.ALFormat
import Dsoal.Formats.Arithmetic
import Dsoal.Playback.Track

/-!
# The size of a shared buffer

The size is the requested number of bytes rounded up to whole frames.  The code rounds in
32 bits.  Where that wraps around, what is left is less than a frame and is rounded down to
nothing, so that the request is rejected as too small: every accepted size is the exact one.

A frame has the same size in the header, in the tables the format is converted with and in
OpenAL.
-/

namespace Dsoal

/-! ## Rounding up -/

/-- The multiple of `a` above `n` that ceiling division finds is the least. -/
theorem isLeast_mul_ceilDiv {a : ℕ} (ha : 0 < a) (n : ℕ) :
    IsLeast {m | a ∣ m ∧ n ≤ m} (a * (n ⌈/⌉ a)) := by
  refine ⟨⟨Nat.dvd_mul_right _ _, le_smul_ceilDiv ha⟩, ?_⟩
  rintro _ ⟨⟨k, rfl⟩, hk⟩
  exact Nat.mul_le_mul_left a ((ceilDiv_le_iff_le_mul ha).mpr hk)

/-- The size is the exact one, or nothing is left of it. -/
theorem toNat_bufferSize (dwBufferBytes : UInt32) {nBlockAlign : UInt16} (h : nBlockAlign ≠ 0) :
    (bufferSize dwBufferBytes nBlockAlign).toNat =
      if dwBufferBytes.toNat + nBlockAlign.toNat - 1 < 2 ^ 32 then
        nBlockAlign.toNat * (dwBufferBytes.toNat ⌈/⌉ nBlockAlign.toNat)
      else 0 := by
  have ha : 0 < nBlockAlign.toNat := Nat.pos_of_ne_zero fun h0 ↦ h (UInt16.toNat_inj.mp h0)
  have ha' := nBlockAlign.toNat_lt
  have hn := dwBufferBytes.toNat_lt
  -- what is rounded down, in 32 bits
  obtain ⟨n, hdef⟩ : ∃ n, n = dwBufferBytes + nBlockAlign.toUInt32 - 1 := ⟨_, rfl⟩
  have htoNat : n.toNat = (dwBufferBytes.toNat + nBlockAlign.toNat - 1) % 2 ^ 32 := by
    rw [hdef, UInt32.toNat_sub, UInt32.toNat_add, UInt16.toNat_toUInt32, UInt32.toNat_one]
    omega
  have hsize : (bufferSize dwBufferBytes nBlockAlign).toNat =
      nBlockAlign.toNat * (n.toNat / nBlockAlign.toNat) := by
    have hle : n % nBlockAlign.toUInt32 ≤ n := by
      rw [UInt32.le_iff_toNat_le, UInt32.toNat_mod]
      exact Nat.mod_le _ _
    have hdiv := Nat.div_add_mod n.toNat nBlockAlign.toNat
    rw [bufferSize, ← hdef, UInt32.toNat_sub_of_le _ _ hle, UInt32.toNat_mod,
      UInt16.toNat_toUInt32]
    omega
  rw [hsize, Nat.ceilDiv_eq_add_pred_div]
  split_ifs with hlt
  · rw [htoNat, Nat.mod_eq_of_lt hlt]
  · -- less than a frame is left after the wrap
    rw [Nat.div_eq_of_lt (by omega), Nat.mul_zero]

/-! ## The frames of a converted format -/

theorem size_of_sampleType {tag bits : UInt16} {t : SampleType} (h : sampleType tag bits = some t) :
    t.size * 8 = bits.toNat := by
  unfold sampleType at h
  split_ifs at h with _ h8 h16 _ h32 <;> cases h
  · rw [h8]; rfl
  · rw [h16]; rfl
  · rw [h32]; rfl

theorem size_of_subFormat {sub : SubFormat} {bits : UInt16} {t : SampleType}
    (h : subFormatSampleType sub bits = some t) : t.size * 8 = bits.toNat := by
  cases sub with
  | pcm => exact size_of_sampleType h
  | ieeeFloat => exact size_of_sampleType h
  | other => cases h

/-- One comparison of the number of channels in `channelConfig`. -/
theorem count_of_ite {n k : UInt16} {c c' : ChannelConfig} {rest : Option ChannelConfig}
    (hk : c'.count = k.toNat) (hrest : rest = some c → c.count = n.toNat)
    (h : (if n = k then some c' else rest) = some c) : c.count = n.toNat := by
  split_ifs at h with hn
  · obtain rfl := Option.some.inj h
    rw [hk, hn]
  · exact hrest h

/-- One comparison of the channel mask in `channelConfig`. -/
theorem of_mask {p : Prop} [Decidable p] {a b : Option ChannelConfig} {c : ChannelConfig}
    {P : Prop} (ha : a = some c → P) (hb : b = some c → P) (h : (if p then a else b) = some c) :
    P := by
  split_ifs at h
  exacts [ha h, hb h]

theorem count_of_channelConfig {mask : UInt32} {nChannels : UInt16} {c : ChannelConfig}
    (h : channelConfig mask nChannels = some c) : c.count = nChannels.toNat := by
  have hnone : (none : Option ChannelConfig) = some c → c.count = nChannels.toNat := by
    rintro ⟨⟩
  unfold channelConfig at h
  refine of_mask (count_of_ite rfl hnone) ?_ h
  refine of_mask (count_of_ite rfl hnone) ?_
  refine of_mask (count_of_ite rfl hnone) ?_
  refine of_mask (count_of_ite rfl hnone) ?_
  refine of_mask (count_of_ite rfl hnone) ?_
  refine of_mask (count_of_ite rfl hnone) ?_
  refine of_mask (count_of_ite rfl ?_) hnone
  refine count_of_ite rfl ?_
  refine count_of_ite rfl ?_
  refine count_of_ite rfl ?_
  exact count_of_ite rfl hnone

/-- The conversion decides on samples and channels whose size is that of the header. -/
theorem size_of_convertAny {src dst : WaveFormat} {t : SampleType} {c : ChannelConfig}
    (h : convertAny src = some (dst, t, c)) :
    t.size * 8 = src.wBitsPerSample.toNat ∧ c.count = src.nChannels.toNat := by
  unfold convertAny at h
  split_ifs at h
  · obtain ⟨-, hc, ht⟩ := convertFormatExtensible_cases h
    exact ⟨size_of_subFormat ht, count_of_channelConfig hc⟩
  · obtain ⟨-, ht, ⟨h1, rfl⟩ | ⟨h2, rfl⟩⟩ := convertFormat_cases h
    · exact ⟨size_of_sampleType ht, by rw [h1]; rfl⟩
    · exact ⟨size_of_sampleType ht, by rw [h2]; rfl⟩

/-! ## The size that is allocated -/

namespace SharedBuffer

variable {bufferDesc : BufferDesc} {format : WaveFormat} {exts : Extensions} {warn memory : Bool}

/-- What a shared buffer is created from, and the checks on the way. -/
theorem createAL_cases {sb : SharedBuffer} {al : ALBuffer}
    (h : createAL bufferDesc format exts warn memory = .ok (sb, al)) :
    Check.run (format.sharedBufferChecks warn) = .ok () ∧
      sizeMin ≤ sb.dataSize ∧ sb.dataSize ≤ sizeMax ∧
      sb.dataSize = bufferSize bufferDesc.dwBufferBytes format.nBlockAlign ∧
      al.size = sb.dataSize ∧ ∃ t c, convertAny format = some (sb.mWfxFormat, t, c) ∧
        getALFormat t c exts = some al.format := by
  simp only [createAL] at h
  split at h
  · contradiction
  · rename_i hrun
    split_ifs at h with _ hsmall hlarge
    split at h
    · contradiction
    · rename_i mWfxFormat t c hc
      split at h
      · contradiction
      · rename_i mAlFormat hal
        cases h
        exact ⟨hrun, UInt32.not_lt.mp hsmall, UInt32.not_lt.mp hlarge, rfl, rfl, t, c, hc, hal⟩

/-- Apart from the arithmetic and the buffer of OpenAL this is `create`. -/
theorem map_createAL :
    (createAL bufferDesc format exts warn memory).map Prod.fst =
      create bufferDesc format exts memory := by
  have hchecks : Check.run (format.sharedBufferChecks warn) = .ok () ↔
      validFormat format = true ∧ format.nAvgBytesPerSec ≠ 0 :=
    WaveFormat.run_sharedBufferChecks_iff
  match hrun : Check.run (format.sharedBufferChecks warn) with
  | .error hr =>
    obtain ⟨check, hmem, rfl⟩ := Check.exists_of_run_eq_error hrun
    have herror : check.error = .invalidParam := by
      simp only [WaveFormat.sharedBufferChecks, List.mem_cons, List.not_mem_nil, or_false] at hmem
      rcases hmem with rfl | rfl | rfl | rfl | rfl | rfl | rfl <;> rfl
    have hfail : ¬ (validFormat format = true ∧ format.nAvgBytesPerSec ≠ 0) := by
      rw [← hchecks, hrun]
      rintro ⟨⟩
    simp only [createAL, hrun, create, Except.map, herror]
    by_cases hvalid : validFormat format = true
    · have hrate : format.nAvgBytesPerSec = 0 := by simpa [hvalid] using hfail
      simp [hvalid, hrate]
    · simp [hvalid]
  | .ok () =>
    obtain ⟨hvalid, hrate⟩ := hchecks.mp hrun
    simp only [createAL, hrun, create, hvalid, hrate, if_false, Bool.not_true, Bool.false_eq_true]
    split_ifs
    any_goals rfl
    match convertAny format with
    | none => rfl
    | some (mWfxFormat, t, c) =>
      have hal := isSome_getALFormat t c exts
      match h : getALFormat t c exts with
      | none => simp [← hal, h, Except.map]
      | some mAlFormat => simp [← hal, h, Except.map]

/-- The sizes `Create` allocates are exact. -/
theorem toNat_dataSize {sb : SharedBuffer} {al : ALBuffer}
    (h : createAL bufferDesc format exts warn memory = .ok (sb, al)) :
    sb.dataSize.toNat =
      format.nBlockAlign.toNat * (bufferDesc.dwBufferBytes.toNat ⌈/⌉ format.nBlockAlign.toNat) := by
  obtain ⟨hrun, hmin, -, hsize, -⟩ := createAL_cases h
  have hvalid := (WaveFormat.run_sharedBufferChecks_iff.mp hrun).1
  have hblock := (WaveFormat.validFormat_iff.mp hvalid).1.nBlockAlign
  have hround := toNat_bufferSize bufferDesc.dwBufferBytes hblock
  split_ifs at hround
  · rw [hsize, hround]
  · -- a request that wraps around is too small
    rw [hsize, UInt32.le_iff_toNat_le, hround] at hmin
    exact absurd hmin (by decide)

end SharedBuffer

/-- **`SharedBuffer::Create` allocates what was asked for**, rounded up to whole frames: the size
is the least multiple of the block alignment that is large enough, it is in range, and OpenAL
takes the frames to be of the size that the stored format says.  A request that is too large
when rounded up fails, also if the sum in 32 bits wraps around. -/
theorem create_allocates (bufferDesc : BufferDesc) (format : WaveFormat) (exts : Extensions)
    (warn memory : Bool) :
    (∀ sb al, SharedBuffer.createAL bufferDesc format exts warn memory = .ok (sb, al) →
      IsLeast {n | format.nBlockAlign.toNat ∣ n ∧ bufferDesc.dwBufferBytes.toNat ≤ n}
        sb.dataSize.toNat ∧
      sizeMin ≤ sb.dataSize ∧ sb.dataSize ≤ sizeMax ∧ al.size = sb.dataSize ∧
      al.format.channels * al.format.sampleSize = sb.mWfxFormat.nBlockAlign.toNat ∧
      sb.mWfxFormat.nBlockAlign = format.nBlockAlign) ∧
    ∀ n, IsLeast {n | format.nBlockAlign.toNat ∣ n ∧ bufferDesc.dwBufferBytes.toNat ≤ n} n →
      sizeMax.toNat < n →
        ∃ hr, SharedBuffer.createAL bufferDesc format exts warn memory = .error hr := by
  refine ⟨fun sb al h ↦ ?_, fun n hn hlarge ↦ ?_⟩
  · obtain ⟨hrun, hmin, hmax, -, halsize, t, c, hc, hal⟩ := SharedBuffer.createAL_cases h
    obtain ⟨hfields, hframe⟩ :=
      WaveFormat.validFormat_iff.mp (WaveFormat.run_sharedBufferChecks_iff.mp hrun).1
    obtain ⟨hsize, hchannels⟩ := getALFormat_spec hal
    obtain ⟨hbits, hcount⟩ := size_of_convertAny hc
    have hkeeps := (convertAny_keeps hc).2
    have hleast := isLeast_mul_ceilDiv hfields.blockAlign_pos bufferDesc.dwBufferBytes.toNat
    refine ⟨SharedBuffer.toNat_dataSize h ▸ hleast, hmin, hmax, halsize, ?_, hkeeps⟩
    rw [hkeeps, hsize, hchannels, hcount]
    refine Nat.eq_of_mul_eq_mul_right (by decide : 0 < 8) ?_
    rw [Nat.mul_assoc, hbits]
    exact hframe.symm
  · match h : SharedBuffer.createAL bufferDesc format exts warn memory with
    | .error hr => exact ⟨hr, rfl⟩
    | .ok (sb, al) =>
      obtain ⟨hrun, -, hmax, -⟩ := SharedBuffer.createAL_cases h
      have hfields :=
        (WaveFormat.validFormat_iff.mp (WaveFormat.run_sharedBufferChecks_iff.mp hrun).1).1
      have hleast := isLeast_mul_ceilDiv hfields.blockAlign_pos bufferDesc.dwBufferBytes.toNat
      rw [UInt32.le_iff_toNat_le, SharedBuffer.toNat_dataSize h, hleast.unique hn] at hmax
      exact absurd hmax (Nat.not_le.mpr hlarge)

end Dsoal
