import Dsoal.Core.Methods

/-!
# What the methods of a buffer do

Each method that makes several checks, with all that can happen in it.  What a method leaves
alone, and what it keeps, is read off these cases.
-/

namespace Dsoal

namespace Buffer

variable {exts : Extensions} {parent : Parent} {b b' : Buffer} {dev dev' : DeviceSources}
  {hr : HResult} {want : LocStatus}

/-! ## Locations -/

theorem leaveLocation_eq (b : Buffer) (dev : DeviceSources) :
    (b.leaveLocation dev).1 =
      { b with
        mSource := if b.mLocStatus = .none then b.mSource else none
        mLocStatus := .none } := by
  unfold leaveLocation
  split <;> simp_all
  rename_i h
  rw [← h]

/-- **`setLocation`** does nothing, gives up the location, or finds another. -/
theorem setLocation_cases (hc : b.setLocation parent dev want = some (hr, b', dev')) :
    (hr = .ok ∧ b' = b ∧ dev' = dev) ∨
    (hr = .allocated ∧ b' = (b.leaveLocation dev).1 ∧ dev' = (b.leaveLocation dev).2) ∨
    ∃ k sb, (b.leaveLocation dev).2.acquire want = some (k, dev') ∧
      (b.leaveLocation dev).1.mBuffer = some sb ∧ hr = .ok ∧
      b' = { (b.leaveLocation dev).1.genSource.writeSource
          ((b.leaveLocation dev).1.genSource.locationWrites parent sb) with
        mLocStatus := .loc k } := by
  unfold setLocation at hc
  split at hc
  · cases hc
    exact .inl ⟨rfl, rfl, rfl⟩
  split at hc
  · cases hc
    exact .inl ⟨rfl, rfl, rfl⟩
  cases ha : (b.leaveLocation dev).2.acquire want with
  | none =>
      simp only [ha] at hc
      cases hc
      exact .inr (.inl ⟨rfl, rfl, rfl⟩)
  | some kd =>
      simp only [ha] at hc
      obtain ⟨sb, hsb, hc⟩ := Option.bind_eq_some_iff.mp hc
      cases hc
      exact .inr (.inr ⟨kd.1, sb, rfl, hsb, rfl, rfl⟩)

/-- It changes the source and the location. -/
theorem setLocation_eq (hc : b.setLocation parent dev want = some (hr, b', dev')) :
    ∃ src loc, b' = { b with mSource := src, mLocStatus := loc } := by
  have hleave := leaveLocation_eq b dev
  obtain ⟨-, rfl, -⟩ | ⟨-, rfl, -⟩ | ⟨k, sb, -, -, -, rfl⟩ := setLocation_cases hc
  · exact ⟨_, _, rfl⟩
  · exact ⟨_, _, hleave⟩
  · rw [hleave]
    exact ⟨_, _, rfl⟩

/-- `Play` and `AcquireResources` ask `setLocation` for a location, unless they are given two
or would move a buffer that is playing. -/
theorem deferredLocation_asks {flags : UInt32}
    (hc : b.deferredLocation parent dev flags = some (hr, b', dev')) :
    b' = b ∨ b.setLocation parent dev (wantedLocation flags) = some (hr, b', dev') ∧
      ¬ (wantedLocation flags ≠ .none ∧ b.mLocStatus ≠ .none ∧
        wantedLocation flags ≠ b.mLocStatus ∧ isPlaying b.mSource) := by
  unfold Buffer.deferredLocation at hc
  split at hc
  · cases hc
    exact .inl rfl
  dsimp only at hc
  split at hc
  · cases hc
    exact .inl rfl
  · rename_i hplaying
    exact .inr ⟨hc, hplaying⟩

theorem deferredLocation_eq {flags : UInt32}
    (hc : b.deferredLocation parent dev flags = some (hr, b', dev')) :
    ∃ src loc, b' = { b with mSource := src, mLocStatus := loc } := by
  obtain rfl | ⟨hset, -⟩ := deferredLocation_asks hc
  · exact ⟨_, _, rfl⟩
  · exact setLocation_eq hset

theorem acquireResources_asks {flags effectsCount : UInt32} {resultCodes : Bool}
    (hc : b.acquireResources parent dev flags effectsCount resultCodes = some (hr, b', dev')) :
    b' = b ∨ b.deferredLocation parent dev flags = some (hr, b', dev') := by
  unfold Buffer.acquireResources at hc
  split at hc
  · cases hc
    exact .inl rfl
  split at hc
  · cases hc
    exact .inl rfl
  obtain ⟨sb, -, hc⟩ := Option.bind_eq_some_iff.mp hc
  split at hc
  · exact .inr hc
  · cases hc
    exact .inl rfl

theorem initLocation_eq (hc : b.initLocation parent dev = some (hr, b', dev')) :
    b.mBuffer.isSome ∧ ∃ src loc,
      b' = { b with mSource := src, mLocStatus := loc, mIsInitialized := hr.succeeded } := by
  obtain ⟨sb, hsb, hc⟩ := Option.bind_eq_some_iff.mp hc
  refine ⟨by simp [hsb], ?_⟩
  dsimp only at hc
  split at hc
  · cases hc
    exact ⟨_, _, rfl⟩
  · obtain ⟨⟨hr₁, b₁, dev₁⟩, hset, hc⟩ := Option.bind_eq_some_iff.mp hc
    cases hc
    obtain ⟨src, loc, rfl⟩ := setLocation_eq hset
    exact ⟨_, _, rfl⟩

/-! ## Playing -/

/-- Starting a buffer changes its source, but no attribute of it, and the last position. -/
theorem start_eq {sb : SharedBuffer} {flags : UInt32} {started notify : Bool}
    (hc : b.start sb flags started = (hr, b', notify)) :
    ∃ source lastPos, source.map Source.attrs = b.mSource.map Source.attrs ∧
      b' = { b with mSource := source, mLastPos := lastPos } := by
  unfold start at hc
  cases hs : b.mSource with
  | none =>
      simp only [hs] at hc
      cases hc
      exact ⟨none, _, rfl, rfl⟩
  | some src =>
      simp only [hs] at hc
      split at hc
      · cases hc
        refine ⟨_, b.mLastPos, ?_, rfl⟩
        rfl
      split at hc
      all_goals
        cases hc
        refine ⟨_, _, ?_, rfl⟩
        split <;> rfl

/-- **`Play`** of a buffer that is not lost may locate it, and then starts it, unless it refuses
to or finds no location. -/
theorem play_asks {priority flags : UInt32} {started notify : Bool}
    (hc : b.play parent dev priority flags started = some (hr, b', dev', notify)) :
    b' = b ∧ notify = false ∨
    ∃ sb b₁, b.mBuffer = some sb ∧ b.mBufferLost = false ∧
      (b₁ = b ∨ ∃ hr₁, b.deferredLocation parent dev flags = some (hr₁, b₁, dev')) ∧
      (b' = b₁ ∧ notify = false ∨ b₁.start sb flags started = (hr, b', notify)) := by
  unfold Buffer.play at hc
  split at hc
  · cases hc
    exact .inl ⟨rfl, rfl⟩
  rename_i hl
  have hl : b.mBufferLost = false := Bool.eq_false_iff.mpr hl
  obtain ⟨sb, hsb, hc⟩ := Option.bind_eq_some_iff.mp hc
  split at hc
  · obtain ⟨⟨hr₁, b₁, dev₁⟩, hloc, hc⟩ := Option.bind_eq_some_iff.mp hc
    dsimp only at hc
    split at hc
    · cases hc
      exact .inr ⟨sb, b', hsb, hl, .inr ⟨hr, hloc⟩, .inl ⟨rfl, rfl⟩⟩
    · cases hc
      exact .inr ⟨sb, b₁, hsb, hl, .inr ⟨hr₁, hloc⟩, .inr rfl⟩
  split at hc
  · cases hc
    exact .inl ⟨rfl, rfl⟩
  · cases hc
    exact .inr ⟨sb, b, hsb, hl, .inl rfl, .inr rfl⟩

/-! ## Parameters -/

/-- **`SetVolume`.** -/
theorem setVolume_cases {volume : Int32} (hc : b.setVolume volume = some (hr, b')) :
    (hr ≠ .ok ∧ b' = b) ∨
    ∃ sb, b.mBuffer = some sb ∧ hr = .ok ∧
      b' = { b with mVolume := volume }.writeSource [(.gain, .float (mBToGain volume))] := by
  unfold setVolume at hc
  split at hc
  · cases hc
    exact .inl ⟨nofun, rfl⟩
  obtain ⟨sb, hsb, hc⟩ := Option.bind_eq_some_iff.mp hc
  split at hc
  · cases hc
    exact .inl ⟨nofun, rfl⟩
  · cases hc
    exact .inr ⟨sb, hsb, rfl, rfl⟩

/-- **`SetPan`.**  The attribute is only set if the source is panned. -/
theorem setPan_cases {pan : Int32} (hc : b.setPan parent pan = some (hr, b')) :
    (hr ≠ .ok ∧ b' = b) ∨
    ∃ sb, b.mBuffer = some sb ∧ hr = .ok ∧
      (hasFlag sb.mFlags Caps.ctrl3D = false ∧ parent.mExtensions.sourcePanning = true ∧
          b' = { b with mPan := pan }.writeSource [(.pan, .float (panValue pan))] ∨
        (hasFlag sb.mFlags Caps.ctrl3D = false → ¬ parent.mExtensions.sourcePanning) ∧
          b' = { b with mPan := pan }) := by
  unfold setPan at hc
  split at hc
  · cases hc
    exact .inl ⟨nofun, rfl⟩
  obtain ⟨sb, hsb, hc⟩ := Option.bind_eq_some_iff.mp hc
  split at hc
  · cases hc
    exact .inl ⟨nofun, rfl⟩
  refine .inr ⟨sb, hsb, ?_⟩
  split at hc
  · rename_i hp
    cases hc
    exact ⟨rfl, .inl ⟨by simpa using hp.1, hp.2, rfl⟩⟩
  · rename_i hp
    cases hc
    exact ⟨rfl, .inr ⟨fun h3 hpanning ↦ hp ⟨by simp [h3], hpanning⟩, rfl⟩⟩

/-- **`SetFrequency`.** -/
theorem setFrequency_cases {frequency : UInt32} (hc : b.setFrequency frequency = some (hr, b')) :
    (hr ≠ .ok ∧ b' = b) ∨
    ∃ sb, b.mBuffer = some sb ∧ hr = .ok ∧
      b' = { b with
          mFrequency := if frequency ≠ 0 then frequency else sb.mWfxFormat.nSamplesPerSec
        }.writeSource [(.pitch, .float (floatOfDword
          (if frequency ≠ 0 then frequency else sb.mWfxFormat.nSamplesPerSec) /
            floatOfDword sb.mWfxFormat.nSamplesPerSec))] := by
  unfold setFrequency at hc
  split at hc
  · cases hc
    exact .inl ⟨nofun, rfl⟩
  obtain ⟨sb, hsb, hc⟩ := Option.bind_eq_some_iff.mp hc
  split at hc
  · cases hc
    exact .inl ⟨nofun, rfl⟩
  · cases hc
    exact .inr ⟨sb, hsb, rfl, rfl⟩

/-! ## Initialization -/

/-- Where `Buffer::Initialize` has its storage from. -/
theorem storage_cases {desc : Option BufferDesc} {memory : Bool} {sb : SharedBuffer}
    (hs : b.storage exts desc memory = .ok sb) :
    b.mBuffer = some sb ∨
    b.mBuffer = none ∧ ∃ d format, desc = some d ∧ d.lpwfxFormat = some format ∧
      SharedBuffer.create d format exts memory = .ok sb := by
  unfold storage at hs
  split at hs
  · rename_i hb
    cases hs
    exact .inl hb
  · cases hs
  · rename_i d hb
    split at hs
    · cases hs
    · rename_i format hf
      split at hs
      · cases hs
      · exact .inr ⟨hb, d, format, rfl, hf, hs⟩

/-- It fails with an error. -/
theorem storage_error {desc : Option BufferDesc} {memory : Bool}
    (hs : b.storage exts desc memory = .error hr) : hr ≠ .ok := by
  unfold storage at hs
  split at hs
  · cases hs
  · cases hs
    decide
  · split at hs
    · cases hs
      decide
    · split at hs
      · cases hs
        decide
      · exact SharedBuffer.create_error hs

/-- **The first half of `Buffer::Initialize`** finds the storage and the frequency. -/
theorem attach_cases {desc : Option BufferDesc} {memory : Bool}
    (ha : b.attach exts desc memory = .ok b') :
    b.mIsInitialized = false ∧ ∃ sb, b.storage exts desc memory = .ok sb ∧
      b' = { b with
        mBuffer := some sb
        mFrequency := if b.mFrequency = 0 then sb.mWfxFormat.nSamplesPerSec
          else b.mFrequency } := by
  unfold attach at ha
  split at ha
  · cases ha
  rename_i hinit
  cases hs : b.storage exts desc memory with
  | error hr =>
      rw [hs] at ha
      cases ha
  | ok sb =>
      rw [hs] at ha
      cases ha
      exact ⟨by simpa using hinit, sb, rfl, rfl⟩

/-- It changes the storage and the frequency. -/
theorem attach_eq {desc : Option BufferDesc} {memory : Bool}
    (ha : b.attach exts desc memory = .ok b') :
    ∃ sb frequency, b' = { b with mBuffer := some sb, mFrequency := frequency } := by
  obtain ⟨-, sb, -, rfl⟩ := attach_cases ha
  exact ⟨sb, _, rfl⟩

/-- A failure of the first half of `Buffer::Initialize` is not a success code. -/
theorem attach_error {desc : Option BufferDesc} {memory : Bool}
    (ha : b.attach exts desc memory = .error hr) : hr ≠ .ok := by
  unfold attach at ha
  split at ha
  · cases ha
    decide
  cases hs : b.storage exts desc memory with
  | ok sb =>
      rw [hs] at ha
      cases ha
  | error hr₁ =>
      rw [hs] at ha
      cases ha
      exact storage_error hs

/-- A new buffer has the flags of its description. -/
theorem attach_flags {born : ℕ} {is8 : Bool} {desc : BufferDesc} {memory : Bool}
    (ha : (fresh born is8).attach exts (some desc) memory = .ok b) :
    ∃ sb, b.mBuffer = some sb ∧ sb.mFlags = desc.dwFlags := by
  obtain ⟨-, sb, hs, rfl⟩ := attach_cases ha
  obtain hb | ⟨-, d, format, hd, -, hcreate⟩ := storage_cases hs
  · cases hb
  · cases hd
    exact ⟨sb, rfl, (SharedBuffer.create_ok hcreate).1⟩

end Buffer

end Dsoal
