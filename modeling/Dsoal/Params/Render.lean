import Dsoal.Params.Setters

/-!
# Sources show the state of their buffers

`render` says, attribute by attribute, what the source of a buffer has to be set to
for the state of the buffer.  The program never computes it: it writes all of it
when it locates a buffer (`setLocation`), and keeps it up to date with the writes
of the single calls.

`Buffer.Ok` is the invariant of one buffer.  For each method of a buffer there is
a lemma that it keeps `Buffer.Ok` and a lemma that it keeps what other parts of the
object rely on, `Buffer.Persists`.

Every attribute that can be written at all is written when a source is located, so
that what a source without location has been given does not matter; the others, the
`spare` ones, keep their defaults.
-/

namespace Dsoal

open Store

/-! ## The rendering of a buffer -/

/-- The attributes of the source of a 3D buffer, apart from gain and pitch. -/
def render3D (exts : Extensions) (rolloff : Float32) (imm : DS3DBuffer) : SourceAttrs
  | .position => .vector (if imm.dwMode = Mode.disable then ⟨0, 0, -1⟩ else imm.vPosition.flipZ)
  | .velocity => .vector (if imm.dwMode = Mode.disable then ⟨0, 0, 0⟩ else imm.vVelocity.flipZ)
  | .direction =>
    .vector (if imm.dwMode = Mode.disable then ⟨0, 0, 0⟩ else imm.vConeOrientation.flipZ)
  | .rolloffFactor => .float (if imm.dwMode = Mode.disable then 0 else rolloff)
  | .sourceSpatialize =>
    if exts.sourceSpatialize then .bool (imm.dwMode ≠ Mode.disable) else .auto
  | .sourceRelative => .bool (imm.dwMode ≠ Mode.normal)
  | .coneInnerAngle => .float (floatOfDword imm.dwInsideConeAngle)
  | .coneOuterAngle => .float (floatOfDword imm.dwOutsideConeAngle)
  | .coneOuterGain => .float (mBToGain imm.lConeOutsideVolume)
  | .referenceDistance => .float imm.flMinDistance
  | .maxDistance => .float imm.flMaxDistance
  | k => defaultAttrs k

/-- The attributes of the source of a buffer that is not 3D, apart from gain and
pitch. -/
def renderFlat (exts : Extensions) (pan : Int32) : SourceAttrs
  | .rolloffFactor => .float 0
  | .sourceRelative => .bool true
  | .panningEnabled => .bool exts.sourcePanning
  | .pan => .float (if exts.sourcePanning then panValue pan else 0)
  | k => defaultAttrs k

/-- The attributes of the source of the buffer `b` with the storage `sb`, for the
rolloff factor of the listener. -/
def Buffer.render (exts : Extensions) (rolloff : Float32) (b : Buffer) (sb : SharedBuffer) :
    SourceAttrs
  | .gain => .float (mBToGain b.mVolume)
  | .pitch => .float (floatOfDword b.mFrequency / floatOfDword sb.mWfxFormat.nSamplesPerSec)
  | k =>
    if hasFlag sb.mFlags Caps.ctrl3D then render3D exts rolloff b.mImmediate k
    else renderFlat exts b.mPan k

/-- The attributes that are never set for a buffer. -/
def spare (exts : Extensions) (is3D : Bool) : SourceAttr → Bool
  | .gain | .pitch | .rolloffFactor | .sourceRelative => false
  | .sourceSpatialize => !(is3D && exts.sourceSpatialize)
  | .panningEnabled | .pan => is3D || !exts.sourcePanning
  | _ => !is3D

namespace Buffer

variable {exts : Extensions} {parent : Parent} {rolloff : Float32} {b b' : Buffer}
  {sb : SharedBuffer} {a : SourceAttrs} {ws : SourceWrites}

/-- **Locating a buffer renders it**, whatever had been written to its source. -/
theorem write_locationWrites (hfreq : b.mFrequency ≠ 0)
    (hspare : ∀ k, spare parent.mExtensions (hasFlag sb.mFlags Caps.ctrl3D) k →
      a k = defaultAttrs k) :
    write (b.locationWrites parent sb) a =
      b.render parent.mExtensions parent.rolloffFactor sb := by
  funext k
  have hk := hspare k
  clear hspare
  rw [write_apply]
  rcases h3 : hasFlag sb.mFlags Caps.ctrl3D with _ | _
  all_goals
    rw [h3] at hk
    simp only [locationWrites, h3]
  · rcases hp : parent.mExtensions.sourcePanning with _ | _
    all_goals
      cases k <;> simp_all [last_cons, render, renderFlat, spare, defaultAttrs]
  · rcases hs : parent.mExtensions.sourceSpatialize with _ | _
    all_goals
      cases k <;> simp_all [last_append, last_cons, last_modeWrites, render, render3D, spare,
        defaultAttrs]

/-- What is known of the attributes of the source of a buffer. -/
structure Shows (exts : Extensions) (rolloff : Float32) (b : Buffer) (sb : SharedBuffer)
    (a : SourceAttrs) : Prop where
  spare : ∀ k, spare exts (hasFlag sb.mFlags Caps.ctrl3D) k → a k = defaultAttrs k
  located : b.mLocStatus ≠ .none → a = b.render exts rolloff sb

/-- Writes that turn the rendering of one state into the rendering of another. -/
theorem Shows.write {rolloff' : Float32} (h : b.Shows exts rolloff sb a)
    (hloc : b'.mLocStatus = b.mLocStatus)
    (hspare : ∀ k, Dsoal.spare exts (hasFlag sb.mFlags Caps.ctrl3D) k → last ws k = none)
    (hrender : ∀ k, (last ws k).getD (b.render exts rolloff sb k) = b'.render exts rolloff' sb k) :
    b'.Shows exts rolloff' sb (write ws a) := by
  constructor
  · intro k hk
    rw [write_apply, hspare k hk]
    exact h.spare k hk
  · intro hl
    funext k
    rw [write_apply, h.located (hloc ▸ hl), hrender]

/-! ## The invariant of a buffer -/

/-- The invariant of a buffer whose storage is known. -/
structure Ok (exts : Extensions) (rolloff : Float32) (b : Buffer) : Prop where
  storage : ∃ sb, b.mBuffer = some sb ∧ frequencyMin ≤ sb.mWfxFormat.nSamplesPerSec
  frequency : b.mFrequency ≠ 0
  cones : b.mImmediate.dwInsideConeAngle ≤ maxConeAngle ∧
    b.mImmediate.dwOutsideConeAngle ≤ maxConeAngle
  deferredCones : b.mDeferred.dwInsideConeAngle ≤ maxConeAngle ∧
    b.mDeferred.dwOutsideConeAngle ≤ maxConeAngle
  /-- A lost buffer is not playing. -/
  lost : b.mBufferLost → isPlaying b.mSource = false
  located : b.mLocStatus ≠ .none → b.mSource.isSome
  shows : ∀ sb src, b.mBuffer = some sb → b.mSource = some src →
    b.Shows exts rolloff sb src.attrs

/-- What a method keeps of a buffer for the rest of the object. -/
structure Persists (level : UInt32) (b b' : Buffer) : Prop where
  born : b'.born = b.born
  storage : b'.mBuffer = b.mBuffer
  initialized : b'.mIsInitialized = b.mIsInitialized
  lost : level = Level.writePrimary → b.mBufferLost → b'.mBufferLost

namespace Persists

variable {level : UInt32} {b'' : Buffer}

theorem refl (level : UInt32) (b : Buffer) : b.Persists level b := ⟨rfl, rfl, rfl, fun _ h ↦ h⟩

theorem trans (h : b.Persists level b') (h' : b'.Persists level b'') : b.Persists level b'' where
  born := h'.born.trans h.born
  storage := h'.storage.trans h.storage
  initialized := h'.initialized.trans h.initialized
  lost hl hb := h'.lost hl (h.lost hl hb)

theorem is3D (h : b.Persists level b') : b'.is3D = b.is3D := by
  simp only [Buffer.is3D, hasCaps, h.storage]

end Persists

/-! ## Writing to the source -/

@[simp] theorem isPlaying_writeSource (b : Buffer) (ws : SourceWrites) :
    isPlaying (b.writeSource ws).mSource = isPlaying b.mSource := by
  cases hs : b.mSource <;> simp [writeSource, isPlaying, hs]

@[simp] theorem writeSource_nil (b : Buffer) : b.writeSource [] = b := by
  cases b with
  | mk => simp [writeSource]

/-- The rule for the methods that change parameters and write to the source. -/
theorem Ok.writeSource {rolloff' : Float32} (h : b.Ok exts rolloff)
    (hbuf : b'.mBuffer = b.mBuffer) (hsrc : b'.mSource = b.mSource)
    (hloc : b'.mLocStatus = b.mLocStatus) (hlost : b'.mBufferLost = b.mBufferLost)
    (hfreq : b'.mFrequency ≠ 0)
    (hcones : b'.mImmediate.dwInsideConeAngle ≤ maxConeAngle ∧
      b'.mImmediate.dwOutsideConeAngle ≤ maxConeAngle)
    (hdef : b'.mDeferred.dwInsideConeAngle ≤ maxConeAngle ∧
      b'.mDeferred.dwOutsideConeAngle ≤ maxConeAngle)
    (hspare : ∀ sb, b.mBuffer = some sb → ∀ k,
      spare exts (hasFlag sb.mFlags Caps.ctrl3D) k → last ws k = none)
    (hrender : ∀ sb, b.mBuffer = some sb → ∀ k,
      (last ws k).getD (b.render exts rolloff sb k) = b'.render exts rolloff' sb k) :
    (b'.writeSource ws).Ok exts rolloff' where
  storage := by
    rw [show (b'.writeSource ws).mBuffer = b.mBuffer from hbuf]
    exact h.storage
  frequency := hfreq
  cones := hcones
  deferredCones := hdef
  lost hl := by
    rw [isPlaying_writeSource, hsrc]
    exact h.lost (hlost ▸ hl)
  located hl := by
    have hs := h.located (hloc ▸ hl)
    rw [← hsrc] at hs
    simpa [Buffer.writeSource] using hs
  shows := by
    intro sb src hsb hs
    obtain ⟨src₀, hs₀, rfl⟩ : ∃ src₀, b'.mSource = some src₀ ∧
        { src₀ with attrs := Store.write ws src₀.attrs } = src := by
      simpa [Buffer.writeSource] using hs
    have hsb' : b.mBuffer = some sb := hbuf ▸ hsb
    show (b'.writeSource ws).Shows exts rolloff' sb (Store.write ws src₀.attrs)
    exact (h.shows sb src₀ hsb' (hsrc ▸ hs₀)).write hloc (hspare sb hsb') (hrender sb hsb')

/-- A change of what neither the invariant nor the rendering reads. -/
theorem Ok.congr (h : b.Ok exts rolloff) (hbuf : b'.mBuffer = b.mBuffer)
    (hfreq : b'.mFrequency = b.mFrequency) (hvol : b'.mVolume = b.mVolume)
    (hpan : b'.mPan = b.mPan) (himm : b'.mImmediate = b.mImmediate)
    (hdef : b'.mDeferred.dwInsideConeAngle ≤ maxConeAngle ∧
      b'.mDeferred.dwOutsideConeAngle ≤ maxConeAngle)
    (hloc : b'.mLocStatus = b.mLocStatus)
    (hlost : b'.mBufferLost → isPlaying b'.mSource = false)
    (hsrc : b'.mSource.map Source.attrs = b.mSource.map Source.attrs) : b'.Ok exts rolloff where
  storage := hbuf ▸ h.storage
  frequency := hfreq ▸ h.frequency
  cones := himm ▸ h.cones
  deferredCones := hdef
  lost := hlost
  located hl := by
    have hs := h.located (hloc ▸ hl)
    rw [← Option.isSome_map (f := Source.attrs), ← hsrc] at hs
    simpa using hs
  shows := by
    intro sb src hsb hs
    obtain ⟨src₀, hs₀, ha⟩ : ∃ src₀, b.mSource = some src₀ ∧ src₀.attrs = src.attrs := by
      rw [hs] at hsrc
      simpa using hsrc.symm
    obtain ⟨hspare, hlocated⟩ := h.shows sb src₀ (hbuf ▸ hsb) hs₀
    rw [← ha]
    refine ⟨hspare, fun hl ↦ (hlocated (hloc ▸ hl)).trans ?_⟩
    funext k
    cases k <;> simp [render, hvol, hfreq, himm, hpan]

end Buffer

end Dsoal
