import Dsoal.Params.Cases
import Dsoal.Params.Render

/-!
# The methods of a buffer keep its invariant

For every method of a buffer: the buffer it leaves is `Buffer.Ok` again, and
`Persists` in what the object relies on.
-/

namespace Dsoal

open Store

namespace Buffer

variable {exts : Extensions} {parent : Parent} {rolloff : Float32} {l : UInt32}
  {b b' : Buffer} {dev dev' : DeviceSources} {hr : HResult} {want : LocStatus}

/-- What the methods are shown to do: they keep the invariant and what the object
relies on. -/
def Keeps (exts : Extensions) (rolloff : Float32) (level : UInt32) (b b' : Buffer) : Prop :=
  b'.Ok exts rolloff ∧ b.Persists level b'

theorem Ok.keeps (h : b.Ok exts rolloff) : b.Keeps exts rolloff l b := ⟨h, .refl l b⟩

/-! ## Locations -/

/-- A buffer that has given up its source. -/
theorem Ok.leaveLocation (h : b.Ok exts rolloff) (dev : DeviceSources) :
    b.Keeps exts rolloff l (b.leaveLocation dev).1 := by
  rw [leaveLocation_eq]
  refine ⟨?_, rfl, rfl, rfl, fun _ hl ↦ hl⟩
  by_cases hn : b.mLocStatus = .none
  · exact h.congr rfl rfl rfl rfl rfl h.deferredCones hn.symm (by simpa [hn] using h.lost)
      (by simp [hn])
  · exact {
      storage := h.storage
      frequency := h.frequency
      cones := h.cones
      deferredCones := h.deferredCones
      lost := fun _ ↦ by simp [hn, isPlaying]
      located := fun hl ↦ absurd rfl hl
      shows := fun _ _ _ hs ↦ by simp [hn] at hs }

/-- A buffer that gets a location. -/
theorem Ok.locate (h : b.Ok parent.mExtensions parent.rolloffFactor) {sb : SharedBuffer}
    (hsb : b.mBuffer = some sb) (loc : LocStatus) :
    b.Keeps parent.mExtensions parent.rolloffFactor l
      { { b with mSource := some (b.mSource.getD {}) }.writeSource (b.locationWrites parent sb) with
        mLocStatus := loc } := by
  have hspare : ∀ k, spare parent.mExtensions (hasFlag sb.mFlags Caps.ctrl3D) k →
      (b.mSource.getD {}).attrs k = defaultAttrs k := by
    intro k hk
    cases hs : b.mSource with
    | none => rfl
    | some src => exact (h.shows sb src hsb hs).spare k hk
  refine ⟨?_, rfl, rfl, rfl, fun _ hl ↦ hl⟩
  exact {
    storage := h.storage
    frequency := h.frequency
    cones := h.cones
    deferredCones := h.deferredCones
    lost := by
      intro hl
      have hp := h.lost hl
      rw [← hp]
      cases hs : b.mSource <;> simp [Buffer.writeSource, isPlaying]
    located := fun _ ↦ rfl
    shows := by
      intro sb' src hsb' hs
      obtain rfl : sb = sb' := Option.some.inj (hsb.symm.trans hsb')
      obtain rfl : { b.mSource.getD {} with
          attrs := write (b.locationWrites parent sb) (b.mSource.getD {}).attrs } = src := by
        simpa [Buffer.writeSource] using hs
      have hrender := write_locationWrites h.frequency hspare
      refine ⟨fun k hk ↦ ?_, fun _ ↦ ?_⟩
      · show write _ _ k = _
        rw [hrender]
        revert hk
        rcases h3 : hasFlag sb.mFlags Caps.ctrl3D with _ | _
        all_goals
          cases k <;> simp_all [spare, render, render3D, renderFlat, defaultAttrs]
      · show write _ _ = _
        rw [hrender]
        funext k
        cases k <;> rfl }

/-- **`setLocation`** keeps the invariant, and whether the buffer is lost; if it fails,
the buffer has no location. -/
theorem Ok.setLocation (h : b.Ok parent.mExtensions parent.rolloffFactor)
    (hc : b.setLocation parent dev want = some (hr, b', dev')) :
    b.Keeps parent.mExtensions parent.rolloffFactor l b' ∧ b'.mBufferLost = b.mBufferLost ∧
      (hr ≠ .ok → b'.mLocStatus = .none) := by
  obtain ⟨hok, hpers⟩ := h.leaveLocation (l := l) dev
  have hn : (b.leaveLocation dev).1.mLocStatus = .none := by rw [leaveLocation_eq]
  have hl : (b.leaveLocation dev).1.mBufferLost = b.mBufferLost := by rw [leaveLocation_eq]
  obtain ⟨rfl, rfl, -⟩ | ⟨-, rfl, -⟩ | ⟨k, sb, -, hsb, rfl, rfl⟩ := setLocation_cases hc
  · exact ⟨h.keeps, rfl, fun hne ↦ absurd rfl hne⟩
  · exact ⟨⟨hok, hpers⟩, hl, fun _ ↦ hn⟩
  · obtain ⟨hok', hpers'⟩ := hok.locate (l := l) hsb (.loc k)
    exact ⟨⟨hok', hpers.trans hpers'⟩, hl, fun hne ↦ absurd rfl hne⟩

theorem Ok.deferredLocation {flags : UInt32} (h : b.Ok parent.mExtensions parent.rolloffFactor)
    (hc : b.deferredLocation parent dev flags = some (hr, b', dev')) :
    b.Keeps parent.mExtensions parent.rolloffFactor l b' ∧ b'.mBufferLost = b.mBufferLost := by
  obtain rfl | ⟨hset, -⟩ := deferredLocation_asks hc
  · exact ⟨h.keeps, rfl⟩
  · obtain ⟨hkeeps, hlost, -⟩ := h.setLocation (l := l) hset
    exact ⟨hkeeps, hlost⟩

theorem Ok.acquireResources {flags effectsCount : UInt32} {resultCodes : Bool}
    (h : b.Ok parent.mExtensions parent.rolloffFactor)
    (hc : b.acquireResources parent dev flags effectsCount resultCodes = some (hr, b', dev')) :
    b.Keeps parent.mExtensions parent.rolloffFactor l b' := by
  obtain rfl | hloc := acquireResources_asks hc
  · exact h.keeps
  · exact (h.deferredLocation hloc).1

/-! ## Playing -/

/-- A change of the state of the source. -/
theorem Ok.keeps_source (h : b.Ok exts rolloff) {source : Option Source} (lastPos : UInt32)
    (hattrs : source.map Source.attrs = b.mSource.map Source.attrs)
    (hlost : b.mBufferLost → isPlaying source = false) :
    b.Keeps exts rolloff l { b with mSource := source, mLastPos := lastPos } :=
  ⟨h.congr rfl rfl rfl rfl rfl h.deferredCones rfl hlost hattrs, rfl, rfl, rfl, fun _ hl ↦ hl⟩

theorem Ok.start {sb : SharedBuffer} {flags : UInt32} {started notify : Bool}
    (h : b.Ok exts rolloff) (hl : b.mBufferLost = false)
    (hc : b.start sb flags started = (hr, b', notify)) : b.Keeps exts rolloff l b' := by
  have hlost : ∀ source : Option Source, b.mBufferLost → isPlaying source = false := by simp [hl]
  obtain ⟨source, lastPos, hattrs, rfl⟩ := start_eq hc
  exact h.keeps_source lastPos hattrs (hlost source)

theorem Ok.play {priority flags : UInt32} {started notify : Bool}
    (h : b.Ok parent.mExtensions parent.rolloffFactor)
    (hc : b.play parent dev priority flags started = some (hr, b', dev', notify)) :
    b.Keeps parent.mExtensions parent.rolloffFactor l b' := by
  obtain ⟨rfl, -⟩ | ⟨sb, b₁, -, hl, hb₁, hb'⟩ := play_asks hc
  · exact h.keeps
  obtain ⟨⟨hok, hpers⟩, hlost⟩ :
      b.Keeps parent.mExtensions parent.rolloffFactor l b₁ ∧ b₁.mBufferLost = b.mBufferLost := by
    obtain rfl | ⟨hr₁, hloc⟩ := hb₁
    · exact ⟨h.keeps, rfl⟩
    · exact h.deferredLocation hloc
  obtain ⟨rfl, -⟩ | hstart := hb'
  · exact ⟨hok, hpers⟩
  · obtain ⟨hok', hpers'⟩ := hok.start (l := l) (hlost.trans hl) hstart
    exact ⟨hok', hpers.trans hpers'⟩

/-- Nothing plays that has been paused. -/
theorem isPlaying_pause (b : Buffer) : isPlaying b.pause.mSource = false := by
  unfold Buffer.pause
  cases b.mSource with
  | none => rfl
  | some src =>
      by_cases hp : src.state = .playing <;> simp [isPlaying, Source.pause, hp]

/-- The mixing of a source goes on playing it, or ends it. -/
theorem isPlaying_mix (b : Buffer) (offset : UInt32) (ended : Bool) :
    isPlaying (b.mix offset ended).mSource = (isPlaying b.mSource && !ended) := by
  unfold Buffer.mix Source.advance
  cases b.mSource with
  | none => rfl
  | some src => cases hstate : src.state <;> cases ended <;> simp [isPlaying, hstate]

theorem Ok.pause (h : b.Ok exts rolloff) : b.Keeps exts rolloff l b.pause := by
  refine h.keeps_source b.mLastPos ?_ fun _ ↦ ?_
  · cases b.mSource with
    | none => rfl
    | some src =>
        simp only [Option.map_some, Option.some.injEq, Source.pause]
        split <;> rfl
  · exact b.isPlaying_pause

theorem Ok.setCurrentPosition {newPosition : UInt32} (h : b.Ok exts rolloff)
    (hc : b.setCurrentPosition newPosition = some (hr, b')) : b.Keeps exts rolloff l b' := by
  obtain ⟨sb, -, hc⟩ := Option.bind_eq_some_iff.mp hc
  split at hc
  · cases hc
    exact h.keeps
  · cases hc
    refine h.keeps_source _ ?_ fun hl ↦ ?_
    · cases b.mSource <;> rfl
    · rw [← h.lost hl]
      cases b.mSource <;> rfl

theorem Ok.mix (h : b.Ok exts rolloff) (offset : UInt32) (ended : Bool) :
    b.Keeps exts rolloff l (b.mix offset ended) := by
  refine h.keeps_source b.mLastPos ?_ fun hl ↦ ?_
  · cases b.mSource with
    | none => rfl
    | some src =>
        simp only [Option.map_some, Option.some.injEq, Source.advance]
        split_ifs <;> rfl
  · have hplaying := b.isPlaying_mix offset ended
    rw [h.lost hl, Bool.false_and] at hplaying
    exact hplaying

theorem Ok.genSource (h : b.Ok exts rolloff) : b.Keeps exts rolloff l b.genSource := by
  cases hs : b.mSource with
  | some src =>
      have hk : b.Keeps exts rolloff l { b with mSource := some src, mLastPos := b.mLastPos } :=
        h.keeps_source b.mLastPos (by rw [hs]) (by simpa [hs] using h.lost)
      simpa [Buffer.genSource, hs] using hk
  | none =>
      have hn : b.mLocStatus = .none := by
        by_contra hne
        simpa [hs] using h.located hne
      refine ⟨?_, rfl, rfl, rfl, fun _ hl ↦ hl⟩
      exact {
        storage := h.storage
        frequency := h.frequency
        cones := h.cones
        deferredCones := h.deferredCones
        lost := fun _ ↦ by simp [Buffer.genSource, hs, isPlaying]
        located := fun _ ↦ rfl
        shows := by
          intro sb src _ hsrc
          obtain rfl : ({} : Source) = src := by simpa [Buffer.genSource, hs] using hsrc
          exact ⟨fun _ _ ↦ rfl, fun hne ↦ absurd hn hne⟩ }

/-! ## Parameters -/

/-- A stored cone angle is the same float whether it is written by `alSourcef` or by
`alSourcei`. -/
theorem floatOfInt_toInt32 {n : UInt32} (h : n ≤ maxConeAngle) :
    floatOfInt n.toInt32 = floatOfDword n := by
  have hn : n.toNat ≤ 360 := UInt32.le_iff_toNat_le.mp h
  have hi : n.toInt32.toInt = (n.toNat : ℤ) :=
    BitVec.toInt_eq_toNat_of_lt (x := n.toBitVec) (show 2 * n.toNat < 2 ^ 32 by omega)
  rw [floatOfInt, hi]
  rfl

/-- Writing an attribute that is not spare leaves those alone that are. -/
theorem last_singleton_of_spare {is3D : Bool} {k key : SourceAttr} {value : ALValue}
    (hkey : spare exts is3D key = false) (hk : spare exts is3D k) :
    last [(key, value)] k = none := by
  have hne : k ≠ key := by
    rintro rfl
    exact absurd hk (ne_true_of_eq_false hkey)
  rw [last_cons, if_neg hne]
  rfl

theorem Ok.setVolume {volume : Int32} (h : b.Ok exts rolloff)
    (hc : b.setVolume volume = some (hr, b')) : b.Keeps exts rolloff l b' := by
  obtain ⟨-, rfl⟩ | ⟨sb, -, -, rfl⟩ := setVolume_cases hc
  · exact h.keeps
  refine ⟨?_, rfl, rfl, rfl, fun _ hl ↦ hl⟩
  refine h.writeSource rfl rfl rfl rfl h.frequency h.cones h.deferredCones ?_ ?_
  · intro sb _ k hk
    exact last_singleton_of_spare rfl hk
  · intro sb _ k
    cases k <;> simp [last_cons, render]

theorem Ok.setPan {pan : Int32} (h : b.Ok parent.mExtensions rolloff)
    (hc : b.setPan parent pan = some (hr, b')) : b.Keeps parent.mExtensions rolloff l b' := by
  obtain ⟨-, rfl⟩ | ⟨sb, hsb, -, ⟨h3, hpanning, rfl⟩ | ⟨hno, rfl⟩⟩ := setPan_cases hc
  · exact h.keeps
  · refine ⟨?_, rfl, rfl, rfl, fun _ hl ↦ hl⟩
    refine h.writeSource rfl rfl rfl rfl h.frequency h.cones h.deferredCones ?_ ?_
    · intro sb' hsb' k hk
      obtain rfl : sb = sb' := Option.some.inj (hsb.symm.trans hsb')
      exact last_singleton_of_spare (by simp [spare, h3, hpanning]) hk
    · intro sb' hsb' k
      obtain rfl : sb = sb' := Option.some.inj (hsb.symm.trans hsb')
      cases k <;> simp [last_cons, render, renderFlat, h3, hpanning]
  · refine ⟨?_, rfl, rfl, rfl, fun _ hl ↦ hl⟩
    rw [← writeSource_nil { b with mPan := pan }]
    refine h.writeSource rfl rfl rfl rfl h.frequency h.cones h.deferredCones (fun _ _ _ _ ↦ rfl) ?_
    intro sb' hsb' k
    obtain rfl : sb = sb' := Option.some.inj (hsb.symm.trans hsb')
    by_cases h3 : hasFlag sb.mFlags Caps.ctrl3D
    · cases k <;> simp [render, h3]
    · have hpanning : ¬ parent.mExtensions.sourcePanning := hno (Bool.eq_false_iff.mpr h3)
      cases k <;> simp [render, renderFlat, h3, hpanning]

theorem Ok.setFrequency {frequency : UInt32} (h : b.Ok exts rolloff)
    (hc : b.setFrequency frequency = some (hr, b')) : b.Keeps exts rolloff l b' := by
  obtain ⟨-, rfl⟩ | ⟨sb, hsb, -, rfl⟩ := setFrequency_cases hc
  · exact h.keeps
  have hrate : sb.mWfxFormat.nSamplesPerSec ≠ 0 := by
    obtain ⟨sb', hsb', hr⟩ := h.storage
    obtain rfl : sb = sb' := Option.some.inj (hsb.symm.trans hsb')
    intro h0
    rw [h0] at hr
    exact absurd hr (by decide)
  refine ⟨?_, rfl, rfl, rfl, fun _ hl ↦ hl⟩
  refine h.writeSource rfl rfl rfl rfl ?_ h.cones h.deferredCones ?_ ?_
  · show (if frequency ≠ 0 then frequency else _) ≠ 0
    split_ifs with hf
    · exact hf
    · exact hrate
  · intro sb' hsb' k hk
    exact last_singleton_of_spare rfl hk
  · intro sb' hsb' k
    obtain rfl : sb = sb' := Option.some.inj (hsb.symm.trans hsb')
    cases k <;> simp [last_cons, render]

theorem Ok.restore (h : b.Ok exts rolloff) :
    b.Keeps exts rolloff parent.mPrioLevel (b.restore parent false).2 := by
  unfold Buffer.restore
  split_ifs with hl
  · exact h.keeps
  · refine ⟨h.congr rfl rfl rfl rfl rfl h.deferredCones rfl (fun hl ↦ by simp at hl) rfl,
      rfl, rfl, rfl, fun hw ↦ ?_⟩
    simp [hw] at hl

/-- Setting a set of parameters of a 3D buffer. -/
theorem Ok.setParams {P : DS3DBuffer} {F : BufferFlags}
    (h : b.Ok parent.mExtensions parent.rolloffFactor) (h3 : b.is3D)
    (hP : F .coneAngles → P.dwInsideConeAngle ≤ maxConeAngle ∧
      P.dwOutsideConeAngle ≤ maxConeAngle) :
    b.Keeps parent.mExtensions parent.rolloffFactor l (b.setParams parent P F) := by
  refine ⟨?_, rfl, rfl, rfl, fun _ hl ↦ hl⟩
  have hcones : (copyParams F P b.mImmediate).dwInsideConeAngle ≤ maxConeAngle ∧
      (copyParams F P b.mImmediate).dwOutsideConeAngle ≤ maxConeAngle := by
    simp only [copyParams]
    split_ifs with hF
    · exact hP hF
    · exact h.cones
  refine h.writeSource rfl rfl rfl rfl h.frequency hcones h.deferredCones ?_ ?_
  · intro sb hsb k hk
    have hsb3 : hasFlag sb.mFlags Caps.ctrl3D = true := by
      simpa [is3D, hasCaps, hsb] using h3
    rw [last_paramWrites]
    cases k <;> simp_all [spare, last_modeWrites]
  · intro sb hsb k
    have hsb3 : hasFlag sb.mFlags Caps.ctrl3D = true := by
      simpa [is3D, hasCaps, hsb] using h3
    rw [last_paramWrites]
    simp only [last_modeWrites]
    have hangles : F .coneAngles →
        floatOfInt P.dwInsideConeAngle.toInt32 = floatOfDword P.dwInsideConeAngle ∧
          floatOfInt P.dwOutsideConeAngle.toInt32 = floatOfDword P.dwOutsideConeAngle :=
      fun hF ↦ ⟨floatOfInt_toInt32 (hP hF).1, floatOfInt_toInt32 (hP hF).2⟩
    -- the angles are written as integers and rendered as unsigned numbers
    cases k with
    | coneInnerAngle =>
        simp only [render, render3D, hsb3, copyParams]
        by_cases hF : F .coneAngles
        · simp [hF, (hangles hF).1]
        · simp [hF]
    | coneOuterAngle =>
        simp only [render, render3D, hsb3, copyParams]
        by_cases hF : F .coneAngles
        · simp [hF, (hangles hF).2]
        · simp [hF]
    | _ =>
        simp only [render, render3D, hsb3, copyParams]
        by_cases hm : F .mode
        all_goals
          simp only [hm]
          split_ifs <;> first | rfl | simp_all

theorem Ok.commit (h : b.Ok parent.mExtensions parent.rolloffFactor) (h3 : b.is3D) :
    b.Keeps parent.mExtensions parent.rolloffFactor l (b.commit parent) := by
  rw [commit_eq]
  have hclean : b.Keeps parent.mExtensions parent.rolloffFactor l { b with mDirty := .none } :=
    ⟨h.congr rfl rfl rfl rfl rfl h.deferredCones rfl h.lost rfl, rfl, rfl, rfl, fun _ hl ↦ hl⟩
  obtain ⟨hok, hpers⟩ := hclean.1.setParams (l := l) h3 fun _ ↦ h.deferredCones
  exact ⟨hok, hclean.2.trans hpers⟩

/-- Accepted cone angles are in range. -/
theorem update_cones {c : Buffer3DCall} {F : BufferFlags} {P : DS3DBuffer}
    (hc : c.update = some (F, P)) (hF : F .coneAngles) :
    P.dwInsideConeAngle ≤ maxConeAngle ∧ P.dwOutsideConeAngle ≤ maxConeAngle := by
  cases c with
  | setAllParameters ds3dBuffer =>
      cases ds3dBuffer with
      | none => cases hc
      | some params =>
          simp only [Buffer3DCall.update, Option.ite_none_left_eq_some, Option.some.injEq,
            Prod.mk.injEq] at hc
          obtain ⟨hv, -, rfl⟩ := hc
          simp [validParams] at hv
          exact ⟨hv.2.1, hv.2.2.1⟩
  | setConeAngles insideConeAngle outsideConeAngle =>
      simp only [Buffer3DCall.update, Buffer3DCall.one] at hc
      split at hc
      · rename_i hv
        cases hc
        simpa using hv
      · cases hc
  | _ =>
      simp only [Buffer3DCall.update, Buffer3DCall.one] at hc
      split at hc
      · cases hc
        simp [BufferFlags.only] at hF
      · cases hc

/-- **Every call of `IDirectSound3DBuffer`** keeps the invariant. -/
theorem Ok.call3D (h : b.Ok parent.mExtensions parent.rolloffFactor) (h3 : b.is3D)
    (c : Buffer3DCall) (apply : UInt32) :
    b.Keeps parent.mExtensions parent.rolloffFactor l (b.call3D parent c apply).2 := by
  have hp := performs_call3D parent c apply b
  revert hp
  cases hu : c.update with
  | none =>
      intro hp
      rw [show b.call3D parent c apply = (.invalidParam, b) from hp]
      exact h.keeps
  | some u =>
      rintro ⟨n, hp⟩
      have hcones := update_cones (F := u.1) (P := u.2) hu
      rw [hp]
      split_ifs
      · refine ⟨h.congr rfl rfl rfl rfl rfl ?_ rfl h.lost rfl, rfl, rfl, rfl, fun _ hl ↦ hl⟩
        simp only [defer, copyParams]
        split_ifs with hF
        · exact hcones hF
        · exact h.deferredCones
      · exact h.setParams h3 hcones

/-- Writing the rolloff factor of the listener to the source of a 3D buffer. -/
theorem Ok.writeRolloff {rolloff' : Float32} (h : b.Ok exts rolloff) (h3 : b.is3D) :
    b.Keeps exts rolloff' l (b.writeRolloff rolloff') := by
  have hsb3 : ∀ sb, b.mBuffer = some sb → hasFlag sb.mFlags Caps.ctrl3D = true := by
    intro sb hsb
    simpa [is3D, hasCaps, hsb] using h3
  unfold Buffer.writeRolloff
  split_ifs with hm
  · refine ⟨?_, rfl, rfl, rfl, fun _ hl ↦ hl⟩
    refine h.writeSource rfl rfl rfl rfl h.frequency h.cones h.deferredCones ?_ ?_
    · intro sb hsb k hk
      exact last_singleton_of_spare rfl hk
    · intro sb hsb k
      cases k <;> simp [last_cons, render, render3D, hsb3 sb hsb, hm]
  · refine ⟨?_, .refl l b⟩
    rw [← writeSource_nil b]
    refine h.writeSource rfl rfl rfl rfl h.frequency h.cones h.deferredCones (fun _ _ _ _ ↦ rfl) ?_
    intro sb hsb k
    rw [not_not] at hm
    cases k <;> simp [render, render3D, hsb3 sb hsb, hm]

/-- The rolloff factor of the listener does not matter to a buffer that is not 3D. -/
theorem Ok.of_not_is3D {rolloff' : Float32} (h : b.Ok exts rolloff) (h3 : b.is3D = false) :
    b.Ok exts rolloff' := by
  rw [← writeSource_nil b]
  refine h.writeSource rfl rfl rfl rfl h.frequency h.cones h.deferredCones (fun _ _ _ _ ↦ rfl) ?_
  intro sb hsb k
  have hsb3 : hasFlag sb.mFlags Caps.ctrl3D = false := by
    simpa [is3D, hasCaps, hsb] using h3
  cases k <;> simp [render, hsb3]

/-- **Every call on a buffer alone** keeps the invariant. -/
theorem Ok.call {c : BufferCall} (h : b.Ok parent.mExtensions parent.rolloffFactor)
    (hc : b.call parent c = some (hr, b')) :
    b.Keeps parent.mExtensions parent.rolloffFactor parent.mPrioLevel b' := by
  cases c with
  | setVolume volume => exact h.setVolume hc
  | setPan pan => exact h.setPan hc
  | setFrequency frequency => exact h.setFrequency hc
  | setCurrentPosition newPosition => exact h.setCurrentPosition hc
  | restore =>
      have hk : b.Keeps parent.mExtensions parent.rolloffFactor parent.mPrioLevel
        (b.restore parent false).2 := h.restore
      rwa [show b.restore parent false = (hr, b') from Option.some.inj hc] at hk
  | call3D c apply =>
      simp only [Buffer.call, Option.ite_none_right_eq_some, Option.some.injEq] at hc
      obtain ⟨h3, hc⟩ := hc
      have hk := h.call3D (l := parent.mPrioLevel) h3 c apply
      rwa [hc] at hk

/-! ## Initialization -/

/-- A buffer that has been constructed and not been initialized. -/
structure Blank (b : Buffer) : Prop where
  source : b.mSource = none
  location : b.mLocStatus = .none
  lost : b.mBufferLost = false
  initialized : b.mIsInitialized = false
  cones : b.mImmediate.dwInsideConeAngle ≤ maxConeAngle ∧
    b.mImmediate.dwOutsideConeAngle ≤ maxConeAngle
  deferredCones : b.mDeferred.dwInsideConeAngle ≤ maxConeAngle ∧
    b.mDeferred.dwOutsideConeAngle ≤ maxConeAngle
  storage : ∀ sb, b.mBuffer = some sb → frequencyMin ≤ sb.mWfxFormat.nSamplesPerSec

theorem defaultParams_cones : defaultParams.dwInsideConeAngle ≤ maxConeAngle ∧
    defaultParams.dwOutsideConeAngle ≤ maxConeAngle := by
  decide

theorem blank_fresh (born : ℕ) (is8 : Bool) : (fresh born is8).Blank where
  source := rfl
  location := rfl
  lost := rfl
  initialized := rfl
  cones := defaultParams_cones
  deferredCones := defaultParams_cones
  storage := nofun

theorem Ok.blank_duplicate (h : b.Ok exts rolloff) {born : ℕ} {is8 : Bool}
    (hd : duplicate born is8 b = some b') : b'.Blank ∧ b'.born = born := by
  obtain ⟨sb, hsb, hd⟩ := Option.bind_eq_some_iff.mp hd
  cases hd
  have hcones : (if hasFlag sb.mFlags Caps.ctrl3D then b.mImmediate
        else (fresh born is8).mImmediate).dwInsideConeAngle ≤ maxConeAngle ∧
      (if hasFlag sb.mFlags Caps.ctrl3D then b.mImmediate
        else (fresh born is8).mImmediate).dwOutsideConeAngle ≤ maxConeAngle := by
    split_ifs
    · exact h.cones
    · exact (blank_fresh born is8).cones
  refine ⟨⟨rfl, rfl, rfl, rfl, hcones, hcones, ?_⟩, rfl⟩
  intro sb' hsb'
  obtain ⟨sb₀, hsb₀, hrate⟩ := h.storage
  obtain rfl : sb = sb' := Option.some.inj hsb'
  obtain rfl : sb = sb₀ := Option.some.inj (hsb.symm.trans hsb₀)
  exact hrate

/-- The storage of a buffer satisfies the invariant. -/
theorem Blank.storage_ok (h : b.Blank) {desc : Option BufferDesc} {memory : Bool}
    {sb : SharedBuffer} (hs : b.storage exts desc memory = .ok sb) :
    frequencyMin ≤ sb.mWfxFormat.nSamplesPerSec := by
  obtain hb | ⟨-, d, format, -, -, hcreate⟩ := storage_cases hs
  · exact h.storage _ hb
  · exact (SharedBuffer.create_ok hcreate).2.1

/-- **The first half of `Buffer::Initialize`** establishes the invariant. -/
theorem Blank.attach (h : b.Blank) {desc : Option BufferDesc} {memory : Bool}
    (ha : b.attach exts desc memory = .ok b') :
    b'.Ok exts rolloff ∧ b'.mLocStatus = .none ∧ b'.mBufferLost = false ∧ b'.born = b.born := by
  obtain ⟨-, sb, hs, rfl⟩ := attach_cases ha
  have hrate := h.storage_ok hs
  refine ⟨?_, h.location, h.lost, rfl⟩
  exact {
    storage := ⟨sb, rfl, hrate⟩
    frequency := by
      show (if b.mFrequency = 0 then _ else _) ≠ 0
      split_ifs with hf
      · intro h0
        rw [h0] at hrate
        exact absurd hrate (by decide)
      · exact hf
    cones := h.cones
    deferredCones := h.deferredCones
    lost := fun _ ↦ by rw [h.source]; rfl
    located := fun hl ↦ absurd h.location hl
    shows := fun _ _ _ hsrc ↦ by simp [h.source] at hsrc }

/-- **The second half of `Buffer::Initialize`** keeps the invariant; the buffer is
initialized if it succeeds, and has no location if it fails. -/
theorem Ok.initLocation (h : b.Ok parent.mExtensions parent.rolloffFactor)
    (hloc : b.mLocStatus = .none)
    (hc : b.initLocation parent dev = some (hr, b', dev')) :
    b'.Ok parent.mExtensions parent.rolloffFactor ∧ b'.born = b.born ∧ b'.mBuffer = b.mBuffer ∧
      b'.mBufferLost = b.mBufferLost ∧ b'.mIsInitialized = hr.succeeded ∧
      (hr ≠ .ok → b'.mLocStatus = .none) := by
  obtain ⟨sb, -, hc⟩ := Option.bind_eq_some_iff.mp hc
  obtain ⟨b₁, hok, hpers, hlost, hfail, hb'⟩ : ∃ b₁, b₁.Ok parent.mExtensions parent.rolloffFactor ∧
      b.Persists 0 b₁ ∧ b₁.mBufferLost = b.mBufferLost ∧ (hr ≠ .ok → b₁.mLocStatus = .none) ∧
      b' = { b₁ with mIsInitialized := hr.succeeded } := by
    dsimp only at hc
    split at hc
    · cases hc
      exact ⟨b, h, .refl 0 b, rfl, fun _ ↦ hloc, rfl⟩
    · obtain ⟨⟨hr₁, b₁, dev₁⟩, hset, hc⟩ := Option.bind_eq_some_iff.mp hc
      cases hc
      obtain ⟨⟨hok, hpers⟩, hlost, hfail⟩ := h.setLocation (l := 0) hset
      exact ⟨b₁, hok, hpers, hlost, hfail, rfl⟩
  subst hb'
  exact ⟨hok.congr rfl rfl rfl rfl rfl hok.deferredCones rfl hok.lost rfl, hpers.born,
    hpers.storage, hlost, rfl, hfail⟩

end Buffer

end Dsoal
