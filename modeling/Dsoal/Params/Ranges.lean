import Dsoal.Core.Primary
import Dsoal.Lib.FloatValue
import Dsoal.Params.Methods

/-!
# The ranges of the parameters

The setters of a buffer ask whether a value is within its range, and refuse what is not a
number (`Buffer.validParams_iff`).  Those of the listener ask whether it is outside, and take
what is not a number (`PrimaryBuffer.validParams_iff`).  Every method of a buffer keeps its
immediate and its pending parameters in range.
-/

namespace Dsoal

open FloatValue

/-! ## Parameters of a buffer -/

/-- The parameters are in their ranges, and numbers. -/
structure DS3DBuffer.InRange (p : DS3DBuffer) : Prop where
  insideConeAngle : p.dwInsideConeAngle ≤ maxConeAngle
  outsideConeAngle : p.dwOutsideConeAngle ≤ maxConeAngle
  coneOutsideVolume : volumeMin ≤ p.lConeOutsideVolume ∧ p.lConeOutsideVolume ≤ 0
  minDistance : FloatValue.InRange 0 ⊤ p.flMinDistance
  maxDistance : FloatValue.InRange 0 ⊤ p.flMaxDistance
  mode : p.dwMode = Mode.normal ∨ p.dwMode = Mode.headRelative ∨ p.dwMode = Mode.disable

namespace Buffer

variable {b b' : Buffer} {parent : Parent} {F : BufferFlags} {P Q : DS3DBuffer}

/-- The check of a distance. -/
theorem distance_iff {x : Float32} : x ≥ 0 ↔ InRange 0 ⊤ x := le_iff_inRange value_zero

theorem validMode_iff {mode : UInt32} :
    validMode mode = true ↔ mode = Mode.normal ∨ mode = Mode.headRelative ∨ mode = Mode.disable :=
  decide_eq_true_iff

theorem validVolume_iff {volume : Int32} :
    validVolume volume = true ↔ volumeMin ≤ volume ∧ volume ≤ 0 :=
  decide_eq_true_iff

/-- **`SetAllParameters` of a buffer** takes what is in range. -/
theorem validParams_iff : validParams P = true ↔ P.InRange := by
  unfold validParams
  rw [decide_eq_true_iff, distance_iff, distance_iff, validVolume_iff, validMode_iff]
  constructor
  · rintro ⟨hinside, houtside, hvolume, hmin, hmax, hmode⟩
    exact ⟨hinside, houtside, hvolume, hmin, hmax, hmode⟩
  · rintro ⟨hinside, houtside, hvolume, hmin, hmax, hmode⟩
    exact ⟨hinside, houtside, hvolume, hmin, hmax, hmode⟩

theorem inRange_defaultParams : defaultParams.InRange where
  insideConeAngle := UInt32.le_refl _
  outsideConeAngle := UInt32.le_refl _
  coneOutsideVolume := by decide
  minDistance := distance_iff.mp (by decide +kernel)
  maxDistance := distance_iff.mp (by decide +kernel)
  mode := .inl rfl

theorem inRange_copyParams (hP : P.InRange) (hQ : Q.InRange) : (copyParams F P Q).InRange := by
  constructor <;> unfold copyParams <;> dsimp only <;> split_ifs
  · exact hP.insideConeAngle
  · exact hQ.insideConeAngle
  · exact hP.outsideConeAngle
  · exact hQ.outsideConeAngle
  · exact hP.coneOutsideVolume
  · exact hQ.coneOutsideVolume
  · exact hP.minDistance
  · exact hQ.minDistance
  · exact hP.maxDistance
  · exact hQ.maxDistance
  · exact hP.mode
  · exact hQ.mode

/-- What a setter of one flag sets is in range if its check sees to it. -/
theorem inRange_of_one {valid : Bool} {flag : BufferFlag} {params : DS3DBuffer}
    (hvalid : valid = true → params.InRange)
    (hc : Buffer3DCall.one valid flag params = some (F, P)) : P.InRange := by
  obtain ⟨hv, heq⟩ := Option.ite_none_right_eq_some.mp hc
  cases heq
  exact hvalid hv

/-- **What a call sets** is in range, in every field. -/
theorem inRange_of_update {c : Buffer3DCall} (hc : c.update = some (F, P)) : P.InRange := by
  have hd := inRange_defaultParams
  cases c with
  | setAllParameters ds3dBuffer =>
      cases ds3dBuffer with
      | none => cases hc
      | some params =>
          obtain ⟨hok, heq⟩ := Option.ite_none_left_eq_some.mp hc
          cases heq
          rw [not_or, Bool.not_eq_true', Bool.not_eq_false] at hok
          exact validParams_iff.mp hok.2
  | setConeAngles inside outside =>
      refine inRange_of_one (fun hv ↦ ?_) hc
      obtain ⟨hinside, houtside⟩ := of_decide_eq_true hv
      exact { hd with insideConeAngle := hinside, outsideConeAngle := houtside }
  | setConeOutsideVolume volume =>
      refine inRange_of_one (fun hv ↦ ?_) hc
      exact { hd with coneOutsideVolume := validVolume_iff.mp hv }
  | setMaxDistance x =>
      refine inRange_of_one (fun hv ↦ ?_) hc
      exact { hd with maxDistance := distance_iff.mp (of_decide_eq_true hv) }
  | setMinDistance x =>
      refine inRange_of_one (fun hv ↦ ?_) hc
      exact { hd with minDistance := distance_iff.mp (of_decide_eq_true hv) }
  | setMode mode =>
      refine inRange_of_one (fun hv ↦ ?_) hc
      exact { hd with mode := validMode_iff.mp hv }
  | setConeOrientation x y z | setPosition x y z | setVelocity x y z =>
      refine inRange_of_one (fun _ ↦ ?_) hc
      exact { hd with }

/-! ## Methods of a buffer -/

/-- The immediate and the pending parameters are in range. -/
structure ParamsInRange (b : Buffer) : Prop where
  immediate : b.mImmediate.InRange
  deferred : b.mDeferred.InRange

namespace ParamsInRange

/-- A change of everything but the parameters. -/
theorem congr (h : b.ParamsInRange) (himm : b'.mImmediate = b.mImmediate)
    (hdef : b'.mDeferred = b.mDeferred) : b'.ParamsInRange :=
  ⟨himm ▸ h.immediate, hdef ▸ h.deferred⟩

theorem setParams (h : b.ParamsInRange) (hP : P.InRange) : (b.setParams parent P F).ParamsInRange :=
  ⟨inRange_copyParams hP h.immediate, h.deferred⟩

theorem defer (h : b.ParamsInRange) (hP : P.InRange) (n : UInt32) :
    (b.defer F P n).ParamsInRange where
  immediate := h.immediate
  deferred := by
    have hcopy : (copyParams F P b.mDeferred).InRange := inRange_copyParams hP h.deferred
    exact { hcopy with }

theorem commit (h : b.ParamsInRange) (parent : Parent) : (b.commit parent).ParamsInRange := by
  rw [commit_eq]
  have hclean : { b with mDirty := .none }.ParamsInRange := ⟨h.immediate, h.deferred⟩
  exact hclean.setParams h.deferred

/-- **A call of `IDirectSound3DBuffer`.** -/
theorem call3D (h : b.ParamsInRange) (parent : Parent) (c : Buffer3DCall) (apply : UInt32) :
    (b.call3D parent c apply).2.ParamsInRange := by
  have hperforms := performs_call3D parent c apply b
  revert hperforms
  cases hu : c.update with
  | none =>
      intro hperforms
      rw [hperforms]
      exact h
  | some u =>
      rintro ⟨n, hperforms⟩
      rw [hperforms]
      have hP : u.2.InRange := inRange_of_update hu
      dsimp only
      split_ifs
      · exact h.defer hP n
      · exact h.setParams hP

theorem duplicate (h : b.ParamsInRange) {born : ℕ} {is8 : Bool}
    (hc : Buffer.duplicate born is8 b = some b') : b'.ParamsInRange := by
  obtain ⟨sb, -, hc⟩ := Option.bind_eq_some_iff.mp hc
  cases hc
  by_cases h3D : hasFlag sb.mFlags Caps.ctrl3D
  · refine ⟨?_, ?_⟩ <;> simpa only [if_pos h3D] using h.immediate
  · have hfresh : (fresh born is8).mImmediate.InRange := inRange_defaultParams
    refine ⟨?_, ?_⟩ <;> simpa only [if_neg h3D] using hfresh

theorem attach (h : b.ParamsInRange) {exts : Extensions} {desc : Option BufferDesc} {memory : Bool}
    (hc : b.attach exts desc memory = .ok b') : b'.ParamsInRange := by
  obtain ⟨sb, frequency, rfl⟩ := attach_eq hc
  exact h.congr rfl rfl

theorem deferredLocation (h : b.ParamsInRange) {dev dev' : DeviceSources} {flags : UInt32}
    {hr : HResult} (hc : b.deferredLocation parent dev flags = some (hr, b', dev')) :
    b'.ParamsInRange := by
  obtain ⟨src, loc, rfl⟩ := deferredLocation_eq hc
  exact h.congr rfl rfl

theorem start (h : b.ParamsInRange) {sb : SharedBuffer} {flags : UInt32} {started notify : Bool}
    {hr : HResult} (hc : b.start sb flags started = (hr, b', notify)) : b'.ParamsInRange := by
  obtain ⟨source, lastPos, -, rfl⟩ := start_eq hc
  exact h.congr rfl rfl

theorem play (h : b.ParamsInRange) {dev dev' : DeviceSources} {priority flags : UInt32}
    {started notify : Bool} {hr : HResult}
    (hc : b.play parent dev priority flags started = some (hr, b', dev', notify)) :
    b'.ParamsInRange := by
  obtain ⟨rfl, -⟩ | ⟨sb, b₁, -, -, hb₁, hb'⟩ := play_asks hc
  · exact h
  have h₁ : b₁.ParamsInRange := by
    obtain rfl | ⟨hr₁, hloc⟩ := hb₁
    · exact h
    · exact h.deferredLocation hloc
  obtain ⟨rfl, -⟩ | hstart := hb'
  · exact h₁
  · exact h₁.start hstart

theorem restore (h : b.ParamsInRange) (parent : Parent) (isWriteEmu : Bool) :
    (b.restore parent isWriteEmu).2.ParamsInRange := by
  unfold Buffer.restore
  split_ifs
  · exact h
  · exact h.congr rfl rfl

/-- **A call on the buffer.** -/
theorem call (h : b.ParamsInRange) (parent : Parent) (c : BufferCall) {hr : HResult}
    (hc : b.call parent c = some (hr, b')) : b'.ParamsInRange := by
  cases c with
  | setVolume volume =>
      simp only [Buffer.call, setVolume] at hc
      split_ifs at hc
      · cases hc
        exact h
      · obtain ⟨sb, -, hc⟩ := Option.bind_eq_some_iff.mp hc
        split_ifs at hc <;> cases hc
        · exact h
        · exact h.congr rfl rfl
  | setPan pan =>
      simp only [Buffer.call, setPan] at hc
      split_ifs at hc
      · cases hc
        exact h
      · obtain ⟨sb, -, hc⟩ := Option.bind_eq_some_iff.mp hc
        split_ifs at hc <;> cases hc
        · exact h
        · exact h.congr rfl rfl
        · exact h.congr rfl rfl
  | setFrequency frequency =>
      simp only [Buffer.call, setFrequency] at hc
      split at hc
      · cases hc
        exact h
      · obtain ⟨sb, -, hc⟩ := Option.bind_eq_some_iff.mp hc
        split at hc
        · cases hc
          exact h
        · cases hc
          exact h.congr rfl rfl
  | setCurrentPosition newPosition =>
      obtain ⟨sb, -, hc⟩ := Option.bind_eq_some_iff.mp hc
      split at hc
      · cases hc
        exact h
      · cases hc
        exact h.congr rfl rfl
  | restore =>
      rw [← show (b.restore parent false).2 = b' from congrArg Prod.snd (Option.some.inj hc)]
      exact h.restore parent false
  | call3D c apply =>
      obtain ⟨-, hc⟩ := Option.ite_none_right_eq_some.mp hc
      rw [← show (b.call3D parent c apply).2 = b' from congrArg Prod.snd (Option.some.inj hc)]
      exact h.call3D parent c apply

end ParamsInRange

end Buffer

/-! ## Parameters of the listener -/

namespace PrimaryBuffer

/-- `DS3D_MINDISTANCEFACTOR`, the smallest normal number. -/
noncomputable def minDistanceFactor : EReal := FloatValue.magnitude 1 (-126)

/-- `DS3D_MAXDISTANCEFACTOR`, the largest finite number. -/
noncomputable def maxDistanceFactor : EReal := FloatValue.magnitude (2 ^ 24 - 1) 104

end PrimaryBuffer

/-- The factors are in their ranges, and numbers. -/
structure DS3DListener.InRange (p : DS3DListener) : Prop where
  distanceFactor : FloatValue.InRange PrimaryBuffer.minDistanceFactor
    PrimaryBuffer.maxDistanceFactor p.flDistanceFactor
  rolloffFactor : FloatValue.InRange 0 10 p.flRolloffFactor
  dopplerFactor : FloatValue.InRange 0 10 p.flDopplerFactor

/-- One of the factors is not a number. -/
def DS3DListener.HasNaN (p : DS3DListener) : Prop :=
  value p.flDistanceFactor = none ∨ value p.flRolloffFactor = none ∨
    value p.flDopplerFactor = none

namespace PrimaryBuffer

variable {x : Float32} {P : DS3DListener}

theorem value_minDistanceFactor : value (Float32.ofBits 0x00800000) = some minDistanceFactor := by
  have hvalue : value (Float32.ofBits 0x00800000) =
      some (FloatValue.magnitude (2 ^ 23) (-149) : EReal) := rfl
  have heq : FloatValue.magnitude (2 ^ 23) (-149) = FloatValue.magnitude 1 (-126) := by
    norm_num [FloatValue.magnitude]
  rw [hvalue, heq]
  rfl

theorem value_maxDistanceFactor : value (Float32.ofBits 0x7F7FFFFF) = some maxDistanceFactor :=
  rfl

theorem value_ten : value 10 = some 10 := by
  have hvalue : value 10 = some (FloatValue.magnitude 10485760 (-20) : EReal) := rfl
  have hten : FloatValue.magnitude 10485760 (-20) = 10 := by norm_num [FloatValue.magnitude]
  rw [hvalue, hten]
  rfl

/-- **The check of a distance factor** takes what is in range, and what is not a number. -/
theorem validDistanceFactor_iff : validDistanceFactor x = true ↔
    value x = none ∨ InRange minDistanceFactor maxDistanceFactor x := by
  unfold validDistanceFactor
  rw [Bool.not_eq_true', decide_eq_false_iff_not]
  exact not_lt_or_lt_iff value_minDistanceFactor value_maxDistanceFactor

/-- **The check of another factor** does so too. -/
theorem validFactor_iff : validFactor x = true ↔ value x = none ∨ InRange 0 10 x := by
  unfold validFactor
  rw [Bool.not_eq_true', decide_eq_false_iff_not]
  exact not_lt_or_lt_iff value_zero value_ten

/-- **`SetAllParameters` of the listener** takes what is in range or not a number. -/
theorem validParams_iff : validParams P = true ↔
    (value P.flDistanceFactor = none ∨
      InRange minDistanceFactor maxDistanceFactor P.flDistanceFactor) ∧
    (value P.flDopplerFactor = none ∨ InRange 0 10 P.flDopplerFactor) ∧
    (value P.flRolloffFactor = none ∨ InRange 0 10 P.flRolloffFactor) := by
  unfold validParams
  rw [decide_eq_true_iff, validDistanceFactor_iff, validFactor_iff, validFactor_iff]

end PrimaryBuffer

theorem DS3DListener.InRange.not_hasNaN {p : DS3DListener} (h : p.InRange) : ¬ p.HasNaN := by
  rintro (hnone | hnone | hnone)
  · exact h.distanceFactor.value_ne_none hnone
  · exact h.rolloffFactor.value_ne_none hnone
  · exact h.dopplerFactor.value_ne_none hnone

namespace PrimaryBuffer

variable {F : ListenerFlags} {P Q : DS3DListener}

/-- Parameters the checks take are in range if they are numbers. -/
theorem inRange_of_valid (h : validParams P = true) (hno : ¬ P.HasNaN) : P.InRange := by
  obtain ⟨hdistance, hdoppler, hrolloff⟩ := validParams_iff.mp h
  unfold DS3DListener.HasNaN at hno
  rw [not_or, not_or] at hno
  exact ⟨hdistance.resolve_left hno.1, hrolloff.resolve_left hno.2.1,
    hdoppler.resolve_left hno.2.2⟩

theorem inRange_defaultParams : defaultParams.InRange := by
  have hone : value 1 ≠ none := nofun
  refine inRange_of_valid (by decide +kernel) ?_
  rintro (hnone | hnone | hnone) <;> exact hone hnone

theorem inRange_copyParams (hP : P.InRange) (hQ : Q.InRange) : (copyParams F P Q).InRange := by
  constructor <;> unfold copyParams <;> dsimp only <;> split_ifs
  · exact hP.distanceFactor
  · exact hQ.distanceFactor
  · exact hP.rolloffFactor
  · exact hQ.rolloffFactor
  · exact hP.dopplerFactor
  · exact hQ.dopplerFactor

/-- The immediate and the pending parameters of an initialized listener are in range. -/
def ParamsInRange (p : PrimaryBuffer) : Prop :=
  p.mFlags ≠ 0 → p.mImmediate.InRange ∧ p.mDeferred.InRange

/-- A change of everything but the parameters, which may make the listener uninitialized. -/
theorem ParamsInRange.congr {p q : PrimaryBuffer} (h : p.ParamsInRange)
    (hflags : q.mFlags ≠ 0 → p.mFlags ≠ 0) (himm : q.mImmediate = p.mImmediate)
    (hdef : q.mDeferred = p.mDeferred) : q.ParamsInRange := by
  intro hq
  rw [himm, hdef]
  exact h (hflags hq)

end PrimaryBuffer

end Dsoal
