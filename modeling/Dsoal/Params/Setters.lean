import Dsoal.Core.Buffer3D
import Mathlib.Tactic.Common

/-!
# The setters of a 3D buffer and `setParams`

There are two ways to write 3D parameters to a source: each setter has its own
code, and `setParams` applies a set of them.  This file shows that they agree.

A call amounts to a set of flags with values for them, `Buffer3DCall.update`.  An
immediate call is `setParams` of that set, a deferred one adds the set to what is
pending (`performs_call3D`), and applying one set after another is applying both at
once (`setParams_setParams`).
-/

namespace Dsoal

open Store

namespace Buffer

variable {parent : Parent} {P Q R : DS3DBuffer} {F G : BufferFlags} {b : Buffer}

/-! ## Sets of parameters -/

/-- No flag copies nothing. -/
@[simp] theorem copyParams_none (P Q : DS3DBuffer) : copyParams .none P Q = Q := by
  simp [copyParams, BufferFlags.none]

/-- Copying twice is copying the later values over the earlier ones. -/
theorem copyParams_copyParams (F G : BufferFlags) (P Q R : DS3DBuffer) :
    copyParams F P (copyParams G Q R) = copyParams (G.union F) (copyParams F P Q) R := by
  simp only [copyParams, BufferFlags.union, Bool.or_eq_true]
  congr 1 <;> split_ifs <;> simp_all

/-- What the mode block writes to each attribute. -/
theorem last_modeWrites (mode : UInt32) (imm : DS3DBuffer) (k : SourceAttr) :
    last (modeWrites parent mode imm) k = match k with
      | .position =>
        some (.vector (if mode = Mode.disable then ⟨0, 0, -1⟩ else imm.vPosition.flipZ))
      | .velocity =>
        some (.vector (if mode = Mode.disable then ⟨0, 0, 0⟩ else imm.vVelocity.flipZ))
      | .direction =>
        some (.vector (if mode = Mode.disable then ⟨0, 0, 0⟩ else imm.vConeOrientation.flipZ))
      | .rolloffFactor =>
        some (.float (if mode = Mode.disable then 0 else parent.rolloffFactor))
      | .sourceSpatialize =>
        if parent.mExtensions.sourceSpatialize then some (.bool (mode ≠ Mode.disable)) else none
      | .sourceRelative => some (.bool (mode ≠ Mode.normal))
      | _ => none := by
  by_cases hm : mode = Mode.disable
  all_goals cases k <;> simp [modeWrites, last_append, last_cons, last_when, hm]

/-- What `setParams` writes to each attribute. -/
theorem last_paramWrites (P imm : DS3DBuffer) (F : BufferFlags) (k : SourceAttr) :
    last (paramWrites parent P imm F) k =
      (if F .mode then last (modeWrites parent P.dwMode imm) k else none).or (match k with
        | .position => if imm.dwMode ≠ Mode.disable ∧ F .position then
            some (.vector P.vPosition.flipZ) else none
        | .velocity => if imm.dwMode ≠ Mode.disable ∧ F .velocity then
            some (.vector P.vVelocity.flipZ) else none
        | .direction => if imm.dwMode ≠ Mode.disable ∧ F .coneOrientation then
            some (.vector P.vConeOrientation.flipZ) else none
        | .coneInnerAngle => if F .coneAngles then
            some (.float (floatOfInt P.dwInsideConeAngle.toInt32)) else none
        | .coneOuterAngle => if F .coneAngles then
            some (.float (floatOfInt P.dwOutsideConeAngle.toInt32)) else none
        | .coneOuterGain => if F .coneVolume then
            some (.float (mBToGain P.lConeOutsideVolume)) else none
        | .referenceDistance => if F .minDistance then some (.float P.flMinDistance) else none
        | .maxDistance => if F .maxDistance then some (.float P.flMaxDistance) else none
        | _ => none) := by
  cases k
  all_goals
    simp only [paramWrites, coneAngleWrites, last_append, last_when, last_cons, last_nil,
      last_modeWrites]
    simp [ite_and]

@[simp] theorem paramWrites_none (P imm : DS3DBuffer) : paramWrites parent P imm .none = [] := by
  simp [paramWrites, BufferFlags.none, when]

/-- What is written for a set of parameters after another one is what is written for
both: a mode hides what was written before to the attributes it writes, and the
other attributes belong to one flag each. -/
theorem write_paramWrites (F G : BufferFlags) (P Q R : DS3DBuffer) (a : SourceAttrs) :
    write (paramWrites parent P (copyParams F P (copyParams G Q R)) F)
        (write (paramWrites parent Q (copyParams G Q R) G) a) =
      write (paramWrites parent (copyParams F P Q) (copyParams F P (copyParams G Q R))
        (G.union F)) a := by
  rw [← write_append]
  apply write_congr
  intro k
  rw [last_append, last_paramWrites, last_paramWrites, last_paramWrites]
  cases k
  all_goals simp only [last_modeWrites, copyParams, BufferFlags.union, Bool.or_eq_true]
  all_goals by_cases hF : F .mode <;> by_cases hG : G .mode <;> simp [hF, hG]
  all_goals grind

/-- **Applying one set of parameters after another is applying both at once**, with
the later values over the earlier ones. -/
theorem setParams_setParams (parent : Parent) (F G : BufferFlags) (P Q : DS3DBuffer) (b : Buffer) :
    (b.setParams parent Q G).setParams parent P F =
      b.setParams parent (copyParams F P Q) (G.union F) := by
  simp only [setParams, writeSource, Option.map_map, Function.comp_def, write_paramWrites,
    ← copyParams_copyParams]

@[simp] theorem setParams_none (parent : Parent) (P : DS3DBuffer) (b : Buffer) :
    b.setParams parent P .none = b := by
  cases b with
  | mk => simp [setParams, writeSource]

/-- `commit` applies what is pending, also if that is nothing. -/
theorem commit_eq (parent : Parent) (b : Buffer) :
    b.commit parent = { b with mDirty := .none }.setParams parent b.mDeferred b.mDirty := by
  unfold commit
  by_cases hany : b.mDirty.any
  · simp [hany]
  · have hnone : b.mDirty = .none := by
      funext f
      cases f <;> simp_all [BufferFlags.any, BufferFlags.none]
    simp [hnone]

/-! ## Calls as sets of parameters -/

end Buffer

/-- The parameters of a setter for one flag. -/
def Buffer3DCall.one (valid : Bool) (flag : BufferFlag) (params : DS3DBuffer) :
    Option (BufferFlags × DS3DBuffer) :=
  if valid then some (.only flag, params) else none

/-- The parameters a call sets, unless its arguments are rejected. -/
def Buffer3DCall.update : Buffer3DCall → Option (BufferFlags × DS3DBuffer)
  | .setAllParameters none => none
  | .setAllParameters (some params) =>
    if params.dwSize < sizeofDS3DBuffer ∨ !Buffer.validParams params then none
    else some (.all, params)
  | .setConeAngles insideConeAngle outsideConeAngle =>
    one (insideConeAngle ≤ maxConeAngle ∧ outsideConeAngle ≤ maxConeAngle) .coneAngles
      { Buffer.defaultParams with
        dwInsideConeAngle := insideConeAngle, dwOutsideConeAngle := outsideConeAngle }
  | .setConeOrientation x y z =>
    one true .coneOrientation { Buffer.defaultParams with vConeOrientation := ⟨x, y, z⟩ }
  | .setConeOutsideVolume coneOutsideVolume =>
    one (validVolume coneOutsideVolume) .coneVolume
      { Buffer.defaultParams with lConeOutsideVolume := coneOutsideVolume }
  | .setMaxDistance maxDistance =>
    one (maxDistance ≥ 0) .maxDistance { Buffer.defaultParams with flMaxDistance := maxDistance }
  | .setMinDistance minDistance =>
    one (minDistance ≥ 0) .minDistance { Buffer.defaultParams with flMinDistance := minDistance }
  | .setMode mode => one (Buffer.validMode mode) .mode { Buffer.defaultParams with dwMode := mode }
  | .setPosition x y z => one true .position { Buffer.defaultParams with vPosition := ⟨x, y, z⟩ }
  | .setVelocity x y z => one true .velocity { Buffer.defaultParams with vVelocity := ⟨x, y, z⟩ }

namespace Buffer

variable {parent : Parent} {F : BufferFlags} {P : DS3DBuffer} {b : Buffer}

/-- Add a set of parameters to what is pending. -/
def defer (F : BufferFlags) (P : DS3DBuffer) (n : UInt32) (b : Buffer) : Buffer :=
  { b with
    mDeferred := { copyParams F P b.mDeferred with dwSize := n }
    mDirty := b.mDirty.union F }

/-- A setter whose arguments are accepted is `setParams` of one flag, or defers one
flag. -/
theorem setter_eq {flag : BufferFlag} {store : DS3DBuffer → DS3DBuffer}
    {writes : DS3DBuffer → SourceWrites} (hstore : ∀ Q, store Q = copyParams (.only flag) P Q)
    (hwrites : ∀ Q, writes Q = paramWrites parent P Q (.only flag)) (apply : UInt32) (b : Buffer) :
    setter true flag store writes apply b = (.ok,
      if apply = ds3dDeferred then b.defer (.only flag) P b.mDeferred.dwSize
      else b.setParams parent P (.only flag)) := by
  unfold setter
  by_cases ha : apply = ds3dDeferred
  · simp [ha, defer, hstore, copyParams]
  · simp [ha, setParams, hstore, hwrites]

/-- What a call does whose arguments give `u`: nothing if they are rejected; otherwise
it applies its parameters, or defers them. -/
def Performs (parent : Parent) (u : Option (BufferFlags × DS3DBuffer)) (apply : UInt32)
    (b : Buffer) (r : HResult × Buffer) : Prop :=
  match u with
  | none => r = (.invalidParam, b)
  | some (F, P) => ∃ n, r = (.ok,
      if apply = ds3dDeferred then b.defer F P n else b.setParams parent P F)

theorem performs_setter {flag : BufferFlag} {store : DS3DBuffer → DS3DBuffer}
    {writes : DS3DBuffer → SourceWrites} (hstore : ∀ Q, store Q = copyParams (.only flag) P Q)
    (hwrites : ∀ Q, writes Q = paramWrites parent P Q (.only flag)) (valid : Bool) (apply : UInt32)
    (b : Buffer) : Performs parent (Buffer3DCall.one valid flag P) apply b
      (setter valid flag store writes apply b) := by
  cases valid with
  | false => rfl
  | true => exact ⟨_, setter_eq hstore hwrites apply b⟩

theorem performs_setAllParameters (parent : Parent) (ds3dBuffer : Option DS3DBuffer)
    (apply : UInt32) (b : Buffer) :
    Performs parent (Buffer3DCall.setAllParameters ds3dBuffer).update apply b
      (setAllParameters parent ds3dBuffer apply b) := by
  cases ds3dBuffer with
  | none => rfl
  | some params =>
      simp only [setAllParameters, Buffer3DCall.update]
      by_cases hs : params.dwSize < sizeofDS3DBuffer
      · simp [hs, Performs]
      rcases hv : validParams params with _ | _
      · simp [Performs]
      · simp only [hs, Bool.not_true, Bool.false_eq_true, or_self, if_false]
        have hall : b.mDirty.union .all = .all := by
          funext f
          simp [BufferFlags.union, BufferFlags.all]
        refine ⟨sizeofDS3DBuffer, ?_⟩
        split_ifs
        · simp [defer, hall, copyParams, BufferFlags.all]
        · rfl

/-- **What a call does to a buffer.** -/
theorem performs_call3D (parent : Parent) (c : Buffer3DCall) (apply : UInt32) (b : Buffer) :
    Performs parent c.update apply b (b.call3D parent c apply) := by
  cases c with
  | setAllParameters ds3dBuffer => exact performs_setAllParameters parent ds3dBuffer apply b
  | _ =>
      simp only [call3D, Buffer3DCall.update, setConeAngles, setConeOrientation,
        setConeOutsideVolume, setMaxDistance, setMinDistance, setMode, setPosition, setVelocity]
      apply performs_setter
      · intro Q
        rfl
      · intro Q
        simp [paramWrites, BufferFlags.only, when, D3DVector.flipZ, coneAngleWrites]

/-! ## Deferred and immediate calls -/

/-- A buffer without what is pending. -/
def applied (b : Buffer) : Buffer := { b with mDeferred := defaultParams, mDirty := .none }

theorem applied_defer (F : BufferFlags) (P : DS3DBuffer) (n : UInt32) (b : Buffer) :
    (b.defer F P n).applied = b.applied := rfl

theorem applied_setParams (F : BufferFlags) (P : DS3DBuffer) (b : Buffer) :
    (b.setParams parent P F).applied = b.applied.setParams parent P F := rfl

theorem applied_commit (parent : Parent) (b : Buffer) :
    (b.commit parent).applied = b.applied.setParams parent b.mDeferred b.mDirty := by
  rw [commit_eq]
  rfl

/-- **A deferred call changes nothing but what is pending.** -/
theorem applied_call3D_deferred (parent : Parent) (c : Buffer3DCall) (b : Buffer) :
    (b.call3D parent c ds3dDeferred).2.applied = b.applied := by
  have h := performs_call3D parent c ds3dDeferred b
  revert h
  cases c.update with
  | none =>
      intro h
      rw [h]
  | some u =>
      rintro ⟨n, h⟩
      rw [h, if_pos rfl, applied_defer]

end Buffer

end Dsoal
