import Dsoal.Object.Access
import Mathlib.Tactic.Common

/-!
# The listener setters and `setParams`

As for the 3D buffers, a call of a listener setter amounts to a set of flags with
values for them, `ListenerCall.update`; an immediate call is `setListenerParams` of
that set, and a deferred one adds it to what is pending (`performs_callListener`).
-/

namespace Dsoal

/-! ## Sets of parameters -/

namespace PrimaryBuffer

/-- Copying twice is copying the later values over the earlier ones. -/
theorem copyParams_copyParams (F G : ListenerFlags) (P Q R : DS3DListener) :
    copyParams F P (copyParams G Q R) = copyParams (G.union F) (copyParams F P Q) R := by
  simp only [copyParams, ListenerFlags.union, Bool.or_eq_true]
  congr 1 <;> split_ifs <;> simp_all

/-- What `writeParams` leaves in each field. -/
theorem writeParams_eq (exts : Extensions) (P : DS3DListener) (F : ListenerFlags)
    (l : ListenerAttrs) : writeParams exts P F l = {
      gain := l.gain
      position := if F .position then P.vPosition.flipZ else l.position
      velocity := if F .velocity then P.vVelocity.flipZ else l.velocity
      orientFront := if F .orientation then P.vOrientFront.flipZ else l.orientFront
      orientTop := if F .orientation then P.vOrientTop.flipZ else l.orientTop
      speedOfSound := if F .distanceFactor then 343.3 / P.flDistanceFactor else l.speedOfSound
      metersPerUnit :=
        if F .distanceFactor && exts.efx then P.flDistanceFactor else l.metersPerUnit
      dopplerFactor := if F .dopplerFactor then P.flDopplerFactor else l.dopplerFactor } := by
  unfold writeParams writeDistanceFactor
  cases F .position <;> cases F .velocity <;> cases F .orientation <;>
    cases F .distanceFactor <;> cases F .dopplerFactor <;> cases exts.efx <;> rfl

/-- Writing two sets of parameters to the listener is writing the later values over
the earlier ones. -/
theorem writeParams_writeParams (exts : Extensions) (F G : ListenerFlags) (P Q : DS3DListener)
    (l : ListenerAttrs) :
    writeParams exts P F (writeParams exts Q G l) =
      writeParams exts (copyParams F P Q) (G.union F) l := by
  simp only [writeParams_eq, copyParams, ListenerFlags.union, Bool.or_eq_true, Bool.and_eq_true]
  congr 1 <;> split_ifs <;> simp_all

end PrimaryBuffer

/-- The parameters of a setter for one flag. -/
def ListenerCall.one (valid : Bool) (flag : ListenerFlag) (params : DS3DListener) :
    Option (ListenerFlags × DS3DListener) :=
  if valid then some (.only flag, params) else none

/-- The parameters a call sets, unless its arguments are rejected. -/
def ListenerCall.update : ListenerCall → Option (ListenerFlags × DS3DListener)
  | .setAllParameters none => none
  | .setAllParameters (some params) =>
    if params.dwSize < sizeofDS3DListener ∨ !PrimaryBuffer.validParams params then none
    else some (.all, params)
  | .setDistanceFactor distanceFactor =>
    one (PrimaryBuffer.validDistanceFactor distanceFactor) .distanceFactor
      { PrimaryBuffer.defaultParams with flDistanceFactor := distanceFactor }
  | .setDopplerFactor dopplerFactor =>
    one (PrimaryBuffer.validFactor dopplerFactor) .dopplerFactor
      { PrimaryBuffer.defaultParams with flDopplerFactor := dopplerFactor }
  | .setOrientation xFront yFront zFront xTop yTop zTop =>
    one true .orientation { PrimaryBuffer.defaultParams with
      vOrientFront := ⟨xFront, yFront, zFront⟩, vOrientTop := ⟨xTop, yTop, zTop⟩ }
  | .setPosition x y z =>
    one true .position { PrimaryBuffer.defaultParams with vPosition := ⟨x, y, z⟩ }
  | .setRolloffFactor rolloffFactor =>
    one (PrimaryBuffer.validFactor rolloffFactor) .rolloffFactor
      { PrimaryBuffer.defaultParams with flRolloffFactor := rolloffFactor }
  | .setVelocity x y z =>
    one true .velocity { PrimaryBuffer.defaultParams with vVelocity := ⟨x, y, z⟩ }

namespace DSound8OAL

variable {s s' : DSound8OAL} {hr : HResult} {P : DS3DListener} {F : ListenerFlags}

/-! ## Calls as sets of parameters -/

/-- Add a set of listener parameters to what is pending. -/
def deferParams (F : ListenerFlags) (P : DS3DListener) (n : UInt32) (s : DSound8OAL) : DSound8OAL :=
  s.deferListener F fun Q ↦ { PrimaryBuffer.copyParams F P Q with dwSize := n }

/-- What a call does whose arguments give `u`: nothing if they are rejected; otherwise
it applies its parameters, or defers them. -/
def Performs (u : Option (ListenerFlags × DS3DListener)) (apply : UInt32) (s : DSound8OAL)
    (r : Option (HResult × DSound8OAL)) : Prop :=
  match u with
  | none => r = some (.invalidParam, s)
  | some (F, P) =>
    if apply = ds3dDeferred then ∃ n, r = some (.ok, s.deferParams F P n)
    else r = (s.setListenerParams P F).map fun s ↦ (.ok, s)

theorem performs_listenerSetter {flag : ListenerFlag} {store : DS3DListener → DS3DListener}
    {write : DSound8OAL → Option DSound8OAL}
    (hstore : ∀ Q, store Q = PrimaryBuffer.copyParams (.only flag) P Q)
    (hwrite : write { s with mPrimaryBuffer := { s.mPrimaryBuffer with
      mImmediate := PrimaryBuffer.copyParams (.only flag) P s.mPrimaryBuffer.mImmediate } } =
        s.setListenerParams P (.only flag)) (valid : Bool) (apply : UInt32) :
    Performs (ListenerCall.one valid flag P) apply s
      (listenerSetter valid flag store write apply s) := by
  cases valid with
  | false => rfl
  | true =>
      simp only [Performs, ListenerCall.one, listenerSetter, Bool.not_true, Bool.false_eq_true,
        if_false, if_true]
      split_ifs with ha
      · refine ⟨s.mPrimaryBuffer.mDeferred.dwSize, ?_⟩
        rw [deferParams, deferListener, deferListener, hstore]
        rfl
      · rw [hstore, hwrite]
        cases s.setListenerParams P (.only flag) <;> rfl

theorem performs_listenerSetAllParameters (listener : Option DS3DListener) (apply : UInt32)
    (s : DSound8OAL) :
    Performs (ListenerCall.setAllParameters listener).update apply s
      (listenerSetAllParameters listener apply s) := by
  cases listener with
  | none => rfl
  | some params =>
      simp only [listenerSetAllParameters, ListenerCall.update]
      by_cases hs : params.dwSize < sizeofDS3DListener
      · simp [hs, Performs]
      rcases hv : PrimaryBuffer.validParams params with _ | _
      · simp [Performs]
      · simp only [hs, Bool.not_true, Bool.false_eq_true, or_self, if_false, Performs]
        split_ifs
        · exact ⟨sizeofDS3DListener, rfl⟩
        · cases s.setListenerParams params .all <;> rfl

/-- **What a call does to the object.** -/
theorem performs_callListener (c : ListenerCall) (apply : UInt32) (s : DSound8OAL) :
    Performs c.update apply s (s.callListener c apply) := by
  cases c with
  | setAllParameters listener => exact performs_listenerSetAllParameters listener apply s
  | _ =>
      simp only [callListener, ListenerCall.update, setDistanceFactor, setDopplerFactor,
        setOrientation, listenerSetPosition, setRolloffFactor, listenerSetVelocity]
      apply performs_listenerSetter
      · intro Q
        rfl
      · rfl

/-- What a call does that returns. -/
theorem callListener_cases {c : ListenerCall} {apply : UInt32}
    (hc : s.callListener c apply = some (hr, s')) :
    (c.update = none ∧ hr = .invalidParam ∧ s' = s) ∨
    ∃ F P, c.update = some (F, P) ∧ hr = .ok ∧
      ((apply = ds3dDeferred ∧ ∃ n, s' = s.deferParams F P n) ∨
        (apply ≠ ds3dDeferred ∧ s.setListenerParams P F = some s')) := by
  have hperforms := performs_callListener c apply s
  rw [hc] at hperforms
  cases hu : c.update with
  | none =>
      rw [hu] at hperforms
      cases hperforms
      exact .inl ⟨rfl, rfl, rfl⟩
  | some u =>
      obtain ⟨F, P⟩ := u
      rw [hu] at hperforms
      unfold Performs at hperforms
      dsimp only at hperforms
      split at hperforms
      · rename_i hdeferred
        obtain ⟨n, hn⟩ := hperforms
        cases hn
        exact .inr ⟨F, P, rfl, rfl, .inl ⟨hdeferred, n, rfl⟩⟩
      · rename_i himmediate
        obtain ⟨s₁, hset, heq⟩ := Option.map_eq_some_iff.mp hperforms.symm
        cases heq
        exact .inr ⟨F, P, rfl, rfl, .inr ⟨himmediate, hset⟩⟩

end DSound8OAL

end Dsoal
