import Dsoal.Core.Primary
import Dsoal.Params.Render

/-!
# The rolloff factor and pending parameters

The rolloff factor of the listener is written to the sources of the 3D buffers, unless
their mode is `DS3DMODE_DISABLE`; the mode of a buffer is itself a parameter that can be
pending.  What matters is the order: a change of the listener comes before the commit
of the buffers when both are pending, and after it when the buffer has been committed
before.  `follow_commit` says that the source ends up the same.
-/

namespace Dsoal

open Store

namespace Buffer

variable {parent : Parent} {P : DS3DBuffer} {F : BufferFlags} {rolloff rolloff' : Float32}
  {n : UInt32} {b : Buffer}

/-- The writes of a walk that changes the rolloff factor. -/
theorem writeRolloff_eq (rolloff : Float32) (b : Buffer) :
    b.writeRolloff rolloff = b.writeSource
      (when (b.mImmediate.dwMode ≠ Mode.disable) [(.rolloffFactor, .float rolloff)]) := by
  unfold writeRolloff
  by_cases hm : b.mImmediate.dwMode = Mode.disable
  · simp [hm]
  · simp [hm]

theorem applied_writeRolloff (rolloff : Float32) (b : Buffer) :
    (b.writeRolloff rolloff).applied = b.applied.writeRolloff rolloff := by
  simp only [writeRolloff_eq]
  rfl

/-- Only the last rolloff factor counts. -/
theorem writeRolloff_writeRolloff (rolloff rolloff' : Float32) (b : Buffer) :
    (b.writeRolloff rolloff).writeRolloff rolloff' = b.writeRolloff rolloff' := by
  simp only [writeRolloff_eq, writeSource, Option.map_map, Function.comp_def, ← write_append]
  congr 2
  funext src
  congr 1
  apply write_congr
  intro k
  rw [last_append, last_when, last_when]
  split_ifs <;> cases k <;> simp [last_cons]

theorem writeRolloff_defer (rolloff : Float32) (F : BufferFlags) (P : DS3DBuffer) (n : UInt32)
    (b : Buffer) : (b.defer F P n).writeRolloff rolloff = (b.writeRolloff rolloff).defer F P n := by
  simp only [writeRolloff_eq]
  rfl

/-- **Changing the rolloff factor after or before a set of parameters is applied**: if the
set contains the mode, it writes the rolloff factor as well. -/
theorem writeRolloff_setParams (rolloff : Float32) (parent : Parent) (P : DS3DBuffer)
    (F : BufferFlags) (b : Buffer) :
    (b.setParams parent P F).writeRolloff rolloff =
      (b.writeRolloff rolloff).setParams { parent with rolloffFactor := rolloff } P F := by
  simp only [writeRolloff_eq, setParams, writeSource, Option.map_map, Function.comp_def,
    ← write_append]
  congr 2
  funext src
  congr 1
  apply write_congr
  intro k
  rw [last_append, last_append, last_paramWrites, last_paramWrites, last_when, last_when]
  cases k
  all_goals simp only [last_modeWrites, last_cons, last_nil, copyParams]
  all_goals by_cases hF : F .mode <;> simp [hF]
  all_goals grind

theorem writeRolloff_commit (rolloff : Float32) (parent : Parent) (b : Buffer) :
    (b.commit parent).writeRolloff rolloff =
      (b.writeRolloff rolloff).commit { parent with rolloffFactor := rolloff } := by
  rw [commit_eq, commit_eq, writeRolloff_setParams]
  simp only [writeRolloff_eq]
  rfl

/-- **Committing what has been deferred last** is committing the rest, and applying it then. -/
theorem applied_commit_defer (parent : Parent) (F : BufferFlags) (P : DS3DBuffer) (n : UInt32)
    (b : Buffer) : ((b.defer F P n).commit parent).applied =
      (b.commit parent).applied.setParams parent P F := by
  rw [applied_commit, applied_commit, setParams_setParams]
  rfl

/-! ## What listener parameters do to a buffer -/

/-- What `setParams` of the listener does to a 3D buffer. -/
def follow (F : ListenerFlags) (P : DS3DListener) (b : Buffer) : Buffer :=
  if F .rolloffFactor then b.writeRolloff P.flRolloffFactor else b

variable {G : ListenerFlags} {Q R : DS3DListener}

theorem applied_follow (G : ListenerFlags) (Q : DS3DListener) (b : Buffer) :
    (b.follow G Q).applied = b.applied.follow G Q := by
  unfold follow
  split_ifs
  · exact applied_writeRolloff _ b
  · rfl

theorem follow_defer (G : ListenerFlags) (Q : DS3DListener) (F : BufferFlags) (P : DS3DBuffer)
    (n : UInt32) (b : Buffer) : (b.defer F P n).follow G Q = (b.follow G Q).defer F P n := by
  unfold follow
  split_ifs
  · exact writeRolloff_defer _ F P n b
  · rfl

/-- **Listener parameters before or after the commit of a buffer.** -/
theorem follow_commit (parent : Parent) (F G : ListenerFlags) (P Q : DS3DListener) (b : Buffer) :
    ((b.follow G Q).commit parent).follow F P =
      (b.follow (G.union F) (PrimaryBuffer.copyParams F P Q)).commit { parent with
        rolloffFactor :=
          if F .rolloffFactor then P.flRolloffFactor else parent.rolloffFactor } := by
  unfold follow
  cases hF : F .rolloffFactor with
  | false => simp [PrimaryBuffer.copyParams, ListenerFlags.union, hF]
  | true =>
      simp only [PrimaryBuffer.copyParams, ListenerFlags.union, hF, if_true, Bool.or_true,
        writeRolloff_commit]
      cases hG : G .rolloffFactor with
      | false => rfl
      | true => rw [if_pos rfl, writeRolloff_writeRolloff]

end Buffer

end Dsoal
