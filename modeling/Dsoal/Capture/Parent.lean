import Dsoal.Core.Capture
import Dsoal.Lib.Transition
import Mathlib.Data.Fintype.Basic

/-!
# Capture buffers without their parent

A `DSCBuffer` holds no reference to its `DSCapture`.  As long as the last reference to
the `DSCapture` is released after the buffers have been deleted, they only use the
mutex of a live object; a client that releases it before leaves buffers behind whose
methods, capture thread and destructor use a deleted one.
-/

namespace Dsoal

open TransitionSystem

/-- An operation on references deletes the object only when it finds the last one. -/
theorem RefStep.disposed_eq {θ : Type} [DecidableEq θ] {o : MultiObject} {refs refs' : RefState θ}
    {op : RefOp θ} (hs : RefStep o refs op refs') :
    refs'.disposed = refs.disposed ∨ (∃ t, op = .releaseDone t) ∧ refs.mTotalRef = 1 := by
  cases hs with
  | addRef | queryInterface | addRefDone | release | pass => exact .inl rfl
  | @releaseDone t i hp =>
      by_cases hone : refs.mTotalRef = 1
      · exact .inr ⟨⟨t, rfl⟩, hone⟩
      · exact .inl (if_neg hone)

namespace CaptureFamily

variable {θ β : Type} [DecidableEq θ] [DecidableEq β] {s s' : CaptureFamily θ β}
  {op : CaptureFamilyOp θ β}

/-- The step releases the last reference to the `DSCapture`, and there is a buffer. -/
def DeletesParent (s : CaptureFamily θ β) (op : CaptureFamilyOp θ β) : Prop :=
  (∃ t, op = .parent (.releaseDone t)) ∧ s.refs.mTotalRef = 1 ∧ ∃ b, s.buffers b ≠ none

/-- A buffer that exists has a parent that exists. -/
def ParentAlive (s : CaptureFamily θ β) : Prop := ∀ b, s.buffers b ≠ none → s.Alive

omit [DecidableEq θ] in
/-- A step that changes a buffer and leaves the references to the parent alone. -/
theorem ParentAlive.setBuffer (h : s.ParentAlive) {b : β} {c : Option (CaptureChild θ)}
    (hb : s.buffers b ≠ none) (used : Bool) :
    ParentAlive { s.setBuffer b c with usedDeleted := used } :=
  fun _ _ ↦ h b hb

/-- **Step lemma**: a buffer keeps its parent unless a step deletes that. -/
theorem ParentAlive.step (h : s.ParentAlive) (hop : ¬ s.DeletesParent op)
    (hs : CaptureStep s op s') : s'.ParentAlive := by
  cases hs with
  | parent alive step =>
      intro b hb
      rcases step.disposed_eq with heq | ⟨hrel, hone⟩
      · exact heq.trans (h b hb)
      · obtain ⟨t, rfl⟩ := hrel
        exact absurd ⟨⟨t, rfl⟩, hone, b, hb⟩ hop
  | createCaptureBuffer alive => exact fun _ _ ↦ alive
  | child live => exact h.setBuffer (by simp [live]) s.usedDeleted
  | method live => exact h.setBuffer (by simp [live]) _
  | quit live => exact h.setBuffer (by simp [live]) s.usedDeleted
  | delete live => exact h.setBuffer (by simp [live]) s.usedDeleted

/-- A step that deletes the parent of a buffer. -/
theorem DeletesParent.not_parentAlive (hop : s.DeletesParent op) (hs : CaptureStep s op s') :
    ¬ s'.ParentAlive := by
  obtain ⟨⟨t, rfl⟩, hone, b, hb⟩ := hop
  cases hs with
  | parent alive step =>
      intro halive
      have hzero : _ = 0 := halive b hb
      cases step with
      | releaseDone hp =>
          have hsucc : (s.refs.finalize t).disposed = s.refs.disposed + 1 := if_pos hone
          simp only [hsucc] at hzero
          exact absurd hzero (Nat.succ_ne_zero _)

/-- A step of a buffer whose parent exists uses no deleted mutex. -/
theorem ParentAlive.usedDeleted (h : s.ParentAlive) (hs : CaptureStep s op s') :
    s'.usedDeleted = s.usedDeleted := by
  cases hs with
  | @method b _ _ _ live =>
      have halive : s.Alive := h b (by simp [live])
      simp [halive]
  | parent | createCaptureBuffer | child | quit | delete => rfl

end CaptureFamily

variable {θ β : Type} [DecidableEq θ] [DecidableEq β] {s : CaptureFamily θ β}

/-- **A capture buffer has a live parent** in every state of a run in which the last
reference to the `DSCapture` is not released while a buffer exists, so that no step of a
method or of a capture thread uses a deleted mutex; and any step that releases the
reference then leaves a buffer without its parent. -/
theorem capture_parent_alive
    (h : Reachable (guarded (fun s op ↦ ¬ s.DeletesParent op) CaptureStep) CaptureFamily.IsNew s) :
    s.ParentAlive ∧ s.usedDeleted = false ∧
    ∀ op s', CaptureStep s op s' → (s'.ParentAlive ↔ ¬ s.DeletesParent op) := by
  obtain ⟨halive, hused⟩ : s.ParentAlive ∧ s.usedDeleted = false := by
    refine h.invariant (P := fun s ↦ s.ParentAlive ∧ s.usedDeleted = false) ?_ ?_
    · rintro t ⟨mIs8, u, rfl⟩
      exact ⟨fun b hb ↦ absurd rfl hb, rfl⟩
    · rintro t op t' ⟨halive, hused⟩ ⟨hop, hs⟩
      exact ⟨halive.step hop hs, (halive.usedDeleted hs).trans hused⟩
  exact ⟨halive, hused, fun op s' hs ↦
    ⟨fun h' hop ↦ hop.not_parentAlive hs h', fun hop ↦ halive.step hop hs⟩⟩

/-- A buffer is created and starts to capture. -/
theorem capture_parent_alive_one : ∃ s : CaptureFamily Unit Unit,
    Reachable (guarded (fun s op ↦ ¬ s.DeletesParent op) CaptureStep) CaptureFamily.IsNew s ∧
    s.buffers () ≠ none ∧ s.Alive := by
  have h0 : Reachable (guarded (fun s op ↦ ¬ s.DeletesParent op) CaptureStep)
      CaptureFamily.IsNew _ := .init (s := (⟨true, .created .dscapture (), fun _ ↦ none, false⟩ :
        CaptureFamily Unit Unit)) ⟨true, (), rfl⟩
  have h1 := h0.step (i := CaptureFamilyOp.createCaptureBuffer () () 4)
    ⟨by simp [CaptureFamily.DeletesParent], .createCaptureBuffer rfl rfl (by decide) rfl⟩
  have h2 := h1.step (i := CaptureFamilyOp.method () (.start () captureLooping))
    ⟨by simp [CaptureFamily.DeletesParent], .method rfl
      (fun _ _ h ↦ by cases h; exact ⟨rfl, rfl, by decide⟩) rfl⟩
  exact ⟨_, h2, nofun, (capture_parent_alive h2).1 () nofun⟩

/-- The reference to the `DSCapture` is released while the buffer captures, and the
capture thread locks the mutex of the deleted object. -/
theorem capture_parent_deleted : ∃ s : CaptureFamily Unit Unit,
    Reachable CaptureStep CaptureFamily.IsNew s ∧ s.buffers () ≠ none ∧ ¬ s.Alive ∧
    s.usedDeleted = true := by
  have h0 : Reachable CaptureStep CaptureFamily.IsNew _ :=
    .init (s := (⟨true, .created .dscapture (), fun _ ↦ none, false⟩ : CaptureFamily Unit Unit))
      ⟨true, (), rfl⟩
  have h1 := h0.step (i := CaptureFamilyOp.createCaptureBuffer () () 4)
    (.createCaptureBuffer rfl rfl (by decide) rfl)
  have h2 := h1.step (i := CaptureFamilyOp.method () (.start () captureLooping))
    (.method rfl (fun _ _ h ↦ by cases h; exact ⟨rfl, rfl, by decide⟩) rfl)
  have h3 := h2.step (.parent rfl (RefStep.release (t := ()) (i := .mDsRef) rfl (by decide)))
  have h4 := h3.step (.parent rfl (RefStep.releaseDone (t := ()) rfl))
  have h5 := h4.step (i := CaptureFamilyOp.method () (.captureThread 0)) (.method rfl nofun rfl)
  exact ⟨_, h5, nofun, by decide, by decide⟩

end Dsoal
