import Dsoal.Core.NotifyThread
import Dsoal.Object.Steps

/-!
# No lost wakeup

The notify thread blocks without a time limit only while no buffer is registered and
the destructor has not notified (`no_lost_wakeup`), however its steps interleave
with the calls and with the destructor.

A call can make the list nonempty while the thread is blocked, and then notifies it,
because the list was empty: that is the invariant itself.  The destructor sets
`mQuitNotify` without the mutex, possibly after the thread has read it; but it takes
the mutex before it notifies, and a thread that has read `mQuitNotify` keeps the
mutex until it is blocked.
-/

namespace Dsoal

open TransitionSystem

namespace DSound8OAL

variable {s s' : DSound8OAL} {es : List Registered} {p : Ptr}

/-! ## What the calls do to the list -/

/-- No buffer is registered that was not, and the thread is the same. -/
structure ListShrinks (s s' : DSound8OAL) : Prop where
  sublist : s'.mNotifyBuffers.Sublist s.mNotifyBuffers
  thread : s'.mNotifyThread = s.mNotifyThread

namespace ListShrinks

/-- Nothing changes. -/
theorem refl (s : DSound8OAL) : s.ListShrinks s := ⟨List.Sublist.refl _, rfl⟩

/-- A change of a buffer. -/
theorem setBuffer (s : DSound8OAL) (p : Ptr) (b : Buffer) : s.ListShrinks (s.setBuffer p b) :=
  ⟨List.Sublist.refl _, rfl⟩

/-- One call after the other. -/
theorem trans {s'' : DSound8OAL} (h : s.ListShrinks s') (h' : s'.ListShrinks s'') :
    s.ListShrinks s'' := ⟨h'.sublist.trans h.sublist, h'.thread.trans h.thread⟩

/-- An empty list stays empty. -/
theorem eq_nil (h : s.ListShrinks s') (hs : s.mNotifyBuffers = []) : s'.mNotifyBuffers = [] :=
  List.sublist_nil.mp (hs ▸ h.sublist)

end ListShrinks

/-- `triggerNotifies` registers no buffer. -/
theorem triggerNotifies_shrinks (h : s.triggerNotifies = some s') : s.ListShrinks s' := by
  obtain ⟨gs, sig, kept, hsub, rfl⟩ := eq_of_triggerNotifies h
  exact ⟨hsub, rfl⟩

/-- Neither do `triggerNotifies` and `removeNotifyBuffer`. -/
theorem triggerRemove_shrinks
    (h : (s.triggerNotifies.map fun t ↦ t.removeNotifyBuffer p) = some s') :
    s.ListShrinks s' := by
  obtain ⟨s₁, hs₁, rfl⟩ := Option.map_eq_some_iff.mp h
  have hp := triggerNotifies_shrinks hs₁
  exact ⟨List.filter_sublist.trans hp.sublist, hp.thread⟩

/-- `Stop` registers no buffer. -/
theorem stop_shrinks {hr : HResult} (h : s.stop p = some (hr, s')) : s.ListShrinks s' := by
  obtain ⟨rfl, -⟩ | ⟨b, src, sb, s₁, b₁, -, -, -, hs₁, -, rfl⟩ := stop_cases h
  · exact .refl _
  have h₁ : s.ListShrinks s₁ := by
    rcases hs₁ with ⟨-, rfl⟩ | ⟨-, hs₁⟩
    · exact .setBuffer s p _
    · exact (ListShrinks.setBuffer s p _).trans (triggerRemove_shrinks hs₁)
  exact h₁.trans (.setBuffer s₁ p _)

/-- `SetNotificationPositions` registers no buffer. -/
theorem setNotificationPositions_shrinks {notifies : Option (List (PositionNotify EventHandle))}
    {hr : HResult} (h : s.setNotificationPositions p notifies = some (hr, s')) :
    s.ListShrinks s' := by
  obtain ⟨b, s₁, -, hs₁, hs'⟩ := setNotificationPositions_cases h
  have h₁ : s.ListShrinks s₁ := by
    rcases hs₁ with ⟨-, rfl⟩ | ⟨-, hs₁⟩
    · exact .refl _
    · exact triggerRemove_shrinks hs₁
  rcases hs' with rfl | ⟨b₁, newNots, -, -, rfl⟩
  · exact h₁
  · exact h₁.trans (.setBuffer s₁ p _)

end DSound8OAL

namespace NotifyRun

variable {r r' : NotifyRun} {p : Ptr}

/-! ## The calls of the model are those of the object -/

/-- `addNotifyBuffer` does to the object what it does without the threads. -/
theorem addNotifyBuffer_object (b : Buffer) :
    (r.addNotifyBuffer p b).object = r.object.addNotifyBuffer p b := by
  unfold addNotifyBuffer
  by_cases hp : r.object.isPendingNotify p
  · rw [if_pos hp, DSound8OAL.addNotifyBuffer, if_pos hp]
  · rw [if_neg hp]
    dsimp only
    split_ifs
    all_goals rfl

/-- **`Play` changes the object** as it does without the threads. -/
theorem play_object {priority flags : UInt32} {started : Bool} :
    ((r.play p priority flags started).map fun x ↦ (x.1, x.2.object)) =
      r.object.play p priority flags started := by
  unfold play DSound8OAL.play
  rw [Option.bind_eq_bind, Option.map_bind]
  refine Option.bind_congr fun b _ ↦ ?_
  dsimp only [Function.comp]
  rw [Option.bind_eq_bind, Option.map_bind]
  refine Option.bind_congr fun dev _ ↦ ?_
  dsimp only [Function.comp]
  rw [Option.bind_eq_bind, Option.map_bind]
  refine Option.bind_congr fun ⟨hr, b, dev, notify⟩ _ ↦ ?_
  cases notify with
  | false => rfl
  | true => exact congrArg (fun s ↦ some (hr, s)) (addNotifyBuffer_object b)

/-- `Play` changes the buffer and the device, and may then register the buffer. -/
theorem play_cases {priority flags : UInt32} {started : Bool} {hr : HResult}
    (h : r.play p priority flags started = some (hr, r')) :
    ∃ object : DSound8OAL, r.object.ListShrinks object ∧
      (r' = { r with object := object } ∨
        ∃ b, r' = { r with object := object }.addNotifyBuffer p b) := by
  obtain ⟨b, -, h⟩ := Option.bind_eq_some_iff.mp h
  obtain ⟨dev, -, h⟩ := Option.bind_eq_some_iff.mp h
  obtain ⟨⟨hr₁, b', dev', notify⟩, -, h⟩ := Option.bind_eq_some_iff.mp h
  cases h
  refine ⟨{ r.object.setBuffer p b' with mShared := some dev' }, ⟨List.Sublist.refl _, rfl⟩, ?_⟩
  split_ifs
  · exact .inr ⟨b', rfl⟩
  · exact .inl rfl

/-! ## The invariant -/

/-- Where the notify thread can be, for each position of the destructor. -/
structure Awake (r : NotifyRun) : Prop where
  /-- A thread that blocks without a time limit has nothing to poll. -/
  empty : r.thread = .waiting false → r.object.mNotifyBuffers = []
  /-- The thread is started with the first buffer. -/
  unstarted : r.thread = .unstarted → r.object.mNotifyBuffers = []
  joinable : r.destructor ≠ .finished →
    (r.object.mNotifyThread = false ↔ r.thread = .unstarted)
  /-- Once the destructor has had the mutex, the thread has not yet read
  `mQuitNotify`, is blocked, or has read that it is set. -/
  quit : r.destructor = .locked ∨ r.destructor = .unlocked ∨ r.destructor = .joining →
    r.thread ≠ .looking
  isSet : r.destructor = .locking ∨ r.destructor = .locked ∨ r.destructor = .unlocked ∨
    r.destructor = .joining → r.mQuitNotify = true
  joining : r.destructor = .joining → r.thread ≠ .waiting false
  finished : r.destructor = .finished → r.thread = .unstarted ∨ r.thread = .exited

namespace Awake

theorem new (is8 : Bool) : Awake { object := .new is8 } where
  empty _ := rfl
  unstarted _ := rfl
  joinable _ := iff_of_true rfl rfl
  quit := by simp
  isSet := by simp
  joining := nofun
  finished := nofun

/-- A change of the object that registers no buffer. -/
theorem shrinks (h : r.Awake) {object : DSound8OAL} (hobj : r.object.ListShrinks object) :
    Awake { r with object := object } where
  empty hw := hobj.eq_nil (h.empty hw)
  unstarted hu := hobj.eq_nil (h.unstarted hu)
  joinable hd := (by rw [hobj.thread] : _ ↔ _).trans (h.joinable hd)
  quit := h.quit
  isSet := h.isSet
  joining := h.joining
  finished := h.finished

/-- **Registering a buffer** wakes the thread if it is blocked, and starts it if
there is none. -/
theorem addNotifyBuffer (h : r.Awake) (hd : r.destructor ≠ .finished)
    (hl : r.thread.locks = false) (p : Ptr) (b : Buffer) : (r.addNotifyBuffer p b).Awake := by
  unfold NotifyRun.addNotifyBuffer
  by_cases hp : r.object.isPendingNotify p
  · rwa [if_pos hp]
  rw [if_neg hp]
  have hlist : (r.object.addNotifyBuffer p b).mNotifyBuffers =
      r.object.mNotifyBuffers ++ [⟨p, b.born⟩] := by
    rw [DSound8OAL.addNotifyBuffer, if_neg hp]
  have hthread : (r.object.addNotifyBuffer p b).mNotifyThread = true := by
    rw [DSound8OAL.addNotifyBuffer, if_neg hp]
  dsimp only
  cases hj : r.object.mNotifyThread with
  | false =>
      -- the first buffer: the thread is started, and begins at the mutex
      have hu := (h.joinable hd).mp hj
      exact {
        empty := nofun
        unstarted := nofun
        joinable := fun _ ↦ by simp [hthread]
        quit := fun _ ↦ nofun
        isSet := h.isSet
        joining := fun _ ↦ nofun
        finished := fun hf ↦ absurd hf hd }
  | true =>
      have hs : r.thread ≠ .unstarted := fun hu ↦ by simp [(h.joinable hd).mpr hu] at hj
      by_cases hone : (r.object.addNotifyBuffer p b).mNotifyBuffers.length = 1
      · -- the list was empty: the thread is notified
        have hn : r.thread.notifyAll ≠ .waiting false ∧ r.thread.notifyAll ≠ .unstarted ∧
            r.thread.notifyAll ≠ .looking := by
          cases hr : r.thread <;> simp_all [NotifyPc.notifyAll, NotifyPc.locks]
        simp only [hone, Bool.not_true, Bool.false_eq_true, if_false, if_true]
        exact {
          empty := fun hw ↦ absurd hw hn.1
          unstarted := fun hu ↦ absurd hu hn.2.1
          joinable := fun _ ↦ by simp [hthread, hn.2.1]
          quit := fun _ ↦ hn.2.2
          isSet := h.isSet
          joining := fun _ ↦ hn.1
          finished := fun hf ↦ absurd hf hd }
      · -- the list was not empty: the thread is not blocked
        simp only [hone, Bool.not_true, Bool.false_eq_true, if_false]
        exact {
          empty := fun hw ↦ absurd (by rw [hlist, h.empty hw]; rfl) hone
          unstarted := fun hu ↦ absurd hu hs
          joinable := fun _ ↦ by simp [hthread, hs]
          quit := h.quit
          isSet := h.isSet
          joining := h.joining
          finished := fun hf ↦ absurd hf hd }

/-- The thread goes on. -/
theorem goto (h : r.Awake) (hd : r.destructor ≠ .finished) (hs : r.thread ≠ .unstarted)
    {pc : NotifyPc} (hpc : pc ≠ .unstarted)
    (hwait : pc = .waiting false → r.object.mNotifyBuffers = [] ∧ r.destructor ≠ .joining)
    (hlook : pc = .looking →
      ¬ (r.destructor = .locked ∨ r.destructor = .unlocked ∨ r.destructor = .joining)) :
    Awake { r with thread := pc } where
  empty hw := (hwait hw).1
  unstarted hu := absurd hu hpc
  joinable hd := (h.joinable hd).trans (iff_of_false hs hpc)
  quit hq hl := hlook hl hq
  isSet := h.isSet
  joining hj hw := (hwait hw).2 hj
  finished hf := absurd hf hd

/-- **A step of the notify thread.** -/
theorem notifyThread (h : r.Awake) (hs : r.notifyThread = some r') : r'.Awake := by
  -- a thread that can take a step has been started and not joined
  have hd : ∀ pc, r.thread = pc → pc ≠ .unstarted → pc ≠ .exited → r.destructor ≠ .finished := by
    rintro pc rfl hu he hf
    rcases h.finished hf with hr | hr
    · exact hu hr
    · exact he hr
  unfold NotifyRun.notifyThread at hs
  cases hr : r.thread with
  | unstarted => simp [hr] at hs
  | exited => simp [hr] at hs
  | locking =>
      simp only [hr] at hs
      split_ifs at hs
      cases hs
      exact h.goto (hd _ hr nofun nofun) (by simp [hr]) nofun nofun nofun
  | checking =>
      simp only [hr, Option.some.injEq] at hs
      cases hs
      by_cases hq : r.mQuitNotify
      · rw [if_pos hq]
        exact h.goto (hd _ hr nofun nofun) (by simp [hr]) nofun nofun nofun
      · rw [if_neg hq]
        -- `mQuitNotify` is set before the destructor takes the mutex
        exact h.goto (hd _ hr nofun nofun) (by simp [hr]) nofun nofun
          fun _ hl ↦ hq (h.isSet (.inr hl))
  | looking =>
      have hquit : ¬ (r.destructor = .locked ∨ r.destructor = .unlocked ∨
          r.destructor = .joining) := fun hq ↦ h.quit hq hr
      have hd := hd _ hr nofun nofun
      simp only [hr] at hs
      split_ifs at hs with hempty
      · cases hs
        exact h.goto hd (by simp [hr]) nofun
          (fun _ ↦ ⟨List.isEmpty_iff.mp hempty, fun hj ↦ hquit (.inr (.inr hj))⟩) nofun
      · obtain ⟨object, hobj, rfl⟩ := Option.map_eq_some_iff.mp hs
        have hshrinks := h.shrinks (DSound8OAL.triggerNotifies_shrinks hobj)
        exact hshrinks.goto hd (by simp [hr]) nofun nofun nofun
  | waiting n =>
      simp only [hr, Option.some.injEq] at hs
      cases hs
      exact h.goto (hd _ hr nofun nofun) (by simp [hr]) nofun nofun nofun
  | waitingFor =>
      simp only [hr, Option.some.injEq] at hs
      cases hs
      exact h.goto (hd _ hr nofun nofun) (by simp [hr]) nofun nofun nofun

/-- **A step of the destructor.** -/
theorem destroy (h : r.Awake) (hs : r.destroy = some r') : r'.Awake := by
  unfold NotifyRun.destroy at hs
  cases hd : r.destructor with
  | uncalled =>
      simp only [hd, Option.some.injEq] at hs
      cases hs
      have hj := h.joinable (by simp [hd])
      by_cases ht : r.object.mNotifyThread
      · rw [if_pos ht]
        exact { h with
          joinable := fun _ ↦ hj
          quit := by simp
          isSet := by simp
          joining := nofun
          finished := nofun }
      · rw [if_neg ht]
        exact { h with
          joinable := fun _ ↦ hj
          quit := by simp
          isSet := by simp
          joining := nofun
          finished := fun _ ↦ .inl (hj.mp (Bool.eq_false_iff.mpr ht)) }
  | quitting =>
      simp only [hd, Option.some.injEq] at hs
      cases hs
      exact { h with
        joinable := fun _ ↦ h.joinable (by simp [hd])
        quit := by simp
        isSet := fun _ ↦ rfl
        joining := nofun
        finished := nofun }
  | locking =>
      simp only [hd] at hs
      split_ifs at hs with hl
      cases hs
      exact { h with
        joinable := fun _ ↦ h.joinable (by simp [hd])
        quit := fun _ hlook ↦ hl (by rw [hlook]; rfl)
        isSet := fun _ ↦ h.isSet (.inl hd)
        joining := nofun
        finished := nofun }
  | locked =>
      simp only [hd, Option.some.injEq] at hs
      cases hs
      exact { h with
        joinable := fun _ ↦ h.joinable (by simp [hd])
        quit := fun _ ↦ h.quit (.inl hd)
        isSet := fun _ ↦ h.isSet (.inr (.inl hd))
        joining := nofun
        finished := nofun }
  | unlocked =>
      simp only [hd, Option.some.injEq] at hs
      cases hs
      have hquit := h.quit (.inr (.inl hd))
      have hn : r.thread.notifyAll ≠ .waiting false ∧ r.thread.notifyAll ≠ .looking ∧
          (r.thread.notifyAll = .unstarted ↔ r.thread = .unstarted) := by
        cases hr : r.thread <;> simp_all [NotifyPc.notifyAll]
      exact {
        empty := fun hw ↦ absurd hw hn.1
        unstarted := fun hu ↦ h.unstarted (hn.2.2.mp hu)
        joinable := fun _ ↦ (h.joinable (by simp [hd])).trans hn.2.2.symm
        quit := fun _ ↦ hn.2.1
        isSet := fun _ ↦ h.isSet (.inr (.inr (.inl hd)))
        joining := fun _ ↦ hn.1
        finished := nofun }
  | joining =>
      simp only [hd] at hs
      split_ifs at hs with he
      cases hs
      exact {
        empty := h.empty
        unstarted := h.unstarted
        joinable := fun hf ↦ absurd rfl hf
        quit := by simp
        isSet := by simp
        joining := nofun
        finished := fun _ ↦ .inr he }
  | finished => simp [hd] at hs

/-- **Step lemma.** -/
theorem step (h : r.Awake) {op : NotifyOp} (hs : r.exec op = some r') : r'.Awake := by
  cases op with
  | play p priority flags started =>
      obtain ⟨⟨hl, -, hd⟩, hs⟩ := Option.ite_none_right_eq_some.mp hs
      obtain ⟨⟨hr, r''⟩, hplay, rfl⟩ := Option.map_eq_some_iff.mp hs
      obtain ⟨object, hobj, rfl | ⟨b, rfl⟩⟩ := play_cases hplay
      · exact h.shrinks hobj
      · exact (h.shrinks hobj).addNotifyBuffer hd hl p b
  | stop p =>
      obtain ⟨-, hs⟩ := Option.ite_none_right_eq_some.mp hs
      obtain ⟨⟨hr, object⟩, hstop, rfl⟩ := Option.map_eq_some_iff.mp hs
      exact h.shrinks (DSound8OAL.stop_shrinks hstop)
  | setNotificationPositions p notifies =>
      obtain ⟨-, hs⟩ := Option.ite_none_right_eq_some.mp hs
      obtain ⟨⟨hr, object⟩, hset, rfl⟩ := Option.map_eq_some_iff.mp hs
      exact h.shrinks (DSound8OAL.setNotificationPositions_shrinks hset)
  | other object =>
      obtain ⟨⟨hlist, hthread⟩, hs⟩ := Option.ite_none_right_eq_some.mp hs
      cases hs
      exact h.shrinks ⟨hlist ▸ List.Sublist.refl _, hthread⟩
  | notifyThread => exact h.notifyThread hs
  | destructor => exact h.destroy hs

/-- **Run lemma.** -/
theorem of_reachable (h : Reachable (functional exec) IsNew r) : r.Awake :=
  h.invariant (P := Awake) (fun _ ⟨is8, hr⟩ ↦ hr ▸ .new is8) fun _ _ _ h hs ↦ h.step hs

end Awake

end NotifyRun

variable {r : NotifyRun}

/-- **No wakeup is lost.**  In every run of the calls, the notify thread and the
destructor, the thread is blocked without a time limit and not notified only while
no buffer is registered and the destructor has not notified it; and while a buffer is
registered the thread has been started. -/
theorem no_lost_wakeup (h : Reachable (functional NotifyRun.exec) NotifyRun.IsNew r) :
    (r.thread = .waiting false → r.object.mNotifyBuffers = [] ∧
      ¬ (r.mQuitNotify = true ∧ r.destructor.HasNotified)) ∧
    (r.object.mNotifyBuffers ≠ [] → r.thread ≠ .unstarted) := by
  have ha := NotifyRun.Awake.of_reachable h
  refine ⟨fun hw ↦ ⟨ha.empty hw, ?_⟩, fun hne hu ↦ hne (ha.unstarted hu)⟩
  rintro ⟨-, hj | hf⟩
  · exact ha.joining hj hw
  · rcases ha.finished hf with hr | hr
    all_goals simp [hr] at hw

/-- An object with a buffer that has a notification position. -/
def withPosition : DSound8OAL :=
  letI : Abi := ⟨⟨600, by decide⟩⟩
  let ops := [initializeOne, createMono (Caps.ctrlPositionNotify ||| Caps.locHardware),
    .setNotificationPositions ⟨4096, 0⟩ (some [⟨0, 7⟩])]
  (runFun (fun s op ↦ (DSound8OAL.exec s op).map Prod.snd) (.new true) ops).getD (.new true)

set_option maxRecDepth 4000 in
/-- The buffer is played and stopped, the thread finds the list empty, and the
destructor has had the mutex and is about to notify. -/
theorem no_lost_wakeup_quit :
    ∃ r, Reachable (functional NotifyRun.exec) NotifyRun.IsNew r ∧
      r.thread = .waiting false ∧ r.destructor = .unlocked ∧ r.object.mNotifyBuffers = [] := by
  obtain ⟨r, hr, hw, hd⟩ : ∃ r, Reachable (functional NotifyRun.exec) NotifyRun.IsNew r ∧
      r.thread = .waiting false ∧ r.destructor = .unlocked :=
    Reachable.exists_of_runFun ⟨true, rfl⟩
      ([.other withPosition, .play ⟨4096, 0⟩ 0 0 true] ++ List.replicate 3 .notifyThread ++
        [.stop ⟨4096, 0⟩] ++ List.replicate 4 .notifyThread ++ List.replicate 4 .destructor)
      (by decide +kernel)
  exact ⟨r, hr, hw, hd, ((no_lost_wakeup hr).1 hw).1⟩

end Dsoal
