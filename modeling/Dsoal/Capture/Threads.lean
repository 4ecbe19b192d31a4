import Dsoal.Core.CaptureBuffer
import Mathlib.Data.Fintype.Basic

/-!
# Spawning and joining capture threads

As long as no `Stop` begins while another is under way, a capture buffer goes round
four stages: no thread, one capture thread, one `Stop` in `join` of that thread, and
one `Stop` after it (`CaptureBuffer.Ok`).  Everything the buffer promises about its
threads can be read off the stage (`capture_threads_safe`).

Two `Stop`s that both find `mCapturing` set both join, and the second finds no
thread to join, or joins the same one once more.
-/

namespace Dsoal

open TransitionSystem

namespace CaptureBuffer

variable {θ : Type} [DecidableEq θ] {b b' : CaptureBuffer θ} {op : CaptureOp θ} {m n k : ℕ}
  {c : CapturePc} {t : θ}

/-- The step begins a `Stop` that will join while another `Stop` is under way. -/
def OverlapsStop (b : CaptureBuffer θ) (op : CaptureOp θ) : Prop :=
  b.mCapturing = true ∧ ∃ t, op = .stop t ∧ ∃ u, b.pc u ≠ .idle

instance [Fintype θ] (b : CaptureBuffer θ) (op : CaptureOp θ) : Decidable (b.OverlapsStop op) :=
  inferInstanceAs (Decidable (_ ∧ ∃ _, _ ∧ ∃ _, _))

/-- What a capture buffer promises about its threads. -/
structure ThreadSafe (b : CaptureBuffer θ) : Prop where
  /-- There is one capture thread at most. -/
  one : ∀ (k l : ℕ) (pc pc' : CapturePc), b.threads[k]? = some pc → pc ≠ .exited →
    b.threads[l]? = some pc' → pc' ≠ .exited → k = l
  /-- `join` is called on a joinable thread. -/
  joinable : none ∉ b.joins
  /-- No thread is joined twice. -/
  once : ∀ k, b.joins.count (some k) ≤ 1
  /-- Every thread has been joined but the one that captures. -/
  joined : ∀ k < b.threads.length, b.joins.count (some k) = 0 →
    b.mCaptureThread = some k ∧ b.mCapturing = true
  /-- A thread runs only while the buffer is capturing. -/
  capturing : b.Running → b.mCapturing = true
  /-- The notifications are not replaced while a thread runs. -/
  notifies : b.replacedRunning = false

/-! ## The stages -/

/-- `m` threads have exited, `rest` is the thread after them, if there is one, and the
first `n` have been joined. -/
structure Stage (b : CaptureBuffer θ) (m : ℕ) (rest : List CapturePc) (thread : Option ℕ) (n : ℕ)
    (capturing : Bool) : Prop where
  threads : b.threads = List.replicate m .exited ++ rest
  thread : b.mCaptureThread = thread
  joins : b.joins = (List.range n).map some
  capturing : b.mCapturing = capturing
  notifies : b.replacedRunning = false

/-- The stages of a capture buffer. -/
inductive Ok (b : CaptureBuffer θ) : Prop
  /-- Not capturing. -/
  | stopped (m : ℕ) (stage : b.Stage m [] none m false) (pc : ∀ u, b.pc u = .idle)
  /-- Capturing, possibly with a `Stop` that has not called `join`. -/
  | capturing (m : ℕ) (c : CapturePc) (stage : b.Stage m [c] (some m) m true)
      (pc : ∀ u, b.pc u = .idle ∨ b.pc u = .quitting ∨ b.pc u = .calling)
      (single : ∀ u v, b.pc u ≠ .idle → b.pc v ≠ .idle → u = v)
  /-- A `Stop` is in `join`. -/
  | joining (m : ℕ) (c : CapturePc) (t : θ) (stage : b.Stage m [c] (some m) (m + 1) true)
      (pc : b.pc = Function.update (fun _ ↦ .idle) t (.joining m))
  /-- A `Stop` is after `join`. -/
  | joined (m : ℕ) (t : θ) (stage : b.Stage m [] none m true)
      (pc : b.pc = Function.update (fun _ ↦ .idle) t .relocking)

omit [DecidableEq θ] in
/-- The running thread is the one after those that have exited. -/
theorem Stage.running {thread : Option ℕ} {cap : Bool} (h : b.Stage m [c] thread n cap)
    {pc : CapturePc} (hk : b.threads[k]? = some pc) (hpc : pc ≠ .exited) : k = m ∧ pc = c := by
  rw [h.threads, List.getElem?_append, List.length_replicate] at hk
  split_ifs at hk with hlt
  · rw [List.getElem?_replicate, if_pos hlt] at hk
    exact absurd (Option.some.inj hk).symm hpc
  · rw [List.getElem?_singleton] at hk
    split_ifs at hk with hzero
    cases hk
    exact ⟨by omega, rfl⟩

omit [DecidableEq θ] in
/-- Without a thread after them, all threads have exited. -/
theorem Stage.not_running {thread : Option ℕ} {cap : Bool} (h : b.Stage m [] thread n cap) :
    ¬ b.Running := by
  rintro ⟨pc, hmem, hpc⟩
  rw [h.threads, List.append_nil] at hmem
  exact hpc (List.eq_of_mem_replicate hmem)

omit [DecidableEq θ] in
/-- What has been joined. -/
theorem Stage.count_joins {rest : List CapturePc} {thread : Option ℕ} {cap : Bool}
    (h : b.Stage m rest thread n cap) (k : ℕ) :
    b.joins.count (some k) = if k < n then 1 else 0 := by
  have hnodup : ((List.range n).map (some : ℕ → Option ℕ)).Nodup :=
    List.nodup_range.map (Option.some_injective ℕ)
  rw [h.joins]
  split_ifs with hk
  · exact List.count_eq_one_of_mem hnodup (List.mem_map_of_mem (List.mem_range.mpr hk))
  · refine List.count_eq_zero_of_not_mem fun hmem ↦ hk ?_
    obtain ⟨j, hj, hjk⟩ := List.mem_map.mp hmem
    obtain rfl : j = k := Option.some.inj hjk
    exact List.mem_range.mp hj

omit [DecidableEq θ] in
/-- A stage with no thread after those that have exited and been joined. -/
theorem Stage.threadSafe {cap : Bool} (h : b.Stage m [] none m cap) : b.ThreadSafe where
  one k l pc pc' hk hpc := by
    have hrun := h.not_running
    exact absurd ⟨pc, List.mem_of_getElem? hk, hpc⟩ hrun
  joinable hmem := by
    rw [h.joins] at hmem
    obtain ⟨j, -, hj⟩ := List.mem_map.mp hmem
    cases hj
  once k := by
    rw [h.count_joins]
    split_ifs <;> omega
  joined k hk hzero := by
    rw [h.count_joins] at hzero
    rw [h.threads, List.append_nil, List.length_replicate] at hk
    simp [hk] at hzero
  capturing hrun := absurd hrun h.not_running
  notifies := h.notifies

omit [DecidableEq θ] in
/-- A stage with one thread after those that have exited, which may have been joined as
well. -/
theorem Stage.threadSafe_running (h : b.Stage m [c] (some m) n true) (hn : m ≤ n) :
    b.ThreadSafe where
  one k l pc pc' hk hpc hl hpc' := by
    rw [(h.running hk hpc).1, (h.running hl hpc').1]
  joinable hmem := by
    rw [h.joins] at hmem
    obtain ⟨j, -, hj⟩ := List.mem_map.mp hmem
    cases hj
  once k := by
    rw [h.count_joins]
    split_ifs <;> omega
  joined k hk hzero := by
    rw [h.count_joins] at hzero
    rw [h.threads, List.length_append, List.length_replicate, List.length_singleton] at hk
    have hkn : ¬ k < n := fun hlt ↦ by simp [hlt] at hzero
    obtain rfl : k = m := by omega
    exact ⟨h.thread, h.capturing⟩
  capturing _ := h.capturing
  notifies := h.notifies

theorem Ok.threadSafe (h : b.Ok) : b.ThreadSafe := by
  cases h with
  | stopped m stage pc => exact stage.threadSafe
  | capturing m c stage pc single => exact stage.threadSafe_running le_rfl
  | joining m c t stage pc => exact stage.threadSafe_running (Nat.le_succ m)
  | joined m t stage pc => exact stage.threadSafe

/-! ## The steps -/

theorem goto_pc (p : StopPc) : (b.goto t p).pc = Function.update b.pc t p := rfl

theorem ok_new (h : b.IsNew) : b.Ok := by
  obtain ⟨size, rfl⟩ := h
  exact .stopped 0 ⟨rfl, rfl, rfl, rfl, rfl⟩ fun _ ↦ rfl

omit [DecidableEq θ] in
/-- A change that leaves the threads alone. -/
theorem Stage.congr {rest : List CapturePc} {thread : Option ℕ} {cap : Bool}
    (h : b.Stage m rest thread n cap) (hthreads : b'.threads = b.threads)
    (hthread : b'.mCaptureThread = b.mCaptureThread) (hjoins : b'.joins = b.joins)
    (hcap : b'.mCapturing = b.mCapturing) (hnotifies : b'.replacedRunning = b.replacedRunning) :
    b'.Stage m rest thread n cap :=
  ⟨hthreads.trans h.threads, hthread.trans h.thread, hjoins.trans h.joins, hcap.trans h.capturing,
    hnotifies.trans h.notifies⟩

/-- A buffer that is not capturing is in the first stage. -/
theorem Ok.of_not_capturing (h : b.Ok) (hcap : b.mCapturing = false) :
    ∃ m, b.Stage m [] none m false ∧ ∀ u, b.pc u = .idle := by
  cases h with
  | stopped m stage pc => exact ⟨m, stage, pc⟩
  | capturing m c stage => exact absurd (stage.capturing.symm.trans hcap) nofun
  | joining m c t stage => exact absurd (stage.capturing.symm.trans hcap) nofun
  | joined m t stage => exact absurd (stage.capturing.symm.trans hcap) nofun

/-- A buffer that is capturing, with nobody in a `Stop`, is in the second stage. -/
theorem Ok.of_capturing (h : b.Ok) (hcap : b.mCapturing = true) (hpc : ∀ u, b.pc u = .idle) :
    ∃ m c, b.Stage m [c] (some m) m true := by
  cases h with
  | stopped m stage => exact absurd (stage.capturing.symm.trans hcap) nofun
  | capturing m c stage => exact ⟨m, c, stage⟩
  | joining m c t stage pc =>
      have ht := hpc t
      rw [pc, Function.update_self] at ht
      cases ht
  | joined m t stage pc =>
      have ht := hpc t
      rw [pc, Function.update_self] at ht
      cases ht

/-- `Start` spawns a thread if there is none. -/
theorem Ok.start (h : b.Ok) {dwFlags : UInt32} (hs : b.start dwFlags = some b') : b'.Ok := by
  unfold CaptureBuffer.start at hs
  split_ifs at hs with hflags hlock hcap
  · cases hs
    exact h
  · cases hs
    exact h
  · cases hs
    obtain ⟨m, stage, pc⟩ := h.of_not_capturing (by simpa using hcap)
    have hlen : b.threads.length = m := by simp [stage.threads]
    refine .capturing m .starting ⟨?_, congrArg some hlen, stage.joins, rfl, stage.notifies⟩
      (fun u ↦ .inl (pc u)) fun u v hu ↦ absurd (pc u) hu
    show b.threads ++ [.starting] = _
    rw [stage.threads, List.append_nil]

/-- `Stop` begins, while no other `Stop` is under way. -/
theorem Ok.stop (h : b.Ok) (hop : ¬ b.OverlapsStop (.stop t)) (hs : b.stop t = some b') :
    b'.Ok := by
  unfold CaptureBuffer.stop at hs
  split_ifs at hs with hlock hcap
  · cases hs
    have hidle : ∀ u, b.pc u = .idle := by
      intro u
      by_contra hu
      exact hop ⟨hcap, t, rfl, u, hu⟩
    obtain ⟨m, c, stage⟩ := h.of_capturing hcap hidle
    have hpc : ∀ u, u ≠ t → (b.goto t .quitting).pc u = .idle := by
      intro u hu
      rw [goto_pc, Function.update_of_ne hu, hidle]
    refine .capturing m c (stage.congr rfl rfl rfl rfl rfl) (fun u ↦ ?_) fun u v hu hv ↦ ?_
    · by_cases hu : u = t
      · rw [hu, goto_pc, Function.update_self]
        exact .inr (.inl rfl)
      · exact .inl (hpc u hu)
    · rw [not_imp_comm.mp (hpc u) hu, not_imp_comm.mp (hpc v) hv]
  · cases hs
    exact h

/-- A thread that is the only one in a `Stop` moves on. -/
theorem update_idle {p q : StopPc} (hpc : b.pc = Function.update (fun _ ↦ .idle) t p) :
    Function.update b.pc t q = Function.update (fun _ ↦ .idle) t q := by
  rw [hpc, Function.update_idem]

/-- `Stop` goes on. -/
theorem Ok.stopNext (h : b.Ok) (hs : b.stopNext t = some b') : b'.Ok := by
  unfold CaptureBuffer.stopNext at hs
  have hbusy : b.pc t ≠ .idle := fun ht ↦ by simp [ht] at hs
  cases h with
  | stopped m stage pc => exact absurd (pc t) hbusy
  | capturing m c stage pc single =>
      have hidle : ∀ u, u ≠ t → b.pc u = .idle := fun u hu ↦ by
        by_contra hne
        exact hu (single u t hne hbusy)
      rcases (pc t).resolve_left hbusy with ht | ht
      · simp only [ht, Option.some.injEq] at hs
        cases hs
        have hpc : ∀ u, u ≠ t → Function.update b.pc t StopPc.calling u = .idle := fun u hu ↦ by
          rw [Function.update_of_ne hu, hidle u hu]
        refine .capturing m c (stage.congr rfl rfl rfl rfl rfl) (fun u ↦ ?_) fun u v hu hv ↦ ?_
        · by_cases hu : u = t
          · rw [hu]
            exact .inr (.inr (Function.update_self ..))
          · exact .inl (hpc u hu)
        · rw [not_imp_comm.mp (hpc u) hu, not_imp_comm.mp (hpc v) hv]
      · simp only [ht, stage.thread, Option.some.injEq] at hs
        cases hs
        refine .joining m c t ⟨stage.threads, stage.thread, ?_, stage.capturing, stage.notifies⟩ ?_
        · show b.joins ++ [some m] = _
          rw [stage.joins, List.range_succ, List.map_append, List.map_singleton]
        · funext u
          show Function.update b.pc t _ u = _
          by_cases hu : u = t
          · rw [hu, Function.update_self, Function.update_self]
          · rw [Function.update_of_ne hu, Function.update_of_ne hu, hidle u hu]
  | joining m c t' stage pc =>
      obtain rfl : t = t' := by
        by_contra hne
        exact hbusy (by rw [pc, Function.update_of_ne hne])
      have ht : b.pc t = .joining m := by rw [pc, Function.update_self]
      simp only [ht] at hs
      split_ifs at hs with hexit
      cases hs
      obtain rfl : c = .exited := by
        by_contra hc
        rw [stage.threads] at hexit
        simp [hc] at hexit
      refine .joined (m + 1) t ⟨?_, rfl, stage.joins, stage.capturing, stage.notifies⟩
        (update_idle pc)
      show b.threads = _
      rw [stage.threads, List.append_nil, List.replicate_succ']
  | joined m t' stage pc =>
      obtain rfl : t = t' := by
        by_contra hne
        exact hbusy (by rw [pc, Function.update_of_ne hne])
      have ht : b.pc t = .relocking := by rw [pc, Function.update_self]
      simp only [ht] at hs
      split_ifs at hs
      cases hs
      refine .stopped m ⟨stage.threads, stage.thread, stage.joins, rfl, stage.notifies⟩ fun u ↦ ?_
      show Function.update b.pc t _ u = _
      rw [update_idle pc, Function.update_eq_self]

/-- `SetNotificationPositions` replaces the notifications only while no thread runs. -/
theorem Ok.setNotificationPositions (h : b.Ok) {notifies : Option (List (PositionNotify ℕ))}
    (hs : b.setNotificationPositions notifies = some b') : b'.Ok := by
  cases notifies with
  | none =>
      cases hs
      exact h
  | some notifies =>
      simp only [CaptureBuffer.setNotificationPositions] at hs
      split_ifs at hs with hlock hcap
      · cases hs
        exact h
      · cases hn : notificationPositions b.size notifies with
        | none =>
            simp only [hn] at hs
            cases hs
            exact h
        | some newnots =>
            simp only [hn] at hs
            cases hs
            obtain ⟨m, stage, pc⟩ := h.of_not_capturing (by simpa using hcap)
            refine .stopped m ⟨stage.threads, stage.thread, stage.joins, stage.capturing, ?_⟩ pc
            show (b.replacedRunning || decide b.Running) = false
            rw [stage.notifies, Bool.false_or, decide_eq_false stage.not_running]

omit [DecidableEq θ] in
/-- A step of a capture thread is one of the last thread. -/
theorem Stage.captureThread {thread : Option ℕ} {cap : Bool}
    (h : b.Stage m [c] thread n cap) (hs : b.captureThread k = some b') :
    ∃ c', b'.Stage m [c'] thread n cap ∧ b'.pc = b.pc := by
  obtain ⟨pc, hk, hs⟩ := Option.bind_eq_some_iff.mp hs
  have hset : ∀ c', pc ≠ .exited → b.threads.set k c' = List.replicate m .exited ++ [c'] := by
    intro c' hpc
    obtain ⟨rfl, -⟩ := h.running hk hpc
    rw [h.threads, List.set_append_right _ _ (by simp)]
    simp
  cases pc with
  | starting =>
      dsimp only at hs
      split_ifs at hs
      cases hs
      exact ⟨.checking, ⟨hset _ nofun, h.thread, h.joins, h.capturing, h.notifies⟩, rfl⟩
  | sleeping =>
      dsimp only at hs
      split_ifs at hs
      cases hs
      exact ⟨.checking, ⟨hset _ nofun, h.thread, h.joins, h.capturing, h.notifies⟩, rfl⟩
  | checking =>
      cases hs
      exact ⟨_, ⟨hset _ nofun, h.thread, h.joins, h.capturing, h.notifies⟩, rfl⟩
  | exited => cases hs

/-- A capture thread goes on. -/
theorem Ok.captureThread (h : b.Ok) (hs : b.captureThread k = some b') : b'.Ok := by
  have hrun : b.Running := by
    obtain ⟨pc, hk, hs⟩ := Option.bind_eq_some_iff.mp hs
    refine ⟨pc, List.mem_of_getElem? hk, ?_⟩
    rintro rfl
    cases hs
  cases h with
  | stopped m stage pc => exact absurd hrun stage.not_running
  | capturing m c stage pc single =>
      obtain ⟨c', stage', hpc⟩ := stage.captureThread hs
      exact .capturing m c' stage' (hpc ▸ pc) (hpc ▸ single)
  | joining m c t stage pc =>
      obtain ⟨c', stage', hpc⟩ := stage.captureThread hs
      exact .joining m c' t stage' (hpc.trans pc)
  | joined m t stage pc => exact absurd hrun stage.not_running

/-- **Step lemma.** -/
theorem Ok.step (h : b.Ok) (hop : ¬ b.OverlapsStop op) (hs : b.exec op = some b') : b'.Ok := by
  cases op with
  | start t dwFlags =>
      obtain ⟨-, hs⟩ := Option.ite_none_right_eq_some.mp hs
      exact h.start hs
  | stop t =>
      obtain ⟨-, hs⟩ := Option.ite_none_right_eq_some.mp hs
      exact h.stop hop hs
  | stopNext t => exact h.stopNext hs
  | setNotificationPositions t notifies =>
      obtain ⟨-, hs⟩ := Option.ite_none_right_eq_some.mp hs
      exact h.setNotificationPositions hs
  | captureThread k => exact h.captureThread hs

end CaptureBuffer

variable {θ : Type} [DecidableEq θ] {b : CaptureBuffer θ}

/-- **The capture threads are safe** in every run in which no `Stop` that finds
`mCapturing` set begins while another `Stop` is under way: there is one thread at most,
each is joined once, only while it is joinable, and runs only while `mCapturing` is set;
and the notifications are not replaced while it runs. -/
theorem capture_threads_safe
    (h : Reachable (guarded (fun b op ↦ ¬ b.OverlapsStop op) (functional CaptureBuffer.exec))
      CaptureBuffer.IsNew b) : b.ThreadSafe :=
  (h.invariant (P := CaptureBuffer.Ok) (fun _ ↦ CaptureBuffer.ok_new)
    fun _ _ _ hok hs ↦ hok.step hs.1 hs.2).threadSafe

/-- A thread is started, stopped and joined, and another one started. -/
theorem capture_threads_safe_two : ∃ b : CaptureBuffer Bool,
    Reachable (guarded (fun b op ↦ ¬ b.OverlapsStop op) (functional CaptureBuffer.exec))
      CaptureBuffer.IsNew b ∧
    b.threads = [.exited, .starting] ∧ b.joins = [some 0] ∧ b.ThreadSafe := by
  obtain ⟨b, hb, hthreads, hjoins⟩ : ∃ b : CaptureBuffer Bool,
      Reachable (guarded (fun b op ↦ ¬ b.OverlapsStop op) (functional CaptureBuffer.exec))
        CaptureBuffer.IsNew b ∧ b.threads = [.exited, .starting] ∧ b.joins = [some 0] :=
    Reachable.exists_of_runFun_restrict ⟨4, rfl⟩
      [.start true captureLooping, .captureThread 0, .captureThread 0, .stop false,
        .stopNext false, .captureThread 0, .captureThread 0, .stopNext false, .stopNext false,
        .stopNext false, .start true captureLooping] (by decide)
  exact ⟨b, hb, hthreads, hjoins, capture_threads_safe hb⟩

/-- Two threads call `Stop` at once: one of them joins the capture thread, and the other
finds no thread to join. -/
theorem capture_threads_join_none : ∃ b : CaptureBuffer Bool,
    Reachable (functional CaptureBuffer.exec) CaptureBuffer.IsNew b ∧ ¬ b.ThreadSafe := by
  obtain ⟨b, hb, hjoins⟩ : ∃ b : CaptureBuffer Bool,
      Reachable (functional CaptureBuffer.exec) CaptureBuffer.IsNew b ∧ none ∈ b.joins :=
    Reachable.exists_of_runFun ⟨4, rfl⟩
      [.start true captureLooping, .stop true, .stop false, .stopNext true, .captureThread 0,
        .captureThread 0, .stopNext true, .stopNext true, .stopNext false, .stopNext false]
      (by decide)
  exact ⟨b, hb, fun h ↦ h.joinable hjoins⟩

end Dsoal
