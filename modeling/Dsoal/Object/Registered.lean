import Dsoal.Object.Steps

/-!
# The registered buffers

`m3dBuffers` and `mNotifyBuffers` hold pointers to secondary buffers.  The
destructor of a buffer removes it from the first list and not from the second, so
that a buffer released while it is registered for polls leaves a dangling pointer
behind.  In the runs in which no such buffer is released, all pointers in both lists
are good (`registered_buffers_live`), and any step that releases one breaks that.
-/

namespace Dsoal

open TransitionSystem DSound8OAL

namespace DSound8OAL

variable [Abi] {s s' : DSound8OAL} {op : Op}

/-- The pointers of a list are to the very buffers that were registered, in allocated
slots, and no pointer is there twice. -/
def Sound (s : DSound8OAL) (es : List Registered) : Prop :=
  (∀ e ∈ es,
    (∃ g ∈ s.mSecondaryBuffers, g.base = e.ptr.base ∧ g.mFreeMask.getLsbD e.ptr.idx = false) ∧
    ∃ b, s.getBuffer e.ptr = some b ∧ b.born = e.born) ∧
  (es.map Registered.ptr).Nodup

/-- The step releases a buffer that is registered for polls. -/
def ReleasesPending (s : DSound8OAL) (op : Op) : Prop :=
  ∃ p, op = .release p ∧ s.isPendingNotify p

/-- Every buffer registered for polls is live. -/
def NotifyLive (s : DSound8OAL) : Prop :=
  ∀ e ∈ s.mNotifyBuffers, ∃ b, s.getBuffer e.ptr = some b ∧ b.born = e.born

/-- Live buffers are in allocated slots. -/
theorem Ok.sound (h : s.Ok) {es : List Registered}
    (hlive : ∀ e ∈ es, ∃ b, s.getBuffer e.ptr = some b ∧ b.born = e.born)
    (hnodup : (es.map Registered.ptr).Nodup) : s.Sound es := by
  refine ⟨fun e he ↦ ?_, hnodup⟩
  obtain ⟨b, hb, hborn⟩ := hlive e he
  obtain ⟨k, g, hk, hbase, helem⟩ :=
    h.pool.isSome_lookup_iff.mp (Option.isSome_iff_exists.mpr ⟨b, hb⟩)
  have hg := List.mem_of_getElem? hk
  exact ⟨⟨g, hg, hbase, ((h.pool.ok g hg).mask e.ptr.idx).mpr helem⟩, b, hb, hborn⟩

/-- **Step lemma**: the buffers registered for polls stay live, unless one of them is
released. -/
theorem NotifyLive.step (h : s.Ok) (hlive : s.NotifyLive) (hop : ¬ s.ReleasesPending op)
    (hs : DSoundStep s op s') : s'.NotifyLive := by
  have hof : ∀ t : DSound8OAL, s.Keeps t → t.NotifyLive := by
    intro t hk e he
    have hb : ∃ b, s.getBuffer e.ptr = some b ∧ b.born = e.born := by
      rcases hk.notify e he with he | hb
      · exact hlive e he
      · exact hb
    obtain ⟨b, hb, hborn⟩ := hb
    obtain ⟨b', hb', hpers⟩ := hk.buffer hb
    exact ⟨b', hb', hpers.born.trans hborn⟩
  cases hs.outcome h with
  | keeps hk => exact hof s' hk
  | created p b hc =>
      intro e he
      rw [hc.notify] at he
      obtain ⟨b', hb', hborn⟩ := hlive e he
      have hne : e.ptr ≠ p := by
        intro hep
        rw [hep, hc.free] at hb'
        cases hb'
      exact ⟨b', (hc.others e.ptr hne).trans hb', hborn⟩
  | removed p hr hrel =>
      intro e he
      rw [hr.notify] at he
      obtain ⟨b', hb', hborn⟩ := hlive e he
      have hne : e.ptr ≠ p := by
        intro hep
        exact hop ⟨p, hrel, List.any_eq_true.mpr ⟨e, he, by simpa using hep⟩⟩
      exact ⟨b', (hr.others e.ptr hne).trans hb', hborn⟩
  | levels level hl =>
      obtain ⟨⟨s₁, hk, rfl⟩, -⟩ := hl
      exact hof s₁ hk
  | initialized hi =>
      intro e he
      rw [hi.notify] at he
      obtain ⟨b, hb, hborn⟩ := hlive e he
      exact ⟨b, (hi.buffers e.ptr).trans hb, hborn⟩

/-- **Run lemma**: without such releases, every buffer registered for polls is live. -/
theorem notifyLive_of_reachable
    (h : Reachable (guarded (fun s op ↦ ¬ s.ReleasesPending op) DSoundStep) IsNew s) :
    s.NotifyLive := by
  refine Reachable.invariant_of (fun t ht ↦ ok_of_reachable ht.of_guarded) ?_ ?_ h
  · rintro t ⟨is8, rfl⟩ e he
    exact absurd he List.not_mem_nil
  · intro t op t' hok hlive hs
    exact hlive.step hok hs.1 hs.2

/-- Releasing a buffer that is registered for polls leaves a dangling pointer. -/
theorem ReleasesPending.not_sound (h : s.Ok) (hop : s.ReleasesPending op)
    (hs : DSoundStep s op s') : ¬ s'.Sound s'.mNotifyBuffers := by
  obtain ⟨p, rfl, hp⟩ := hop
  obtain ⟨e, he, hep⟩ := List.any_eq_true.mp hp
  obtain ⟨-, hr, hc⟩ := hs
  obtain ⟨b, hb, hc⟩ := Option.bind_eq_some_iff.mp hc
  obtain ⟨s₁, hs₁, hc⟩ := Option.bind_eq_some_iff.mp hc
  cases hc
  have hrem := h.dispose hb hs₁
  intro hsound
  obtain ⟨-, b', hb', -⟩ := hsound.1 e (hrem.notify ▸ he)
  rw [show e.ptr = p by simpa using hep, hrem.gone] at hb'
  cases hb'

end DSound8OAL

variable [Abi] {s : DSound8OAL}

/-- **The lists of buffers are sound** in every state of a run in which no buffer is
released while it is registered for polls, so that no poll and no commit touches a
dead buffer; and any step that releases such a buffer makes them unsound. -/
theorem registered_buffers_live
    (h : Reachable (guarded (fun s op ↦ ¬ s.ReleasesPending op) DSoundStep) IsNew s) :
    s.Sound s.m3dBuffers ∧ s.Sound s.mNotifyBuffers ∧ s.commit.isSome ∧
    s.triggerNotifies.isSome ∧
    ∀ op s', DSoundStep s op s' →
      (s'.Sound s'.m3dBuffers ∧ s'.Sound s'.mNotifyBuffers ↔ ¬ s.ReleasesPending op) := by
  have hok := ok_of_reachable h.of_guarded
  have hlive := notifyLive_of_reachable h
  have h3d : ∀ t : DSound8OAL, t.Ok → t.Sound t.m3dBuffers := fun t ht ↦ ht.sound
    (fun e he ↦ by
      obtain ⟨b, hb, hborn, -⟩ := ht.live e he
      exact ⟨b, hb, hborn⟩) ht.nodup
  refine ⟨h3d s hok, hok.sound hlive hok.nodupNotify, ?_, ?_, fun op s' hs ↦ ⟨fun hsound hop ↦ ?_,
    fun hop ↦ ?_⟩⟩
  · obtain ⟨s', hs', -⟩ := hok.commit
    simp [hs']
  · have hpoll : (pollBuffers s.mNotifyBuffers s).isSome := by
      refine isSome_pollBuffers hok.pool (fun e he ↦ ?_) fun p b hb ↦ ?_
      · obtain ⟨b, hb, -⟩ := hlive e he
        exact ⟨b, hb⟩
      · obtain ⟨sb, hsb, -⟩ := (hok.buffers p b hb).1.storage
        simp [hsb]
    obtain ⟨r, hr⟩ := Option.isSome_iff_exists.mp hpoll
    simp [triggerNotifies, hr]
  · exact hop.not_sound hok hs hsound.2
  · have hok' := hs.ok hok
    exact ⟨h3d s' hok', hok'.sound (hlive.step hok hop hs) hok'.nodupNotify⟩

omit [Abi] in
set_option maxRecDepth 4000 in
/-- A playing 3D buffer with a notification position, which is in both lists. -/
theorem registered_buffers_live_one :
    letI : Abi := ⟨⟨600, by decide⟩⟩
    ∃ s, Reachable (guarded (fun s op ↦ ¬ s.ReleasesPending op) DSoundStep) IsNew s ∧
      s.mNotifyBuffers = s.m3dBuffers ∧ s.mNotifyBuffers.length = 1 ∧
      s.Sound s.m3dBuffers ∧ s.Sound s.mNotifyBuffers := by
  let _ : Abi := ⟨⟨600, by decide⟩⟩
  have h0 : Reachable (guarded (fun s op ↦ ¬ s.ReleasesPending op) DSoundStep) IsNew
      (DSound8OAL.new true) := .init ⟨true, rfl⟩
  have h1 := h0.step (i := initializeOne)
    ⟨by rintro ⟨p, ⟨⟩, -⟩, initializeOne_legal true, _, rfl⟩
  have h2 := h1.step
    (i := createMono (Caps.ctrl3D ||| Caps.ctrlPositionNotify ||| Caps.locHardware))
    ⟨by rintro ⟨p, ⟨⟩, -⟩, createMono_legal _ _, _, rfl⟩
  have h3 := h2.step ⟨by rintro ⟨p, ⟨⟩, -⟩, .of_isSome
    (.setNotificationPositions ⟨4096, 0⟩ (some [⟨0, 7⟩])) trivial (by decide +kernel)⟩
  have h4 := h3.step ⟨by rintro ⟨p, ⟨⟩, -⟩, .of_isSome
    (.play ⟨4096, 0⟩ 0 0 true) trivial (by decide +kernel)⟩
  have hlive := registered_buffers_live h4
  exact ⟨_, h4, by decide +kernel, by decide +kernel, hlive.1, hlive.2.1⟩

omit [Abi] in
set_option maxRecDepth 4000 in
/-- A playing buffer with a notification position is released: its pointer stays among
those the notify thread polls. -/
theorem registered_buffers_dangling :
    letI : Abi := ⟨⟨600, by decide⟩⟩
    ∃ s, Reachable DSoundStep IsNew s ∧ ⟨⟨4096, 0⟩, 0⟩ ∈ s.mNotifyBuffers ∧
      s.getBuffer ⟨4096, 0⟩ = none ∧ ¬ s.Sound s.mNotifyBuffers := by
  let _ : Abi := ⟨⟨600, by decide⟩⟩
  have h0 : Reachable DSoundStep IsNew (DSound8OAL.new true) := .init ⟨true, rfl⟩
  have h1 := h0.step (i := initializeOne) ⟨initializeOne_legal true, _, rfl⟩
  have h2 := h1.step (i := createMono (Caps.ctrlPositionNotify ||| Caps.locHardware))
    ⟨createMono_legal _ _, _, rfl⟩
  have h3 := h2.step (.of_isSome (.setNotificationPositions ⟨4096, 0⟩ (some [⟨0, 7⟩])) trivial
    (by decide +kernel))
  have h4 := h3.step (.of_isSome (.play ⟨4096, 0⟩ 0 0 true) trivial (by decide +kernel))
  have h5 := h4.step (.of_isSome (.release ⟨4096, 0⟩) trivial (by decide +kernel))
  refine ⟨_, h5, ?_⟩
  generalize hs : ((exec _ _).get _).2 = s
  have hmem : ⟨⟨4096, 0⟩, 0⟩ ∈ s.mNotifyBuffers := by
    rw [← hs]
    decide +kernel
  have hgone : s.getBuffer ⟨4096, 0⟩ = none := by
    rw [← hs, ← Option.isNone_iff_eq_none]
    decide +kernel
  refine ⟨hmem, hgone, fun hsound ↦ ?_⟩
  obtain ⟨-, b, hb, -⟩ := hsound.1 _ hmem
  rw [hgone] at hb
  cases hb

end Dsoal
