import Dsoal.Notify.StopView

/-!
# Every end of a playback is signalled

The polls see every step of the object as steps of a `StopView` (`Sees`), provided that the
step does not miss an end of the playback that nobody has noticed yet (`MissesEnd`).  `Play`
does: it starts the buffer again, and then nobody will notice.
-/

namespace Dsoal

open Due TransitionSystem StopView

namespace DSound8OAL

variable {s s' : DSound8OAL} {p q : Ptr} {b b' : Buffer} {v v' : StopView} {hr : HResult}

/-! ## A buffer as the polls see it -/

/-- The buffer at `p` can have notifications, and is seen as `v`. -/
def Views (s : DSound8OAL) (p : Ptr) (v : StopView) : Prop :=
  ∃ b, s.getBuffer p = some b ∧ b.hasCaps Caps.ctrlPositionNotify ∧
    v = ⟨b.mNotifies, isPlaying b.mSource, s.isPendingNotify p⟩

namespace Views

theorem pending (h : s.Views p v) : s.isPendingNotify p = v.pending := by
  obtain ⟨b, -, -, rfl⟩ := h
  rfl

theorem buffer (h : s.Views p v) (hb : s.getBuffer p = some b) :
    b.mNotifies = v.notifies ∧ isPlaying b.mSource = v.playing ∧
      b.hasCaps Caps.ctrlPositionNotify := by
  obtain ⟨b₀, hb₀, hcaps, rfl⟩ := h
  obtain rfl : b₀ = b := Option.some.inj (hb₀.symm.trans hb)
  exact ⟨rfl, rfl, hcaps⟩

theorem playsAt (h : s.Views p v) : s.playsAt p = v.playing := by
  obtain ⟨b, hb, -, rfl⟩ := h
  exact playsAt_eq hb

theorem stopsAt (h : s.Views p v) : s.stopsAt p = stopEntries v.notifies := by
  obtain ⟨b, hb, -, rfl⟩ := h
  exact stopsAt_eq hb

/-- What becomes due in a step is what its views say. -/
theorem ended (h : s.Views p v) (h' : s'.Views p v') :
    (if s.playsAt p && !s'.playsAt p then s.stopsAt p else []) = v.ended v' := by
  rw [h.playsAt, h'.playsAt, h.stopsAt]
  rfl

/-- What a poll signals is what is awaited. -/
theorem awaited (h : s.Views p v) :
    (if s.isPendingNotify p then stopEntries (s.hitsAt p) else []) = v.awaited := by
  obtain ⟨b, hb, hcaps, rfl⟩ := h
  obtain ⟨sb, hsb, -⟩ := (Option.any_eq_true _ _).mp hcaps
  obtain ⟨⟨hit, b', again⟩, hu⟩ : ∃ r, b.updateNotify = some r := by
    simp [Buffer.updateNotify, hsb]
  obtain ⟨-, hstops⟩ := Buffer.updateNotify_stops hu
  rw [hitsAt_eq hb, hu, StopView.awaited]
  show (if s.isPendingNotify p = true then stopEntries hit else []) = _
  rw [hstops]
  cases s.isPendingNotify p <;> cases isPlaying b.mSource <;> rfl

/-- A step that leaves the buffer and the list of registered buffers alone. -/
theorem congr (h : s.Views p v) (hget : s'.getBuffer p = s.getBuffer p)
    (hlist : s'.isPendingNotify p = s.isPendingNotify p) : s'.Views p v := by
  obtain ⟨b, hb, hcaps, rfl⟩ := h
  exact ⟨b, hget.trans hb, hcaps, by rw [hlist]⟩

variable [Abi]

/-- A change of another buffer. -/
theorem setBuffer_other (h : s.Views p v) (hok : PoolOk s.mSecondaryBuffers)
    (hb : s.getBuffer q = some b) (hne : q ≠ p) (b' : Buffer) : (s.setBuffer q b').Views p v :=
  h.congr (by rw [getBuffer_setBuffer hok hb, if_neg hne.symm]) rfl

/-- A change of the buffer itself. -/
theorem setBuffer_self (h : s.Views p v) (hok : PoolOk s.mSecondaryBuffers)
    (hb : s.getBuffer p = some b) (b' : Buffer) (hbuffer : b'.mBuffer = b.mBuffer)
    {notifies : List (PositionNotify EventHandle)} {playing : Bool}
    (hnotifies : b'.mNotifies = notifies) (hplaying : isPlaying b'.mSource = playing) :
    (s.setBuffer p b').Views p ⟨notifies, playing, v.pending⟩ := by
  obtain ⟨-, -, hcaps⟩ := h.buffer hb
  refine ⟨b', by rw [getBuffer_setBuffer hok hb, if_pos rfl], ?_, ?_⟩
  · rw [Buffer.hasCaps, hbuffer]
    exact hcaps
  · rw [hnotifies, hplaying, ← h.pending]
    rfl

/-- **A poll** drops a buffer that is not playing. -/
theorem triggerNotifies (h : s.Views p v) (hok : s.Ok) (hc : s.triggerNotifies = some s') :
    s'.Views p { v with pending := v.pending && v.playing } := by
  obtain ⟨hlist, -⟩ := hok.triggerNotifies_signals hc
  have hplays := h.playsAt
  obtain ⟨b, hb, hcaps, rfl⟩ := h
  obtain ⟨n, hn⟩ := hok.getBuffer_triggerNotifies hc hb
  refine ⟨_, hn, hcaps, ?_⟩
  have hpending : s'.isPendingNotify p = (s.isPendingNotify p && s.playsAt p) := by
    rw [isPendingNotify, hlist, Bool.eq_iff_iff, Bool.and_eq_true, List.any_eq_true,
      isPendingNotify, List.any_eq_true]
    constructor
    · rintro ⟨e, he, hep⟩
      obtain ⟨hmem, hplaying⟩ := List.mem_filter.mp he
      rw [of_decide_eq_true hep] at hplaying
      exact ⟨⟨e, hmem, hep⟩, hplaying⟩
    · rintro ⟨⟨e, hmem, hep⟩, hplaying⟩
      refine ⟨e, List.mem_filter.mpr ⟨hmem, ?_⟩, hep⟩
      rw [of_decide_eq_true hep]
      exact hplaying
  rw [hpending, hplays]

omit [Abi] in
/-- Removing a buffer that is no longer registered, or another one, changes nothing. -/
theorem removeNotifyBuffer (h : s.Views p v) (hq : q = p → v.pending = false) :
    (s.removeNotifyBuffer q).Views p v := by
  refine h.congr rfl ?_
  rw [isPendingNotify, DSound8OAL.removeNotifyBuffer, List.any_filter]
  by_cases hne : q = p
  · have hnone := h.pending.trans (hq hne)
    rw [hnone]
    refine List.any_eq_false.mpr fun e he hep ↦ ?_
    rw [Bool.and_eq_true] at hep
    exact absurd (List.any_eq_true.mpr ⟨e, he, hep.2⟩) (ne_true_of_eq_false hnone)
  · congr 1
    funext e
    by_cases hep : e.ptr = p
    · simp [hep, Ne.symm hne]
    · simp [hep]

/-- The part of `Stop` and `SetNotificationPositions` that polls the registered buffers, and
then removes the one that is not playing. -/
theorem flushNotify (h : s.Views p v) (hok : s.Ok) (hq : q = p → v.playing = false)
    (hc : s.triggerNotifies.map (fun t ↦ t.removeNotifyBuffer q) = some s') :
    s'.Views p { v with pending := v.pending && v.playing } := by
  obtain ⟨t, ht, rfl⟩ := Option.map_eq_some_iff.mp hc
  refine (h.triggerNotifies hok ht).removeNotifyBuffer fun hqp ↦ ?_
  show (v.pending && v.playing) = false
  rw [hq hqp, Bool.and_false]

/-- A change of a buffer that the polls do not see. -/
theorem setBuffer_same (h : s.Views p v) (hok : PoolOk s.mSecondaryBuffers)
    (hb : s.getBuffer q = some b) (b' : Buffer) (hnotifies : b'.mNotifies = b.mNotifies)
    (hplaying : isPlaying b'.mSource = isPlaying b.mSource) (hbuffer : b'.mBuffer = b.mBuffer) :
    (s.setBuffer q b').Views p v := by
  by_cases hqp : q = p
  · subst hqp
    obtain ⟨hn, hp, -⟩ := h.buffer hb
    exact h.setBuffer_self hok hb b' hbuffer (hnotifies.trans hn) (hplaying.trans hp)
  · exact h.setBuffer_other hok hb hqp b'

omit [Abi] in
/-- Registering a buffer. -/
theorem addNotifyBuffer (h : s.Views p v) (q : Ptr) (b : Buffer) :
    (s.addNotifyBuffer q b).Views p { v with pending := v.pending || decide (q = p) } := by
  have hpending : (s.addNotifyBuffer q b).isPendingNotify p =
      (s.isPendingNotify p || decide (q = p)) := by
    unfold DSound8OAL.addNotifyBuffer
    split_ifs with hq
    · by_cases hqp : q = p
      · subst hqp
        rw [hq, Bool.true_or]
      · rw [decide_eq_false hqp, Bool.or_false]
    · simp [isPendingNotify]
  have hget : (s.addNotifyBuffer q b).getBuffer p = s.getBuffer p := by
    unfold DSound8OAL.addNotifyBuffer
    split_ifs <;> rfl
  obtain ⟨b₀, hb₀, hcaps, rfl⟩ := h
  exact ⟨b₀, hget.trans hb₀, hcaps, by rw [hpending]⟩

end Views

/-! ## Ends that nobody has noticed -/

/-- The buffer at `p` has stopped, and nobody has noticed that yet. -/
def Unnoticed (s : DSound8OAL) (p : Ptr) (b : Buffer) : Prop :=
  s.getBuffer p = some b ∧ s.isPendingNotify p ∧ ¬ isPlaying b.mSource

/-- Nothing is awaited of a buffer that has stopped, if there is nothing to be noticed. -/
theorem Views.awaited_of_idle (h : s.Views p v) (hb : s.getBuffer p = some b)
    (hidle : isPlaying b.mSource = false)
    (hnot : s.Unnoticed p b → ¬ stopEntries b.mNotifies ≠ []) : v.awaited = [] := by
  obtain ⟨hn, hp, -⟩ := h.buffer hb
  rw [awaited_of_not_playing (hp.symm.trans hidle), ← hn]
  split_ifs with hpending
  · rw [← h.pending] at hpending
    exact not_not.mp (hnot ⟨hb, hpending, ne_true_of_eq_false hidle⟩)
  · rfl

/-- A call misses the end of the playback of the buffer at `p`. -/
inductive MissesEnd (s : DSound8OAL) (p : Ptr) : Op → Prop
  /-- `Play` starts the buffer again. -/
  | play {b : Buffer} {dev : DeviceSources} {priority flags : UInt32} (hb : s.Unnoticed p b)
    (hstops : stopEntries b.mNotifies ≠ []) (hdev : s.mShared = some dev)
    (hstart : b.Startable dev priority flags) : MissesEnd s p (.play p priority flags true)
  /-- `Stop` does nothing for a buffer that has lost its source. -/
  | stop {b : Buffer} (hb : s.Unnoticed p b) (hstops : stopEntries b.mNotifies ≠ [])
    (hsource : b.mSource = none) : MissesEnd s p (.stop p)
  /-- `SetNotificationPositions` replaces the notifications of a buffer that has lost its
  source. -/
  | setNotificationPositions {b : Buffer} {notifies : Option (List (PositionNotify EventHandle))}
    {newNots : List (PositionNotify EventHandle)} (hb : s.Unnoticed p b)
    (hsource : b.mSource = none) (hstores : StoresNotifies b notifies newNots)
    (hne : stopEntries newNots ≠ stopEntries b.mNotifies) :
    MissesEnd s p (.setNotificationPositions p notifies)

/-! ## The steps -/

/-- `Stop` polls if the buffer has a source and can have notifications. -/
theorem pollState_stop {sb : SharedBuffer} (hb : s.getBuffer q = some b)
    (hsb : b.mBuffer = some sb) : s.pollState (.stop q) =
      if b.mSource.isSome ∧ hasFlag sb.mFlags Caps.ctrlPositionNotify then
        some (s.setBuffer q b.pause)
      else none := by
  simp [pollState, hb, hsb]

theorem pollState_stop_none (hb : s.getBuffer q = some b) (hnone : b.mSource = none) :
    s.pollState (.stop q) = none := by
  rw [pollState, hb]
  cases b.mBuffer <;> simp [hnone]

/-- `SetNotificationPositions` polls if it finds that the source has just stopped. -/
theorem pollState_justStopped {notifies : Option (List (PositionNotify EventHandle))}
    (hb : s.getBuffer q = some b) (h : s.JustStopped q b notifies) :
    s.pollState (.setNotificationPositions q notifies) = some s := by
  rw [pollState, hb]
  exact if_pos h

theorem pollState_not_justStopped {notifies : Option (List (PositionNotify EventHandle))}
    (hb : s.getBuffer q = some b) (h : ¬ s.JustStopped q b notifies) :
    s.pollState (.setNotificationPositions q notifies) = none := by
  rw [pollState, hb]
  exact if_neg h

/-- The polls see a step as steps of what they have seen, after which nothing is awaited if it
is a poll. -/
def Sees (s : DSound8OAL) (op : Op) (s' : DSound8OAL) (p : Ptr) (v : StopView) : Prop :=
  ∃ v', s'.Views p v' ∧
    Steps v (due incur (v.ended v') ++ due settle (s.stopsSignalled op p)) v' ∧
    ((s.pollState op).isSome → v'.awaited = [])

/-- Nothing ends, and nothing is polled. -/
theorem Views.sees {op : Op} (hpoll : s.pollState op = none) (h : s'.Views p v')
    (hended : v.ended v' = []) (hstep : Step v [] v') : s.Sees op s' p v := by
  refine ⟨v', h, ?_, fun hsome ↦ ?_⟩
  · rw [stopsSignalled, hpoll, hended]
    exact hstep.steps
  · rw [hpoll] at hsome
    cases hsome

/-- The registered buffers are polled, after the source may have ended. -/
theorem Views.sees_polled {op : Op} {t : DSound8OAL} {v₁ : StopView}
    {notifies : List (PositionNotify EventHandle)} (hpoll : s.pollState op = some t)
    (ht : t.Views p v₁) (hfirst : Step v (due incur (v.ended v₁)) v₁)
    (hlast : Step { v₁ with pending := v₁.pending && v₁.playing } []
      ⟨notifies, v₁.playing, v₁.pending && v₁.playing⟩)
    (h : s'.Views p ⟨notifies, v₁.playing, v₁.pending && v₁.playing⟩) : s.Sees op s' p v := by
  refine ⟨_, h, ?_, fun _ ↦ awaited_polled _ _ _⟩
  have hsignalled : s.stopsSignalled op p = v₁.awaited := by
    rw [stopsSignalled, hpoll]
    exact ht.awaited
  rw [hsignalled]
  have hsteps := Steps.head hfirst (.head (.polled v₁) hlast.steps)
  rw [List.append_nil] at hsteps
  exact hsteps

variable [Abi]

/-- `AcquireResources` is not seen. -/
theorem acquireResources_sees {flags effectsCount : UInt32} {resultCodes : Bool}
    (h : s.Views p v) (hok : s.Ok)
    (hc : s.acquireResources q flags effectsCount resultCodes = some (hr, s')) :
    s.Sees (.acquireResources q flags effectsCount resultCodes) s' p v := by
  obtain ⟨b, hb, hc⟩ := Option.bind_eq_some_iff.mp hc
  obtain ⟨dev, -, hc⟩ := Option.bind_eq_some_iff.mp hc
  obtain ⟨⟨hr₁, b', dev'⟩, hacquire, hc⟩ := Option.bind_eq_some_iff.mp hc
  cases hc
  obtain ⟨hnotifies, hbuffer, hplaying⟩ := Buffer.acquireResources_keeps hacquire
  have hset := h.setBuffer_same hok.pool hb b' hnotifies hplaying hbuffer
  exact (hset.congr rfl rfl).sees rfl (ended_of_eq rfl) (.same v)

/-- **The mixing** of its source may end the playback of a buffer. -/
theorem mix_sees {o : Option Ptr} {offset : UInt32} {ended : Bool} (h : s.Views p v)
    (hok : s.Ok) (hc : s.mix o offset ended = some s') :
    s.Sees (.mix o offset ended) s' p v := by
  cases o with
  | none =>
      obtain ⟨emu, -, hc⟩ := Option.bind_eq_some_iff.mp hc
      cases hc
      exact (h.congr rfl rfl).sees rfl (ended_of_eq rfl) (.same v)
  | some q =>
      obtain ⟨b, hb, hc⟩ := Option.bind_eq_some_iff.mp hc
      cases hc
      have hplaying := b.isPlaying_mix offset ended
      by_cases hends : isPlaying b.mSource = true ∧ ended = true
      · have hnot : isPlaying (b.mix offset ended).mSource = false := by
          rw [hplaying, hends.2, Bool.not_true, Bool.and_false]
        by_cases hqp : q = p
        · subst hqp
          obtain ⟨hn, -⟩ := h.buffer hb
          have hset := h.setBuffer_self hok.pool hb (b.mix offset ended) rfl hn hnot
          refine ⟨{ v with playing := false }, hset, ?_, fun hsome ↦ by cases hsome⟩
          show Steps v (_ ++ []) _
          rw [List.append_nil]
          exact v.step_ended.steps
        · exact (h.setBuffer_other hok.pool hb hqp _).sees rfl (ended_of_eq rfl) (.same v)
      · have hkeeps : isPlaying (b.mix offset ended).mSource = isPlaying b.mSource := by
          rw [hplaying]
          revert hends
          cases isPlaying b.mSource <;> cases ended <;> simp
        have hset := h.setBuffer_same hok.pool hb (b.mix offset ended) rfl hkeeps rfl
        exact hset.sees rfl (ended_of_eq rfl) (.same v)

omit [Abi] in
/-- Other objects are not seen. -/
theorem otherSources_sees (h : s.Views p v) (current : Pool → UInt32) :
    s.Sees (.otherSources current) (s.otherSources current) p v :=
  (h.congr rfl rfl).sees rfl (ended_of_eq rfl) (.same v)

/-- **A poll** is seen as what it is. -/
theorem poll_sees (h : s.Views p v) (hok : s.Ok) (hc : s.poll = some s') :
    s.Sees .poll s' p v := by
  obtain ⟨-, hc⟩ := Option.ite_none_right_eq_some.mp hc
  exact Views.sees_polled rfl h v.step_same (.same _) (h.triggerNotifies hok hc)

/-- **`Stop`** is seen as the end of the source of a buffer, and as a poll. -/
theorem stop_sees (h : s.Views p v) (hok : s.Ok) (hc : s.stop q = some (hr, s')) :
    s.Sees (.stop q) s' p v := by
  obtain ⟨rfl, b, hb, hnone⟩ | ⟨b, src, sb, s₁, b₁, hb, hsource, hsb, hs₁, hb₁, rfl⟩ :=
    stop_cases hc
  · exact h.sees (pollState_stop_none hb hnone) (ended_of_eq rfl) (.same v)
  have hok₁ := (hok.setBuffer hb (hok.buffers q b hb).1.pause).ok
  have hpoll := pollState_stop hb hsb
  have hsome : b.mSource.isSome := Option.isSome_of_eq_some hsource
  by_cases hqp : q = p
  · subst hqp
    obtain ⟨hn, -, hcaps⟩ := h.buffer hb
    rw [Buffer.hasCaps_eq hsb] at hcaps
    rw [if_pos ⟨hsome, hcaps⟩] at hpoll
    have hpause := h.setBuffer_self hok.pool hb b.pause rfl hn b.isPlaying_pause
    obtain ⟨hno, -⟩ | ⟨-, hflush⟩ := hs₁
    · exact absurd hcaps hno
    have hview := hpause.flushNotify hok₁ (fun _ ↦ rfl) hflush
    obtain ⟨hok₂, -⟩ := hok₁.flushNotify hflush
    exact Views.sees_polled hpoll hpause v.step_ended (.same _)
      (hview.setBuffer_same hok₂.pool hb₁ _ rfl rfl rfl)
  · have hpause := h.setBuffer_other hok.pool hb hqp b.pause
    obtain ⟨hno, rfl⟩ | ⟨hcaps, hflush⟩ := hs₁
    · rw [if_neg fun hp ↦ hno hp.2] at hpoll
      have hset := hpause.setBuffer_same hok₁.pool hb₁
        { b₁ with mLastPos := Buffer.stopPos sb src.pause } rfl rfl rfl
      exact hset.sees hpoll (ended_of_eq rfl) (.same v)
    · rw [if_pos ⟨hsome, hcaps⟩] at hpoll
      have hview := hpause.flushNotify hok₁ (fun heq ↦ absurd heq hqp) hflush
      obtain ⟨hok₂, -⟩ := hok₁.flushNotify hflush
      exact Views.sees_polled hpoll hpause v.step_same (.same _)
        (hview.setBuffer_same hok₂.pool hb₁ _ rfl rfl rfl)

/-- **`SetNotificationPositions`** may be seen as a poll, and then replaces the notifications. -/
theorem setNotificationPositions_sees
    {notifies : Option (List (PositionNotify EventHandle))} (h : s.Views p v) (hok : s.Ok)
    (hnot : ¬ s.MissesEnd p (.setNotificationPositions q notifies))
    (hc : s.setNotificationPositions q notifies = some (hr, s')) :
    s.Sees (.setNotificationPositions q notifies) s' p v := by
  obtain ⟨b, s₁, hb, hs₁, hs'⟩ := setNotificationPositions_cases hc
  obtain ⟨hstopped, rfl⟩ | ⟨hstopped, hflush⟩ := hs₁
  · have hpoll := pollState_not_justStopped hb hstopped
    obtain rfl | ⟨b₁, newNots, hstores, hb₁, rfl⟩ := hs'
    · exact h.sees hpoll (ended_of_eq rfl) (.same v)
    obtain rfl : b = b₁ := Option.some.inj (hb.symm.trans hb₁)
    by_cases hqp : q = p
    · subst hqp
      obtain ⟨hn, hp, -⟩ := h.buffer hb
      have hset := h.setBuffer_self hok.pool hb { b with mNotifies := newNots } rfl rfl hp
      have hplaying : v.playing = false := hp.symm.trans (Bool.eq_false_iff.mpr hstores.1)
      refine hset.sees hpoll (ended_of_eq rfl) (.replaced v newNots hplaying fun hpending ↦ ?_)
      rw [← h.pending] at hpending
      by_contra hne
      -- the buffer would have been polled if it had a source
      refine hnot (.setNotificationPositions ⟨hb, hpending, hstores.1⟩ ?_ hstores
        (by rw [hn]; exact hne))
      obtain ⟨hidle, sb, ns, -, rfl, -⟩ := hstores
      by_contra hsource
      exact hstopped ⟨rfl, hidle, Option.isSome_iff_ne_none.mpr hsource, hpending⟩
    · exact (h.setBuffer_other hok.pool hb hqp _).sees hpoll (ended_of_eq rfl) (.same v)
  · have hpoll := pollState_justStopped hb hstopped
    have hidle : q = p → v.playing = false := by
      rintro rfl
      obtain ⟨-, hp, -⟩ := h.buffer hb
      exact hp.symm.trans (Bool.eq_false_iff.mpr hstopped.2.1)
    have hview := h.flushNotify hok hidle hflush
    obtain rfl | ⟨b₁, newNots, hstores, hb₁, rfl⟩ := hs'
    · exact Views.sees_polled hpoll h v.step_same (.same _) hview
    have hok₁ := (hok.flushNotify hflush).ok
    by_cases hqp : q = p
    · subst hqp
      obtain ⟨-, hp, -⟩ := hview.buffer hb₁
      have hset := hview.setBuffer_self hok₁.pool hb₁ { b₁ with mNotifies := newNots } rfl rfl hp
      refine Views.sees_polled hpoll h v.step_same
        (.replaced _ newNots (hidle rfl) fun hpending ↦ ?_) hset
      rw [hidle rfl, Bool.and_false] at hpending
      cases hpending
    · exact Views.sees_polled hpoll h v.step_same (.same _)
        (hview.setBuffer_other hok₁.pool hb₁ hqp _)

/-- **`Play`** is seen as a start, unless it misses the end before it. -/
theorem play_sees {priority flags : UInt32} {started : Bool} (h : s.Views p v) (hok : s.Ok)
    (hnot : ¬ s.MissesEnd p (.play q priority flags started))
    (hc : s.play q priority flags started = some (hr, s')) :
    s.Sees (.play q priority flags started) s' p v := by
  obtain ⟨b, hb, hc⟩ := Option.bind_eq_some_iff.mp hc
  obtain ⟨dev, hdev, hc⟩ := Option.bind_eq_some_iff.mp hc
  obtain ⟨⟨hr₁, b', dev', notify⟩, hplay, hc⟩ := Option.bind_eq_some_iff.mp hc
  cases hc
  by_cases hqp : q = p
  · subst hqp
    obtain ⟨hn, hp, hcaps⟩ := h.buffer hb
    obtain ⟨sb, hsb, -⟩ := (Option.any_eq_true _ _).mp hcaps
    obtain ⟨hnotifies, hbuffer, ⟨hplaying, rfl⟩ | ⟨hidle, rfl, hplaying, rfl⟩⟩ :=
      Buffer.play_plays hsb hplay
    · have hset := h.setBuffer_same hok.pool hb b' hnotifies hplaying hbuffer
      exact (hset.congr rfl rfl).sees rfl (ended_of_eq rfl) (.same v)
    · obtain ⟨hfail, -⟩ | ⟨-, rfl, hstart, -⟩ := Buffer.play_cases hsb hidle hplay
      · exact absurd rfl hfail
      have hnone := h.awaited_of_idle hb hidle fun hunnoticed hstops ↦
        hnot (.play hunnoticed hstops hdev hstart)
      have hset : Views { s.setBuffer q b' with mShared := some dev' } q { v with playing := true } :=
        (h.setBuffer_self hok.pool hb b' hbuffer (hnotifies.trans hn) hplaying).congr rfl rfl
      have hstep := Step.started v (hp.symm.trans hidle) hnone
      rw [hcaps, Bool.true_and, hn]
      cases hempty : v.notifies.isEmpty with
      | true =>
          rw [hempty, Bool.not_true, Bool.or_false] at hstep
          exact hset.sees rfl (ended_of_playing rfl) hstep
      | false =>
          have hadd := hset.addNotifyBuffer q b'
          rw [decide_eq_true rfl] at hadd
          rw [hempty] at hstep
          exact hadd.sees rfl (ended_of_playing rfl) hstep
  · have hset : Views { s.setBuffer q b' with mShared := some dev' } p v :=
      (h.setBuffer_other hok.pool hb hqp b').congr rfl rfl
    have hadd := hset.addNotifyBuffer q b'
    rw [decide_eq_false hqp, Bool.or_false] at hadd
    cases notify with
    | true => exact hadd.sees rfl (ended_of_eq rfl) (.same v)
    | false => exact hset.sees rfl (ended_of_eq rfl) (.same v)

/-- **The step lemma**: the polls see every call that misses no end. -/
theorem exec_sees {op : Op} (h : s.Views p v) (hok : s.Ok) (hop : op.affectsPlaying)
    (hnot : ¬ s.MissesEnd p op) (hc : s.exec op = some (hr, s')) : s.Sees op s' p v := by
  cases op with
  | play q priority flags started => exact play_sees h hok hnot hc
  | stop q => exact stop_sees h hok hc
  | acquireResources q flags effectsCount resultCodes => exact acquireResources_sees h hok hc
  | setNotificationPositions q notifies => exact setNotificationPositions_sees h hok hnot hc
  | poll =>
      obtain ⟨s₁, hpoll, heq⟩ := Option.map_eq_some_iff.mp hc
      cases heq
      exact poll_sees h hok hpoll
  | mix o offset ended =>
      obtain ⟨s₁, hmix, heq⟩ := Option.map_eq_some_iff.mp hc
      cases heq
      exact mix_sees h hok hmix
  | otherSources current =>
      cases hc
      exact otherSources_sees h current
  | _ => cases hop

/-- After a poll nothing is awaited, nor is it after a `Stop` that misses no end. -/
theorem Sees.noticed {op : Op} (h : s.Views p v) (hnot : ¬ s.MissesEnd p op)
    (hc : s.exec op = some (hr, s')) (hop : op = .poll ∨ op = .stop p) (hsees : s.Sees op s' p v) :
    ∃ v', s'.Views p v' ∧
      Steps v (due incur (v.ended v') ++ due settle (s.stopsSignalled op p)) v' ∧
      v'.awaited = [] := by
  obtain ⟨v', hv', hsteps, hpolled⟩ := hsees
  obtain rfl | rfl := hop
  · exact ⟨v', hv', hsteps, hpolled rfl⟩
  obtain ⟨rfl, b, hb, hnone⟩ | ⟨b, src, sb, s₁, b₁, hb, hsource, hsb, -⟩ := stop_cases hc
  · have hidle : isPlaying b.mSource = false := by
      rw [hnone]
      rfl
    exact ⟨v', hv', hsteps, hv'.awaited_of_idle hb hidle fun hunnoticed hstops ↦
      hnot (.stop hunnoticed hstops hnone)⟩
  · obtain ⟨-, -, hcaps⟩ := h.buffer hb
    rw [Buffer.hasCaps_eq hsb] at hcaps
    refine ⟨v', hv', hsteps, hpolled ?_⟩
    rw [pollState_stop hb hsb, if_pos ⟨Option.isSome_of_eq_some hsource, hcaps⟩]
    rfl

/-! ## What is signalled -/

/-- The part of `Stop` and `SetNotificationPositions` that polls the registered buffers. -/
theorem Ok.flushNotify_signals (hok : s.Ok)
    (hc : s.triggerNotifies.map (fun t ↦ t.removeNotifyBuffer q) = some s') :
    s'.signalled = s.signalled ++ s.mNotifyBuffers.flatMap fun e ↦ s.hitsAt e.ptr := by
  obtain ⟨t, ht, rfl⟩ := Option.map_eq_some_iff.mp hc
  exact (hok.triggerNotifies_signals ht).2

/-- **What a call signals** is what its poll hits. -/
theorem exec_signalled {op : Op} (hok : s.Ok) (hop : op.affectsPlaying)
    (hc : s.exec op = some (hr, s')) :
    s'.signalled = s.signalled ++
      (s.pollState op).elim [] fun t ↦ t.mNotifyBuffers.flatMap fun e ↦ t.hitsAt e.ptr := by
  cases op with
  | play q priority flags started =>
      obtain ⟨b, hb, hc⟩ := Option.bind_eq_some_iff.mp hc
      obtain ⟨dev, -, hc⟩ := Option.bind_eq_some_iff.mp hc
      obtain ⟨⟨hr₁, b', dev', notify⟩, -, hc⟩ := Option.bind_eq_some_iff.mp hc
      cases hc
      refine Eq.trans ?_ (List.append_nil _).symm
      unfold addNotifyBuffer
      split_ifs <;> rfl
  | stop q =>
      obtain ⟨rfl, b, hb, hnone⟩ | ⟨b, src, sb, s₁, b₁, hb, hsource, hsb, hs₁, -, rfl⟩ :=
        stop_cases hc
      · rw [pollState_stop_none hb hnone]
        exact (List.append_nil _).symm
      rw [pollState_stop hb hsb]
      have hsome : b.mSource.isSome := Option.isSome_of_eq_some hsource
      obtain ⟨hno, rfl⟩ | ⟨hcaps, hflush⟩ := hs₁
      · rw [if_neg fun hp ↦ hno hp.2]
        exact (List.append_nil _).symm
      · rw [if_pos ⟨hsome, hcaps⟩]
        have hok₁ := (hok.setBuffer hb (hok.buffers q b hb).1.pause).ok
        have hsignals := hok₁.flushNotify_signals hflush
        exact hsignals
  | acquireResources q flags effectsCount resultCodes =>
      obtain ⟨b, hb, hc⟩ := Option.bind_eq_some_iff.mp hc
      obtain ⟨dev, -, hc⟩ := Option.bind_eq_some_iff.mp hc
      obtain ⟨⟨hr₁, b', dev'⟩, -, hc⟩ := Option.bind_eq_some_iff.mp hc
      cases hc
      exact (List.append_nil _).symm
  | setNotificationPositions q notifies =>
      obtain ⟨b, s₁, hb, hs₁, hs'⟩ := setNotificationPositions_cases hc
      have hlast : s'.signalled = s₁.signalled := by
        obtain rfl | ⟨b₁, newNots, -, -, rfl⟩ := hs' <;> rfl
      rw [hlast]
      obtain ⟨hstopped, rfl⟩ | ⟨hstopped, hflush⟩ := hs₁
      · rw [pollState_not_justStopped hb hstopped]
        exact (List.append_nil _).symm
      · rw [pollState_justStopped hb hstopped]
        exact hok.flushNotify_signals hflush
  | poll =>
      obtain ⟨s₁, hpoll, heq⟩ := Option.map_eq_some_iff.mp hc
      cases heq
      obtain ⟨-, hpoll⟩ := Option.ite_none_right_eq_some.mp hpoll
      exact (hok.triggerNotifies_signals hpoll).2
  | mix o offset ended =>
      obtain ⟨s₁, hmix, heq⟩ := Option.map_eq_some_iff.mp hc
      cases heq
      cases o with
      | none =>
          obtain ⟨emu, -, hmix⟩ := Option.bind_eq_some_iff.mp hmix
          cases hmix
          exact (List.append_nil _).symm
      | some q =>
          obtain ⟨b, -, hmix⟩ := Option.bind_eq_some_iff.mp hmix
          cases hmix
          exact (List.append_nil _).symm
  | otherSources current =>
      cases hc
      exact (List.append_nil _).symm
  | _ => cases hop

end DSound8OAL

/-! ## Runs -/

namespace StopRun

variable {p : Ptr} {r r' : StopRun} {op : Op}

/-- A call, poll or end of a playback that misses no end. -/
def Timely (p : Ptr) (r : StopRun) (op : Op) : Prop :=
  op.affectsPlaying ∧ ¬ r.object.MissesEnd p op

/-- A call that polls, or before which there is nothing to be noticed. -/
def Notices (p : Ptr) (r : StopRun) (op : Op) : Prop :=
  op.affectsPlaying ∧
    (r.object.isPendingNotify p → r.object.playsAt p ∨ (r.object.pollState op).isSome)

instance (p : Ptr) (r : StopRun) (op : Op) : Decidable (r.Notices p op) :=
  inferInstanceAs (Decidable (_ ∧ (_ → _ ∨ _)))

/-- Such a call misses nothing. -/
theorem Notices.timely (h : r.Notices p op) : r.Timely p op := by
  have hpolls : ∀ b, r.object.Unnoticed p b → (r.object.pollState op).isSome := by
    rintro b ⟨hb, hpending, hidle⟩
    refine (h.2 hpending).resolve_left fun hplaying ↦ hidle ?_
    exact (DSound8OAL.playsAt_eq hb).symm.trans hplaying
  refine ⟨h.1, fun hmiss ↦ ?_⟩
  cases hmiss with
  | play hb => cases hpolls _ hb
  | stop hb _ hsource =>
      have hsome := hpolls _ hb
      rw [DSound8OAL.pollState_stop_none hb.1 hsource] at hsome
      cases hsome
  | setNotificationPositions hb hsource =>
      have hsome := hpolls _ hb
      rw [DSound8OAL.pollState_not_justStopped hb.1] at hsome
      · cases hsome
      · rintro ⟨-, -, hlost, -⟩
        rw [hsource] at hlost
        cases hlost

variable [Abi]

/-- Nothing has been logged, and the buffer at `p` can have notifications, is not playing and is
not registered for polls. -/
def IsIdle (p : Ptr) (r : StopRun) : Prop :=
  r.log = [] ∧ Reachable DSoundStep DSound8OAL.IsNew r.object ∧
    ∃ b, r.object.getBuffer p = some b ∧ b.hasCaps Caps.ctrlPositionNotify ∧
      ¬ isPlaying b.mSource ∧ ¬ r.object.isPendingNotify p

/-- What has become due has been settled, but for what is awaited. -/
def Ok (p : Ptr) (r : StopRun) : Prop :=
  r.object.Ok ∧ ∃ v, r.object.Views p v ∧ v.Inv r.log

theorem IsIdle.ok (h : r.IsIdle p) : r.Ok p := by
  obtain ⟨hlog, hreach, b, hb, hcaps, hidle, hpending⟩ := h
  refine ⟨DSound8OAL.ok_of_reachable hreach, _, ⟨b, hb, hcaps, rfl⟩, ?_⟩
  have hidle : isPlaying b.mSource = false := Bool.eq_false_iff.mpr hidle
  refine ⟨fun hp ↦ absurd hp (ne_true_of_eq_false hidle), ?_⟩
  rw [hlog, owed_eq_none]
  · exact .nil
  · rw [awaited_of_not_playing hidle]
    exact if_neg hpending

/-- What a step logs. -/
theorem exec_cases (hc : r.exec p op = some r') : ∃ hr,
    r.object.exec op = some (hr, r'.object) ∧
      r'.log = r.log ++ (due incur (if r.object.playsAt p && !r'.object.playsAt p then
        r.object.stopsAt p else []) ++ due settle (r.object.stopsSignalled op p)) := by
  obtain ⟨⟨hr, object⟩, hexec, hc⟩ := Option.bind_eq_some_iff.mp hc
  cases hc
  exact ⟨hr, hexec, rfl⟩

/-- The allocator takes no part in these calls. -/
theorem legal_of_affectsPlaying (s : DSound8OAL) (hop : op.affectsPlaying) : op.Legal s := by
  cases op with
  | initializeObject => cases hop
  | createSoundBuffer => cases hop
  | duplicateSoundBuffer => cases hop
  | _ => trivial

/-- **The step lemma.** -/
theorem Ok.step (h : r.Ok p) (hop : r.Timely p op) (hc : r.exec p op = some r') : r'.Ok p := by
  obtain ⟨hok, v, hv, hinv⟩ := h
  obtain ⟨hr, hexec, hlog⟩ := exec_cases hc
  obtain ⟨v', hv', hsteps, -⟩ := DSound8OAL.exec_sees hv hok hop.1 hop.2 hexec
  refine ⟨?_, v', hv', ?_⟩
  · exact DSoundStep.ok hok ⟨legal_of_affectsPlaying _ hop.1, hr, hexec⟩
  · rw [hlog, hv.ended hv']
    exact hinv.steps hsteps

/-- **The run lemma.** -/
theorem ok_of_reachable
    (h : Reachable (guarded (StopRun.Timely p) (functional (StopRun.exec p))) (StopRun.IsIdle p) r) :
    r.Ok p :=
  h.invariant (fun _ h ↦ h.ok) fun _ _ _ hok hs ↦ hok.step hs.1 hs.2

end StopRun

variable [Abi] {p : Ptr} {r : StopRun}

/-- **Every end of a playback is signalled**, once and by the next poll or `Stop`, in a run in
which no end is missed. -/
theorem stop_entries_signalled
    (h : Reachable (guarded (StopRun.Timely p) (functional (StopRun.exec p))) (StopRun.IsIdle p)
      r) :
    (∃ owed, Settled r.log owed) ∧
      ∀ op r', r.Timely p op → r.exec p op = some r' →
        (op = .poll ∨ op = .stop p → Settled r'.log none) ∧
        r'.object.signalled = r.object.signalled ++
          (r.object.pollState op).elim [] fun t ↦
            t.mNotifyBuffers.flatMap fun e ↦ t.hitsAt e.ptr := by
  obtain ⟨hok, v, hv, hinv⟩ := StopRun.ok_of_reachable h
  refine ⟨⟨v.owed, hinv.settled⟩, fun op r' hop hc ↦ ?_⟩
  obtain ⟨hr, hexec, hlog⟩ := StopRun.exec_cases hc
  refine ⟨fun hnotice ↦ ?_, DSound8OAL.exec_signalled hok hop.1 hexec⟩
  have hsees := DSound8OAL.exec_sees hv hok hop.1 hop.2 hexec
  obtain ⟨v', hv', hsteps, hnone⟩ := hsees.noticed hv hop.2 hexec hnotice
  have hsettled := (hinv.steps hsteps).settled
  rw [owed_eq_none hnone] at hsettled
  rw [hlog, hv.ended hv']
  exact hsettled

/-- An entry for the end of the playback. -/
def stopEntry : PositionNotify EventHandle := ⟨offsetStop, 7⟩

omit [Abi] in
/-- A run from a new buffer whose last state has a decidable property. -/
theorem StopRun.exists_of_idle :
    letI : Abi := ⟨⟨600, by decide⟩⟩
    ∀ {C : StopRun → Op → Prop} [∀ r op, Decidable (C r op)] {q : StopRun → Prop}
      [DecidablePred q] (ops : List Op),
      (monoRun (Caps.ctrlPositionNotify ||| Caps.locHardware) []).any (fun s ↦ decide (
        ((s.getBuffer ⟨4096, 0⟩).any fun b ↦
          b.hasCaps Caps.ctrlPositionNotify && !isPlaying b.mSource) ∧
        s.isPendingNotify ⟨4096, 0⟩ = false ∧
        (runFun (restrict C (StopRun.exec ⟨4096, 0⟩)) ⟨s, []⟩ ops).any fun r ↦ decide (q r))) =
          true →
      ∃ r, Reachable (guarded C (functional (StopRun.exec ⟨4096, 0⟩)))
        (StopRun.IsIdle ⟨4096, 0⟩) r ∧ q r := by
  let _ : Abi := ⟨⟨600, by decide⟩⟩
  intro C _ q _ ops h
  obtain ⟨s, hreach, hbuffer, hpending, hrun⟩ :=
    exists_of_monoRun (Caps.ctrlPositionNotify ||| Caps.locHardware) [] h
  obtain ⟨b, hb, hidle⟩ := (Option.any_eq_true _ _).mp hbuffer
  rw [Bool.and_eq_true, Bool.not_eq_true'] at hidle
  exact Reachable.exists_of_runFun_restrict ⟨rfl, hreach, b, hb, hidle.1,
    ne_true_of_eq_false hidle.2, ne_true_of_eq_false hpending⟩ ops hrun

omit [Abi] in
/-- A buffer ends, is polled, is played again and stopped. -/
theorem stop_entries_signalled_twice :
    letI : Abi := ⟨⟨600, by decide⟩⟩
    ∃ r r' : StopRun, r.exec ⟨4096, 0⟩ (.stop ⟨4096, 0⟩) = some r' ∧
      (∃ owed, Settled r.log owed) ∧ Settled r'.log none ∧
      r'.log = [.incur [stopEntry], .settle [stopEntry], .incur [stopEntry], .settle [stopEntry]] ∧
      r'.object.signalled = [stopEntry, stopEntry] := by
  let _ : Abi := ⟨⟨600, by decide⟩⟩
  obtain ⟨r, h, htimely, hlast⟩ := StopRun.exists_of_idle (C := StopRun.Notices ⟨4096, 0⟩)
    (q := fun r ↦ r.Notices ⟨4096, 0⟩ (.stop ⟨4096, 0⟩) ∧
      (r.exec ⟨4096, 0⟩ (.stop ⟨4096, 0⟩)).any fun r' ↦ decide (r'.log =
        [.incur [stopEntry], .settle [stopEntry], .incur [stopEntry], .settle [stopEntry]] ∧
      r'.object.signalled = [stopEntry, stopEntry]))
    [.setNotificationPositions ⟨4096, 0⟩ (some [stopEntry]), .play ⟨4096, 0⟩ 0 0 true,
      .mix (some ⟨4096, 0⟩) 0 true, .poll, .play ⟨4096, 0⟩ 0 0 true] (by decide +kernel)
  obtain ⟨r', hexec, hlast⟩ := (Option.any_eq_true _ _).mp hlast
  obtain ⟨hlog, hsignalled⟩ := of_decide_eq_true hlast
  have hsettled := stop_entries_signalled (h.mono fun _ _ _ hs ↦ ⟨hs.1.timely, hs.2⟩)
  exact ⟨r, r', hexec, hsettled.1, (hsettled.2 _ r' htimely.timely hexec).1 (.inr rfl), hlog,
    hsignalled⟩

omit [Abi] in
/-- A buffer ends, is played again before a poll, and ends again: the next poll signals one
end, and there were two. -/
theorem play_loses_stop_entries :
    letI : Abi := ⟨⟨600, by decide⟩⟩
    ∃ r r' : StopRun,
      Reachable (guarded (fun _ op ↦ op.affectsPlaying = true)
        (functional (StopRun.exec ⟨4096, 0⟩))) (StopRun.IsIdle ⟨4096, 0⟩) r ∧
      r.exec ⟨4096, 0⟩ .poll = some r' ∧
      r'.log = [.incur [stopEntry], .incur [stopEntry], .settle [stopEntry]] ∧
      r'.object.signalled = [stopEntry] ∧ ¬ ∃ owed, Settled r.log owed := by
  let _ : Abi := ⟨⟨600, by decide⟩⟩
  obtain ⟨r, h, hlog, hlast⟩ := StopRun.exists_of_idle (C := fun _ op ↦ op.affectsPlaying = true)
    (q := fun r ↦ r.log = [.incur [stopEntry], .incur [stopEntry]] ∧
      (r.exec ⟨4096, 0⟩ .poll).any fun r' ↦ decide (r'.log =
        [.incur [stopEntry], .incur [stopEntry], .settle [stopEntry]] ∧
      r'.object.signalled = [stopEntry]))
    [.setNotificationPositions ⟨4096, 0⟩ (some [stopEntry]), .play ⟨4096, 0⟩ 0 0 true,
      .mix (some ⟨4096, 0⟩) 0 true, .play ⟨4096, 0⟩ 0 0 true, .mix (some ⟨4096, 0⟩) 0 true]
    (by decide +kernel)
  obtain ⟨r', hexec, hlast⟩ := (Option.any_eq_true _ _).mp hlast
  obtain ⟨hlog', hsignalled⟩ := of_decide_eq_true hlast
  refine ⟨r, r', h, hexec, hlog', hsignalled, ?_⟩
  rintro ⟨owed, hsettled⟩
  rw [hlog] at hsettled
  exact not_settled_incur_incur hsettled

end Dsoal
