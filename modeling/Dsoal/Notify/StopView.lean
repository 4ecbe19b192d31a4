import Dsoal.Core.StopEvents
import Dsoal.Notify.Passes
import Dsoal.Object.Cases
import Dsoal.Object.Steps
import Dsoal.Playback.Starts

/-!
# The polls and the ends of a playback

A buffer that is registered for polls and is not playing any more is awaiting the poll that
signals its entries for `DSBPN_OFFSETSTOP` (`StopView.awaited`).  `StopView.Step` is what a
step can do to a buffer in this respect, and `StopView.Inv` what all of that keeps: whatever
has become due has been settled, but for what is awaited.

Below that is what the methods of a buffer do in this respect, and what a poll signals.
-/

namespace Dsoal

open Due TransitionSystem

/-! ## What the polls see of a buffer -/

/-- What matters of a buffer: its notifications, whether it is playing, and whether it is
registered for polls. -/
structure StopView where
  notifies : List (PositionNotify EventHandle)
  playing : Bool
  pending : Bool

namespace StopView

variable {v v' : StopView} {log events : List (Due (List (PositionNotify EventHandle)))}

/-- What the next poll signals for the end of the playback. -/
def awaited (v : StopView) : List (PositionNotify EventHandle) :=
  if v.pending && !v.playing then stopEntries v.notifies else []

/-- The due that is open. -/
def owed (v : StopView) : Option (List (PositionNotify EventHandle)) :=
  if v.awaited.isEmpty then none else some v.awaited

/-- What a step can do, and the entries of the log it makes. -/
inductive Step : StopView → List (Due (List (PositionNotify EventHandle))) → StopView → Prop
  /-- Nothing. -/
  | same (v : StopView) : Step v [] v
  /-- The source ends, or is paused. -/
  | ended (v : StopView) (hplaying : v.playing = true) :
    Step v (due incur (stopEntries v.notifies)) { v with playing := false }
  /-- A poll, which drops the buffer if it is not playing. -/
  | polled (v : StopView) :
    Step v (due settle v.awaited) { v with pending := v.pending && v.playing }
  /-- The source is started, and the buffer registered if it has notifications. -/
  | started (v : StopView) (hnot : v.playing = false) (hnone : v.awaited = []) :
    Step v [] { v with playing := true, pending := v.pending || !v.notifies.isEmpty }
  /-- The notifications are replaced; those for the end are the same if a poll is awaited. -/
  | replaced (v : StopView) (notifies : List (PositionNotify EventHandle))
    (hnot : v.playing = false)
    (hsame : v.pending = true → stopEntries notifies = stopEntries v.notifies) :
    Step v [] { v with notifies := notifies }

/-- A playing buffer that has anything to signal at its end is registered, and the log is
settled but for what is awaited. -/
structure Inv (v : StopView) (log : List (Due (List (PositionNotify EventHandle)))) : Prop where
  registered : v.playing = true → stopEntries v.notifies ≠ [] → v.pending = true
  settled : Settled log v.owed

theorem owed_eq_none (h : v.awaited = []) : v.owed = none := by
  rw [owed, h]
  rfl

theorem owed_eq_some (h : v.awaited ≠ []) : v.owed = some v.awaited :=
  if_neg fun hnil ↦ h (List.isEmpty_iff.mp hnil)

theorem due_nil (f : List (PositionNotify EventHandle) → Due (List (PositionNotify EventHandle))) :
    due f [] = [] := rfl

theorem due_of_ne
    (f : List (PositionNotify EventHandle) → Due (List (PositionNotify EventHandle)))
    {entries : List (PositionNotify EventHandle)} (h : entries ≠ []) :
    due f entries = [f entries] := if_neg fun hnil ↦ h (List.isEmpty_iff.mp hnil)

theorem awaited_of_playing (h : v.playing = true) : v.awaited = [] := by
  rw [awaited, h, Bool.not_true, Bool.and_false]
  rfl

theorem awaited_of_not_playing (h : v.playing = false) :
    v.awaited = if v.pending then stopEntries v.notifies else [] := by
  rw [awaited, h, Bool.not_false, Bool.and_true]

/-- A poll leaves nothing awaited. -/
theorem awaited_polled (notifies : List (PositionNotify EventHandle)) (playing pending : Bool) :
    awaited ⟨notifies, playing, pending && playing⟩ = [] := by
  cases playing with
  | false =>
      rw [Bool.and_false]
      rfl
  | true => exact awaited_of_playing rfl

/-- **The step lemma.** -/
theorem Inv.step (h : v.Inv log) (hstep : Step v events v') : v'.Inv (log ++ events) := by
  cases hstep with
  | same =>
      rw [List.append_nil]
      exact h
  | ended hplaying =>
      have hsettled := h.settled
      rw [owed_eq_none (awaited_of_playing hplaying)] at hsettled
      refine ⟨(fun hp ↦ by cases hp), ?_⟩
      have hawaited := awaited_of_not_playing (v := { v with playing := false }) rfl
      by_cases hstops : stopEntries v.notifies = []
      · rw [hstops, due_nil, List.append_nil, owed_eq_none]
        · exact hsettled
        · rw [hawaited, hstops, ite_self]
      · rw [if_pos (h.registered hplaying hstops)] at hawaited
        rw [due_of_ne incur hstops, owed_eq_some (by rw [hawaited]; exact hstops), hawaited]
        exact hsettled.incur _
  | polled =>
      have hnone := awaited_polled v.notifies v.playing v.pending
      refine ⟨fun hp hstops ↦ ?_, ?_⟩
      · rw [Bool.and_eq_true]
        exact ⟨h.registered hp hstops, hp⟩
      · rw [owed_eq_none hnone]
        have hsettled := h.settled
        by_cases hawaited : v.awaited = []
        · rw [owed_eq_none hawaited] at hsettled
          rw [hawaited, due_nil, List.append_nil]
          exact hsettled
        · rw [owed_eq_some hawaited] at hsettled
          rw [due_of_ne settle hawaited]
          exact hsettled.settle
  | started hnot hnone =>
      have hsettled := h.settled
      rw [owed_eq_none hnone] at hsettled
      rw [List.append_nil]
      refine ⟨fun _ hstops ↦ ?_, ?_⟩
      · rw [Bool.or_eq_true]
        right
        cases hnotifies : v.notifies with
        | nil =>
            refine absurd ?_ hstops
            show stopEntries v.notifies = []
            rw [hnotifies]
            rfl
        | cons notify rest => rfl
      · rw [owed_eq_none (awaited_of_playing rfl)]
        exact hsettled
  | replaced notifies hnot hsame =>
      rw [List.append_nil]
      refine ⟨fun hp ↦ absurd hp (ne_true_of_eq_false hnot), ?_⟩
      have hawaited : awaited { v with notifies := notifies } = v.awaited := by
        rw [awaited_of_not_playing hnot,
          awaited_of_not_playing (v := { v with notifies := notifies }) hnot]
        show (if v.pending = true then _ else _) = _
        split_ifs with hpending
        · exact hsame hpending
        · rfl
      have howed : owed { v with notifies := notifies } = v.owed := by
        rw [owed, hawaited, owed]
      rw [howed]
      exact h.settled

/-- Several steps. -/
inductive Steps : StopView → List (Due (List (PositionNotify EventHandle))) → StopView → Prop
  | refl (v : StopView) : Steps v [] v
  | head {v v₁ v' : StopView} {events events' : List (Due (List (PositionNotify EventHandle)))} :
    Step v events v₁ → Steps v₁ events' v' → Steps v (events ++ events') v'

theorem Step.steps (h : Step v events v') : Steps v events v' := by
  have hsteps := Steps.head h (.refl v')
  rw [List.append_nil] at hsteps
  exact hsteps

/-- **The run lemma.** -/
theorem Inv.steps (h : v.Inv log) (hsteps : Steps v events v') : v'.Inv (log ++ events) := by
  induction hsteps generalizing log with
  | refl =>
      rw [List.append_nil]
      exact h
  | head hstep _ ih =>
      rw [← List.append_assoc]
      exact ih (h.step hstep)

/-- What becomes due when the buffer is seen as `v` and then as `v'`. -/
def ended (v v' : StopView) : List (PositionNotify EventHandle) :=
  if v.playing && !v'.playing then stopEntries v.notifies else []

theorem ended_of_not_playing (h : v.playing = false) : v.ended v' = [] := by
  rw [ended, h, Bool.false_and]
  rfl

theorem ended_of_playing (h : v'.playing = true) : v.ended v' = [] := by
  rw [ended, h, Bool.not_true, Bool.and_false]
  rfl

/-- Nothing ends while the buffer goes on playing, or goes on not playing. -/
theorem ended_of_eq (h : v'.playing = v.playing) : v.ended v' = [] := by
  cases hplaying : v.playing with
  | false => exact ended_of_not_playing hplaying
  | true => exact ended_of_playing (h.trans hplaying)

/-- Nothing ends. -/
theorem step_same (v : StopView) : Step v (due incur (v.ended v)) v := by
  rw [ended_of_eq rfl]
  exact .same v

/-- The source ends if it is playing. -/
theorem step_ended (v : StopView) :
    Step v (due incur (v.ended { v with playing := false })) { v with playing := false } := by
  cases hplaying : v.playing with
  | false =>
      rw [ended_of_not_playing hplaying]
      obtain ⟨notifies, playing, pending⟩ := v
      obtain rfl : playing = false := hplaying
      exact .same _
  | true =>
      have hended : v.ended { v with playing := false } = stopEntries v.notifies := by
        rw [ended, hplaying]
        rfl
      rw [hended]
      exact .ended v hplaying

end StopView

/-! ## What the methods do to a buffer -/

namespace Buffer

variable {parent : Parent} {b b' : Buffer} {sb : SharedBuffer} {dev dev' : DeviceSources}
  {hr : HResult} {want : LocStatus} {priority flags : UInt32} {started notify : Bool}

theorem isPlaying_genSourceIn (room : Bool) (b : Buffer) :
    isPlaying (b.genSourceIn room).mSource = isPlaying b.mSource := by
  unfold genSourceIn
  cases b.mSource with
  | none => cases room <;> rfl
  | some src => rfl

/-- A buffer that is not playing is not when it has given up its location. -/
theorem isPlaying_leaveLocation (dev : DeviceSources)
    (h : b.mLocStatus ≠ .none → isPlaying b.mSource = false) :
    isPlaying (b.leaveLocation dev).1.mSource = isPlaying b.mSource := by
  rw [mSource_leaveLocation]
  split_ifs with hnone
  · rfl
  · rw [h hnone]
    rfl

/-- `setLocation` stops or starts nothing, unless it moves a buffer that is playing. -/
theorem isPlaying_setLocation
    (h : b.Moves want → b.mLocStatus ≠ .none → isPlaying b.mSource = false)
    (hc : b.setLocation parent dev want = some (hr, b', dev')) :
    isPlaying b'.mSource = isPlaying b.mSource := by
  rw [← setLocationIn_true] at hc
  rcases setLocationIn_cases hc with ⟨-, -, rfl, -⟩ | ⟨hmoves, -, -, rfl, -⟩ |
    ⟨hmoves, k, sb, -, -, rfl⟩
  · rfl
  · exact isPlaying_leaveLocation dev (h hmoves)
  · show isPlaying (writeSource _ _).mSource = _
    rw [isPlaying_writeSource, isPlaying_genSourceIn, isPlaying_leaveLocation dev (h hmoves)]

/-- `Play` and `AcquireResources` move no buffer that is playing. -/
theorem isPlaying_deferredLocation
    (hc : b.deferredLocation parent dev flags = some (hr, b', dev')) :
    isPlaying b'.mSource = isPlaying b.mSource := by
  obtain rfl | ⟨hset, hrefused⟩ := deferredLocation_asks hc
  · rfl
  refine isPlaying_setLocation (fun hmoves hlocated ↦ ?_) hset
  by_contra hplaying
  unfold Moves at hmoves
  split_ifs at hmoves with hany
  · exact hlocated hmoves
  · exact hrefused ⟨hany, hlocated, fun heq ↦ hmoves heq.symm, by simpa using hplaying⟩

/-- They change nothing else that the polls see. -/
theorem deferredLocation_keeps
    (hc : b.deferredLocation parent dev flags = some (hr, b', dev')) :
    b'.mNotifies = b.mNotifies ∧ b'.mBuffer = b.mBuffer ∧
      isPlaying b'.mSource = isPlaying b.mSource := by
  have hplaying := isPlaying_deferredLocation hc
  obtain ⟨src, loc, rfl⟩ := deferredLocation_eq hc
  exact ⟨rfl, rfl, hplaying⟩

theorem acquireResources_keeps {effectsCount : UInt32} {resultCodes : Bool}
    (hc : b.acquireResources parent dev flags effectsCount resultCodes = some (hr, b', dev')) :
    b'.mNotifies = b.mNotifies ∧ b'.mBuffer = b.mBuffer ∧
      isPlaying b'.mSource = isPlaying b.mSource := by
  obtain rfl | hloc := acquireResources_asks hc
  · exact ⟨rfl, rfl, rfl⟩
  · exact deferredLocation_keeps hloc

/-- **Starting a source** that is not playing may make the buffer one to be polled. -/
theorem start_plays (b : Buffer) (sb : SharedBuffer) (flags : UInt32) (started : Bool) :
    (b.start sb flags started).2.1.mNotifies = b.mNotifies ∧
      ((isPlaying (b.start sb flags started).2.1.mSource = isPlaying b.mSource ∧
          (b.start sb flags started).2.2 = false) ∨
        (isPlaying b.mSource = false ∧ (b.start sb flags started).1 = .ok ∧
          isPlaying (b.start sb flags started).2.1.mSource = true ∧
          (b.start sb flags started).2.2 =
            (hasFlag sb.mFlags Caps.ctrlPositionNotify && !b.mNotifies.isEmpty))) := by
  unfold start
  cases hsource : b.mSource with
  | none => exact ⟨rfl, .inl ⟨rfl, rfl⟩⟩
  | some src =>
      obtain ⟨attrs, looping, state, offset⟩ := src
      cases state <;> cases started <;> simp [isPlaying]

/-- **`Play`** starts a source, or leaves it playing or not playing. -/
theorem play_plays (hsb : b.mBuffer = some sb)
    (hc : b.play parent dev priority flags started = some (hr, b', dev', notify)) :
    b'.mNotifies = b.mNotifies ∧ b'.mBuffer = b.mBuffer ∧
      ((isPlaying b'.mSource = isPlaying b.mSource ∧ notify = false) ∨
        (isPlaying b.mSource = false ∧ hr = .ok ∧ isPlaying b'.mSource = true ∧
          notify = (b.hasCaps Caps.ctrlPositionNotify && !b.mNotifies.isEmpty))) := by
  obtain ⟨rfl, rfl⟩ | ⟨sb', b₁, hsb', -, hb₁, hb'⟩ := play_asks hc
  · exact ⟨rfl, rfl, .inl ⟨rfl, rfl⟩⟩
  obtain rfl : sb = sb' := Option.some.inj (hsb.symm.trans hsb')
  obtain ⟨hnotifies, hbuffer, hplaying⟩ : b₁.mNotifies = b.mNotifies ∧ b₁.mBuffer = b.mBuffer ∧
      isPlaying b₁.mSource = isPlaying b.mSource := by
    obtain rfl | ⟨hr₁, hloc⟩ := hb₁
    · exact ⟨rfl, rfl, rfl⟩
    · exact deferredLocation_keeps hloc
  obtain ⟨rfl, rfl⟩ | hstart := hb'
  · exact ⟨hnotifies, hbuffer, .inl ⟨hplaying, rfl⟩⟩
  · have hstarts := b₁.start_plays sb flags started
    have hkept := mBuffer_start b₁ sb flags started
    rw [hstart] at hstarts hkept
    rw [hnotifies, hplaying, ← hasCaps_eq hsb Caps.ctrlPositionNotify] at hstarts
    exact ⟨hstarts.1, hkept.trans hbuffer, hstarts.2⟩

end Buffer

/-! ## Polls -/

/-- No play position is beyond the one that stands for the end. -/
theorem stopEntries_hitNotifies (notifies : List (PositionNotify EventHandle))
    (lastPos offset : UInt32) : stopEntries (hitNotifies notifies lastPos offset) = [] := by
  refine List.filter_eq_nil_iff.mpr fun notify hmem hstop ↦ ?_
  have hstop : notify.dwOffset = offsetStop := by simpa using hstop
  unfold hitNotifies at hmem
  split_ifs at hmem
  · have hlt : notify.dwOffset < offset := by
      obtain ⟨-, hhit⟩ := List.mem_filter.mp hmem
      exact (of_decide_eq_true hhit).2
    rw [hstop, UInt32.lt_iff_toNat_lt] at hlt
    have hle := offset.toNat_lt
    change 2 ^ 32 - 1 < offset.toNat at hlt
    omega
  · obtain ⟨-, hhit⟩ := List.mem_filter.mp hmem
    exact (of_decide_eq_true hhit).2 hstop
  · exact absurd hmem List.not_mem_nil

/-- **A poll** signals the entries for the end if the source is not playing, and then there is
no other. -/
theorem updateNotify_stops (dataSize : ℕ) (notifies : List (PositionNotify EventHandle))
    (lastPos : UInt32) (state : ALState) (ioffset : UInt32) :
    (updateNotify dataSize notifies lastPos state ioffset).2.2 = decide (state = .playing) ∧
      stopEntries (updateNotify dataSize notifies lastPos state ioffset).1 =
        if state = .playing then [] else stopEntries notifies := by
  have hhits := stopEntries_hitNotifies notifies lastPos (pollOffset dataSize state ioffset)
  unfold updateNotify
  dsimp only
  by_cases hplaying : state = .playing
  · rw [if_neg (not_not.mpr hplaying), if_pos hplaying]
    exact ⟨(decide_eq_true hplaying).symm, hhits⟩
  · rw [if_pos hplaying, if_neg hplaying]
    refine ⟨(decide_eq_false hplaying).symm, ?_⟩
    rw [stopEntries, List.filter_append, List.filter_filter]
    simp only [Bool.and_self]
    rw [← stopEntries, hhits]
    rfl

namespace Buffer

variable {b b' : Buffer} {hit : List (PositionNotify EventHandle)} {again : Bool}

theorem updateNotify_stops (hc : b.updateNotify = some (hit, b', again)) :
    again = isPlaying b.mSource ∧
      stopEntries hit = if isPlaying b.mSource then [] else stopEntries b.mNotifies := by
  obtain ⟨sb, -, hc⟩ := Option.bind_eq_some_iff.mp hc
  have hstops := Dsoal.updateNotify_stops sb.dataSize.toNat b.mNotifies b.mLastPos
    (b.mSource.elim .initial Source.state) (b.mSource.elim 0 Source.ioffset)
  have hplaying : isPlaying b.mSource =
      decide (b.mSource.elim .initial Source.state = .playing) := by
    cases b.mSource <;> rfl
  rcases hu : Dsoal.updateNotify sb.dataSize.toNat b.mNotifies b.mLastPos
    (b.mSource.elim .initial Source.state) (b.mSource.elim 0 Source.ioffset) with ⟨hit', n, again'⟩
  dsimp only at hc
  rw [hu] at hc hstops
  cases hc
  rw [hplaying]
  simp only [decide_eq_true_eq]
  exact hstops

end Buffer

namespace DSound8OAL

variable {s s' : DSound8OAL} {p q : Ptr} {b : Buffer}

theorem playsAt_eq (hp : s.getBuffer p = some b) : s.playsAt p = isPlaying b.mSource := by
  rw [playsAt, hp]
  rfl

theorem stopsAt_eq (hp : s.getBuffer p = some b) : s.stopsAt p = stopEntries b.mNotifies := by
  rw [stopsAt, hp]
  rfl

theorem hitsAt_eq (hp : s.getBuffer p = some b) :
    s.hitsAt p = b.updateNotify.elim [] Prod.fst := by
  rw [hitsAt, hp]
  rfl

variable [Abi]

/-- **The polls of a list** of different buffers signal what each of them hits, and drop those
that are not playing. -/
theorem pollBuffers_signals (h : PoolOk s.mSecondaryBuffers) {es kept : List Registered}
    (hnodup : (es.map Registered.ptr).Nodup) (hc : pollBuffers es s = some (kept, s')) :
    kept = (es.filter fun e ↦ s.playsAt e.ptr) ∧
      s'.signalled = s.signalled ++ es.flatMap fun e ↦ s.hitsAt e.ptr := by
  induction es generalizing s kept with
  | nil =>
      cases hc
      exact ⟨rfl, (List.append_nil _).symm⟩
  | cons e es ih =>
      obtain ⟨b, hb, hc⟩ := Option.bind_eq_some_iff.mp hc
      obtain ⟨⟨hit, b', again⟩, hu, hc⟩ := Option.bind_eq_some_iff.mp hc
      obtain ⟨⟨kept', s₁⟩, hrec, hc⟩ := Option.bind_eq_some_iff.mp hc
      cases hc
      obtain ⟨hnew, hnodup⟩ := List.nodup_cons.mp hnodup
      set t : DSound8OAL := { s.setBuffer e.ptr b' with signalled := s.signalled ++ hit } with ht
      have hget : ∀ q, t.getBuffer q = if q = e.ptr then some b' else s.getBuffer q :=
        getBuffer_setBuffer h hb b'
      have hplays : ∀ q, t.playsAt q = s.playsAt q := by
        intro q
        rw [playsAt, playsAt, hget]
        split_ifs with hq
        · obtain ⟨n, rfl⟩ := updateNotify_eq hu
          rw [hq, hb]
          rfl
        · rfl
      have hhits : ∀ e' ∈ es, t.hitsAt e'.ptr = s.hitsAt e'.ptr := by
        intro e' he'
        have hne : e'.ptr ≠ e.ptr := fun heq ↦ hnew (heq ▸ List.mem_map_of_mem he')
        rw [hitsAt, hitsAt, hget, if_neg hne]
      obtain ⟨hkept, hsignalled⟩ := ih (s := t) (poolOk_setBuffer h e.ptr b') hnodup hrec
      obtain ⟨hagain, -⟩ := Buffer.updateNotify_stops hu
      refine ⟨?_, ?_⟩
      · rw [List.filter_cons, playsAt_eq hb, ← hagain, hkept]
        simp only [hplays]
      · rw [hsignalled, List.flatMap_cons, hitsAt_eq hb, hu, List.flatMap_congr hhits, ht]
        exact List.append_assoc _ _ _

/-- **A poll of the registered buffers** signals what each of them hits, and drops those that
are not playing. -/
theorem Ok.triggerNotifies_signals (h : s.Ok) (hc : s.triggerNotifies = some s') :
    s'.mNotifyBuffers = (s.mNotifyBuffers.filter fun e ↦ s.playsAt e.ptr) ∧
      s'.signalled = s.signalled ++ s.mNotifyBuffers.flatMap fun e ↦ s.hitsAt e.ptr := by
  obtain ⟨⟨kept, s₁⟩, hpoll, hc⟩ := Option.bind_eq_some_iff.mp hc
  cases hc
  have hsignals := pollBuffers_signals h.pool h.nodupNotify hpoll
  exact hsignals

/-- It leaves everything else of a buffer alone. -/
theorem Ok.getBuffer_triggerNotifies (h : s.Ok) (hc : s.triggerNotifies = some s')
    (hp : s.getBuffer p = some b) : ∃ n, s'.getBuffer p = some { b with mLastPos := n } := by
  obtain ⟨⟨kept, s₁⟩, hpoll, hc⟩ := Option.bind_eq_some_iff.mp hc
  cases hc
  obtain ⟨gs, sig, rfl, -, hlook, -⟩ := pollBuffers_eq h.pool hpoll
  obtain ⟨n, hn⟩ := hlook p
  rw [hp] at hn
  exact ⟨n, hn⟩

end DSound8OAL

end Dsoal
