import Dsoal.Devices.Generation
import Dsoal.Playback.Cursors

/-!
# Where a buffer starts

What `Play` and `AcquireResources` do to a buffer that is not playing: whether they find a
source for it (`Buffer.Startable`), whether that is a new one (`Buffer.Replaces`), and where
the source starts (`Track.startOffset`).
-/

namespace Dsoal

namespace Track

/-- Where a source starts: one that has been played at its own offset, and any other at the
stored position. -/
def startOffset (t : Track) : UInt32 :=
  match t.source with
  | some (.playing, offset) | some (.paused, offset) | some (.stopped, offset) => offset
  | some (.initial, _) | none => t.lastPos % t.storage.dataSize

/-- The track of a source that has been started. -/
theorem exec_start {t : Track} (h : t.state ≠ .playing) : t.exec (.start true) =
    { t with
      source := t.source.map fun _ ↦ (.playing, t.startOffset)
      lastPos := t.lastPos % t.storage.dataSize } := by
  simp only [exec, if_neg h, startOffset]
  rcases hsource : t.source with - | ⟨state, offset⟩
  · rfl
  · cases state with
    | playing => exact absurd (by rw [state, hsource]; rfl) h
    | initial | paused | stopped => rfl

/-- A position is reduced if it is inside the samples. -/
theorem mod_size_eq_iff {sb : SharedBuffer} (h : sb.Valid) {n : UInt32} :
    n % sb.dataSize = n ↔ n < sb.dataSize := by
  rw [← UInt32.toNat_inj, UInt32.toNat_mod, UInt32.lt_iff_toNat_lt]
  constructor
  · intro hmod
    rw [← hmod]
    exact Nat.mod_lt _ h.size_pos
  · exact Nat.mod_eq_of_lt

section NotPlaying

variable {t : Track} {state : ALState} {n : UInt32}

/-- The cursors of a track that is not playing are one. -/
theorem writeCursor_eq (h : t.state ≠ .playing) (refresh : Refresh) :
    t.writeCursor refresh = t.playCursor := by
  rw [writeCursor, writeAhead, if_neg h, UInt32.zero_add, playCursor]

/-! ### Setting the position -/

/-- A source that has been given a position starts there. -/
theorem startOffset_setPosition (hvalid : t.storage.Valid) {newPosition : UInt32}
    (hlt : rounded t.storage newPosition < t.storage.dataSize) :
    (t.exec (.setPosition newPosition)).startOffset = rounded t.storage newPosition := by
  have hmod := (mod_size_eq_iff hvalid).mpr hlt
  simp only [exec, startOffset]
  rcases hsource : t.source with - | ⟨state, offset⟩
  · exact hmod
  · cases state with
    | initial => exact hmod
    | playing | paused | stopped => rfl

/-- Its position is reported unless it has stopped at its end. -/
theorem playCursor_setPosition (hvalid : t.storage.Valid) {newPosition : UInt32}
    (hlt : rounded t.storage newPosition < t.storage.dataSize) :
    (t.exec (.setPosition newPosition)).playCursor = rounded t.storage newPosition ↔
      (t.state = .stopped → rounded t.storage newPosition = 0) := by
  have hmod := (mod_size_eq_iff hvalid).mpr hlt
  simp only [exec, playCursor, position, Track.state]
  rcases hsource : t.source with - | ⟨state, offset⟩
  · exact iff_of_true hmod (by rintro ⟨⟩)
  · cases state with
    | initial | playing | paused => exact iff_of_true hmod (by rintro ⟨⟩)
    | stopped =>
        simp only [Option.map_some, Option.elim_some, UInt32.mod_self]
        exact ⟨fun h _ ↦ h.symm, fun h ↦ (h trivial).symm⟩

/-! ### Stopping -/

/-- A source that is replaced changes the cursor if it has stopped at its end. -/
theorem playCursor_moved (hsource : t.source = some (state, n)) (hnot : state ≠ .playing)
    (hpaused : t.PausedInStep) :
    t.lastPos % t.storage.dataSize = t.playCursor ↔
      (state = .stopped → t.lastPos % t.storage.dataSize = 0) := by
  simp only [playCursor, position, hsource]
  cases state with
  | initial => exact iff_of_true rfl (by rintro ⟨⟩)
  | playing => exact absurd rfl hnot
  | paused => exact iff_of_true (hpaused n hsource) (by rintro ⟨⟩)
  | stopped =>
      rw [UInt32.mod_self]
      exact ⟨fun h _ ↦ h, fun h ↦ h rfl⟩

end NotPlaying

end Track

namespace Buffer

variable {parent : Parent} {b b' : Buffer} {sb : SharedBuffer} {dev dev' : DeviceSources}
  {hr : HResult} {want : LocStatus} {priority flags : UInt32} {started notify : Bool}

/-! ## Locations -/

/-- `Play` and `AcquireResources` with these flags find a location for the buffer, or leave it
where it is. -/
def Locates (dev : DeviceSources) (flags : UInt32) (b : Buffer) : Prop :=
  ¬ (hasFlag flags PlayFlags.locSoftware ∧ hasFlag flags PlayFlags.locHardware) ∧
    (b.Moves (wantedLocation flags) →
      ((b.leaveLocation dev).2.acquire (wantedLocation flags)).isSome)

/-- They replace the source of the buffer. -/
def Replaces (flags : UInt32) (b : Buffer) : Prop :=
  b.hasCaps Caps.locDefer ∧ b.mLocStatus ≠ .none ∧ b.Moves (wantedLocation flags)

instance (flags : UInt32) (b : Buffer) : Decidable (b.Replaces flags) :=
  inferInstanceAs (Decidable (_ = true ∧ _ ∧ _))

/-- The track without a source that is replaced. -/
def startTrack (sb : SharedBuffer) (flags : UInt32) (b : Buffer) : Track :=
  if b.Replaces flags then (b.track sb).exec .drop else b.track sb

theorem hasCaps_eq (hsb : b.mBuffer = some sb) (mask : UInt32) :
    b.hasCaps mask = hasFlag sb.mFlags mask := by
  rw [hasCaps, hsb, Option.any_some]

/-- A source that has been given up is generated again. -/
theorem track_moved (hcaps : b.hasCaps Caps.locDefer)
    (hmoves : b.Moves (wantedLocation flags)) (dev : DeviceSources) (ws : SourceWrites)
    (loc : LocStatus) :
    track { ((b.leaveLocation dev).1.genSource).writeSource ws with mLocStatus := loc } sb =
      (b.startTrack sb flags).exec .gen := by
  have hwrite : ∀ c : Buffer, track { c.writeSource ws with mLocStatus := loc } sb =
      c.track sb := by
    intro c
    unfold track Buffer.writeSource
    rw [Option.map_map]
    rfl
  have hgen : ∀ c : Buffer, c.genSource.track sb = (c.track sb).exec .gen := by
    intro c
    cases hsource : c.mSource <;> simp only [track, genSource, Track.exec, hsource] <;> rfl
  rw [hwrite, hgen, leaveLocation_eq, startTrack]
  by_cases hnone : b.mLocStatus = .none
  · rw [if_neg fun h : b.Replaces flags ↦ h.2.1 hnone]
    simp only [if_pos hnone, track]
  · rw [if_pos (show b.Replaces flags from ⟨hcaps, hnone, hmoves⟩)]
    simp only [if_neg hnone, track, Option.map_none, Track.exec]

/-- **How a buffer that is not playing is located.** -/
theorem deferredLocation_cases (hnot : isPlaying b.mSource = false)
    (hcaps : b.hasCaps Caps.locDefer)
    (hc : b.deferredLocation parent dev flags = some (hr, b', dev')) :
    (hr ≠ .ok ∧ ¬ b.Locates dev flags) ∨
    (hr = .ok ∧ b.Locates dev flags ∧ b'.mBuffer = b.mBuffer ∧
      (¬ b.Moves (wantedLocation flags) ∧ b' = b ∨
        b.Moves (wantedLocation flags) ∧
          b'.track sb = (b.startTrack sb flags).exec .gen)) := by
  unfold deferredLocation at hc
  split at hc
  · rename_i hboth
    cases hc
    exact .inl ⟨by decide, fun h ↦ h.1 hboth⟩
  rename_i hboth
  dsimp only at hc
  rw [if_neg (by simp [hnot]), ← setLocationIn_true] at hc
  obtain ⟨hstay, rfl, rfl, rfl⟩ | ⟨hmoves, hnone, rfl, -, -⟩ |
    ⟨hmoves, k, sb', hsome, rfl, rfl⟩ := setLocationIn_cases hc
  · exact .inr ⟨rfl, ⟨hboth, fun h ↦ absurd h hstay⟩, rfl, .inl ⟨hstay, rfl⟩⟩
  · refine .inl ⟨by decide, fun h ↦ ?_⟩
    have hfound := h.2 hmoves
    rw [hnone] at hfound
    cases hfound
  · refine .inr ⟨rfl, ⟨hboth, fun _ ↦ by rw [hsome]; rfl⟩, ?_, .inr ⟨hmoves, ?_⟩⟩
    · rw [leaveLocation_eq]
      rfl
    · rw [genSourceIn_true]
      exact track_moved hcaps hmoves dev _ _

/-! ## Starting -/

/-- `Play` finds a source for the buffer. -/
def Startable (dev : DeviceSources) (priority flags : UInt32) (b : Buffer) : Prop :=
  b.mBufferLost = false ∧
    if b.hasCaps Caps.locDefer then
      b.Locates dev flags ∧ (b.mSource.isSome ∨ b.Moves (wantedLocation flags))
    else priority = 0 ∧ b.mSource.isSome

/-- The track of a buffer that has been started at `offset`. -/
def startedTrack (b : Buffer) (sb : SharedBuffer) (offset : UInt32) : Track where
  storage := sb
  source := some (.playing, offset)
  lastPos := b.mLastPos % sb.dataSize

theorem state_track (b : Buffer) (sb : SharedBuffer) :
    (b.track sb).state = .playing ↔ isPlaying b.mSource = true := by
  unfold Track.state track
  cases hsource : b.mSource with
  | none => exact ⟨nofun, nofun⟩
  | some src => exact decide_eq_true_iff.symm

/-- **Starting a located buffer** that is not playing. -/
theorem start_cases (hnot : isPlaying b.mSource = false) (sb : SharedBuffer) (flags : UInt32)
    (started : Bool) :
    ((b.start sb flags started).1 ≠ .ok ∧ ¬ (started ∧ b.mSource.isSome)) ∨
    ((b.start sb flags started).1 = .ok ∧ started ∧ b.mSource.isSome ∧
      (b.start sb flags started).2.1.track sb =
        b.startedTrack sb (b.track sb).startOffset) := by
  have hstate : (b.track sb).state ≠ .playing := fun h ↦ by
    rw [(state_track b sb).mp h] at hnot
    cases hnot
  have htrack := track_start b sb flags started
  cases hsource : b.mSource with
  | none =>
      refine .inl ⟨?_, fun h ↦ by cases h.2⟩
      simp only [start, hsource]
      decide
  | some src =>
      have hsrc : src.state ≠ .playing := fun h ↦ hstate (by
        rw [Track.state, track, hsource]
        exact h)
      cases started with
      | false =>
          refine .inl ⟨?_, fun h ↦ by cases h.1⟩
          simp only [start, hsource, if_neg hsrc]
          show HResult.generic ≠ .ok
          decide
      | true =>
          refine .inr ⟨?_, rfl, rfl, ?_⟩
          · simp only [start, hsource, if_neg hsrc]
            rfl
          · rw [htrack, Track.exec_start hstate, startedTrack]
            simp only [track, hsource, Option.map_some]

/-- A source that has been generated starts where none would have been. -/
theorem startOffset_gen (t : Track) : (t.exec .gen).startOffset = t.startOffset := by
  cases hsource : t.source <;> simp only [Track.exec, Track.startOffset, hsource] <;> rfl

/-- A buffer that has been moved is not playing, and has a source. -/
theorem not_playing_moved (hnot : isPlaying b.mSource = false)
    (htrack : b'.track sb = (b.startTrack sb flags).exec .gen) :
    isPlaying b'.mSource = false ∧ b'.mSource.isSome ∧ b'.mLastPos = b.mLastPos := by
  have hmap : b'.mSource.map position =
      some ((b.startTrack sb flags).source.getD (.initial, 0)) := congrArg Track.source htrack
  refine ⟨?_, ?_, (congrArg Track.lastPos htrack).trans ?_⟩
  · refine Bool.eq_false_iff.mpr fun hplaying ↦ ?_
    have hstate := (state_track b' sb).mpr hplaying
    rw [Track.state, show (b'.track sb).source = _ from hmap, Option.elim_some,
      startTrack] at hstate
    split_ifs at hstate
    · cases hstate
    · cases hsource : b.mSource with
      | none =>
          simp only [track, hsource] at hstate
          cases hstate
      | some src =>
          simp only [track, hsource] at hstate
          rw [hsource] at hnot
          exact absurd (decide_eq_true hstate) (by simpa [isPlaying] using hnot)
  · rw [← Option.isSome_map, hmap]
    rfl
  · rw [startTrack]
    split_ifs <;> rfl

/-- **`Play`** of a buffer that is not playing starts it, unless it finds no source for it or
OpenAL does not start it. -/
theorem play_cases (hsb : b.mBuffer = some sb) (hnot : isPlaying b.mSource = false)
    (hc : b.play parent dev priority flags started = some (hr, b', dev', notify)) :
    (hr ≠ .ok ∧ ¬ (started ∧ b.Startable dev priority flags)) ∨
    (hr = .ok ∧ started ∧ b.Startable dev priority flags ∧ b'.mBuffer = b.mBuffer ∧
      b'.track sb = b.startedTrack sb (b.startTrack sb flags).startOffset) := by
  unfold play at hc
  split at hc
  · rename_i hlost
    cases hc
    exact .inl ⟨by decide, fun h ↦ by simp [h.2.1] at hlost⟩
  rename_i hlost
  have hlost : b.mBufferLost = false := Bool.eq_false_iff.mpr hlost
  obtain ⟨sb', hsb', hc⟩ := Option.bind_eq_some_iff.mp hc
  obtain rfl : sb = sb' := Option.some.inj (hsb.symm.trans hsb')
  have hcaps := hasCaps_eq hsb Caps.locDefer
  unfold Startable
  split at hc
  · rename_i hdefer
    rw [hdefer] at hcaps
    rw [if_pos hcaps]
    obtain ⟨⟨hr₁, b₁, dev₁⟩, hloc, hc⟩ := Option.bind_eq_some_iff.mp hc
    dsimp only at hc
    obtain ⟨hfail, hno⟩ | ⟨rfl, hlocates, hbuffer, hb₁⟩ := deferredLocation_cases hnot hcaps hloc
    · rw [if_pos (HResult.failed_eq_true.mpr hfail)] at hc
      cases hc
      exact .inl ⟨hfail, fun h ↦ hno h.2.2.1⟩
    rw [if_neg (by decide)] at hc
    obtain ⟨hresult, hleft⟩ := Prod.mk.inj (Option.some.inj hc)
    obtain ⟨hbuffer', -⟩ := Prod.mk.inj hleft
    rw [← hresult, ← hbuffer']
    obtain ⟨hstay, heq⟩ | ⟨hmoves, htrack⟩ := hb₁
    · rw [heq]
      obtain ⟨hr₁, hno⟩ | ⟨hr₁, hstarted, hsource, hstart⟩ :=
        start_cases hnot sb flags started
      · exact .inl ⟨hr₁, fun h ↦ hno ⟨h.1, h.2.2.2.resolve_right hstay⟩⟩
      · refine .inr ⟨hr₁, hstarted, ⟨hlost, hlocates, .inl hsource⟩, mBuffer_start _ _ _ _, ?_⟩
        rw [hstart, startTrack, if_neg fun h ↦ hstay h.2.2]
    · obtain ⟨hnot₁, hsome, hpos⟩ := not_playing_moved hnot htrack
      obtain ⟨hr₁, hno⟩ | ⟨hr₁, hstarted, -, hstart⟩ := start_cases hnot₁ sb flags started
      · exact .inl ⟨hr₁, fun h ↦ hno ⟨h.1, hsome⟩⟩
      · refine .inr ⟨hr₁, hstarted, ⟨hlost, hlocates, .inr hmoves⟩,
          (mBuffer_start _ _ _ _).trans hbuffer, ?_⟩
        rw [hstart, htrack, startOffset_gen, startedTrack, startedTrack, hpos]
  · rename_i hdefer
    rw [Bool.eq_false_iff.mpr hdefer] at hcaps
    rw [if_neg (by rw [hcaps]; decide)]
    split at hc
    · rename_i hpriority
      cases hc
      exact .inl ⟨by decide, fun h ↦ hpriority h.2.2.1⟩
    rename_i hpriority
    obtain ⟨hresult, hleft⟩ := Prod.mk.inj (Option.some.inj hc)
    obtain ⟨hbuffer', -⟩ := Prod.mk.inj hleft
    rw [← hresult, ← hbuffer']
    obtain ⟨hr₁, hno⟩ | ⟨hr₁, hstarted, hsource, hstart⟩ := start_cases hnot sb flags started
    · exact .inl ⟨hr₁, fun h ↦ hno ⟨h.1, h.2.2.2⟩⟩
    · refine .inr ⟨hr₁, hstarted, ⟨hlost, not_not.mp hpriority, hsource⟩,
        mBuffer_start _ _ _ _, ?_⟩
      refine hstart.trans ?_
      rw [startTrack, if_neg fun h : b.Replaces flags ↦ by
        rw [Replaces, hcaps] at h
        exact absurd h.1 (by decide)]

/-- A buffer with storage can be played. -/
theorem isSome_play (hsb : b.mBuffer = some sb) (parent : Parent) (dev : DeviceSources)
    (priority flags : UInt32) (started : Bool) :
    (b.play parent dev priority flags started).isSome := by
  have hset : ∀ want, (b.setLocation parent dev want).isSome := by
    intro want
    unfold setLocation
    split_ifs
    · rfl
    · rfl
    · have hleave : (b.leaveLocation dev).1.mBuffer = some sb := by rw [leaveLocation_eq, hsb]
      dsimp only
      split
      · rfl
      · rw [hleave]
        rfl
  unfold play
  split
  · rfl
  rw [hsb]
  show (if _ then _ else if _ then _ else _ : Option _).isSome
  split
  · obtain ⟨r, hr⟩ : ∃ r, b.deferredLocation parent dev flags = some r := by
      refine Option.isSome_iff_exists.mp ?_
      unfold deferredLocation
      dsimp only
      split_ifs
      · rfl
      · rfl
      · exact hset _
    rw [hr]
    show (if _ then _ else _ : Option _).isSome
    split_ifs <;> rfl
  · split_ifs <;> rfl

/-- A buffer with a location can be started where it is. -/
theorem startable_anywhere (dev : DeviceSources) (priority : UInt32)
    (hcaps : b.hasCaps Caps.locDefer) (hloc : b.mLocStatus ≠ .none) (hsource : b.mSource.isSome)
    (hlost : b.mBufferLost = false) (hwant : wantedLocation flags = .none) :
    b.Startable dev priority flags ∧ ¬ b.Replaces flags := by
  have hstay : ¬ b.Moves (wantedLocation flags) := by
    rw [hwant, Moves, if_pos rfl]
    exact hloc
  refine ⟨⟨hlost, ?_⟩, fun h ↦ hstay h.2.2⟩
  rw [if_pos hcaps]
  refine ⟨⟨fun hboth ↦ ?_, fun h ↦ absurd h hstay⟩, .inl hsource⟩
  rw [wantedLocation, if_pos hboth.2] at hwant
  cases hwant

/-- A source that is not playing. -/
theorem isPlaying_eq_false_iff {src : Source} (hsource : b.mSource = some src) :
    isPlaying b.mSource = false ↔ src.state ≠ .playing := by
  rw [hsource, isPlaying, Option.any_some, decide_eq_false_iff_not]

/-- The source in the track of a buffer. -/
theorem source_track {src : Source} (hsource : b.mSource = some src) (sb : SharedBuffer) :
    (b.track sb).source = some (src.state, src.byteOffset) := by
  rw [track, hsource]
  rfl

/-- **When a source starts at the stored position**, for a buffer that is not playing. -/
theorem startOffset_eq_iff (hvalid : sb.Valid) (hnot : isPlaying b.mSource = false)
    (hpaused : (b.track sb).PausedInStep) :
    b.mLastPos % sb.dataSize = (b.track sb).startOffset ↔ ∀ src, b.mSource = some src →
      (src.state = .paused → src.byteOffset < sb.dataSize) ∧
      (src.state = .stopped → src.byteOffset = b.mLastPos % sb.dataSize) := by
  cases hsource : b.mSource with
  | none =>
      simp only [Track.startOffset, track, hsource]
      exact iff_of_true rfl (by rintro src ⟨⟩)
  | some src =>
      simp only [Option.some.injEq, forall_eq']
      obtain ⟨attrs, looping, state, offset⟩ := src
      cases state with
      | initial =>
          simp only [Track.startOffset, track, hsource]
          exact iff_of_true rfl ⟨by rintro ⟨⟩, by rintro ⟨⟩⟩
      | playing =>
          rw [hsource] at hnot
          cases hnot
      | paused =>
          have hmod : b.mLastPos % sb.dataSize = offset % sb.dataSize :=
            hpaused offset (by rw [track, hsource]; rfl)
          simp only [Track.startOffset, track, hsource]
          show _ = offset ↔ _
          rw [hmod, Track.mod_size_eq_iff hvalid]
          exact ⟨fun h ↦ ⟨fun _ ↦ h, by rintro ⟨⟩⟩, fun h ↦ h.1 trivial⟩
      | stopped =>
          simp only [Track.startOffset, track, hsource]
          exact ⟨fun h ↦ ⟨by rintro ⟨⟩, fun _ ↦ h.symm⟩, fun h ↦ (h.2 trivial).symm⟩

/-! ## Moving -/

/-- **`AcquireResources`** that replaces the source leaves a new one. -/
theorem acquireResources_replaces {effectsCount : UInt32} {resultCodes : Bool}
    (hsb : b.mBuffer = some sb) (hnot : isPlaying b.mSource = false) (hrep : b.Replaces flags)
    (hc : b.acquireResources parent dev flags effectsCount resultCodes =
      some (.ok, b', dev')) :
    (∀ priority, b.Startable dev priority flags) ∧ b'.mBuffer = b.mBuffer ∧
      b'.track sb = { storage := sb, source := some (.initial, 0), lastPos := b.mLastPos } := by
  have hcaps := hrep.1
  unfold acquireResources at hc
  split at hc
  · cases hc
  rename_i hlost
  split at hc
  · cases hc
  obtain ⟨sb', hsb', hc⟩ := Option.bind_eq_some_iff.mp hc
  obtain rfl : sb = sb' := Option.some.inj (hsb.symm.trans hsb')
  rw [if_pos (by rw [← hasCaps_eq hsb]; exact hcaps)] at hc
  obtain ⟨hfail, -⟩ | ⟨-, hlocates, hbuffer, hb'⟩ := deferredLocation_cases hnot hcaps hc
  · exact absurd rfl hfail
  obtain ⟨hstay, -⟩ | ⟨hmoves, htrack⟩ := hb'
  · exact absurd hrep.2.2 hstay
  · refine ⟨fun priority ↦ ⟨Bool.eq_false_iff.mpr hlost, ?_⟩, hbuffer, ?_⟩
    · rw [if_pos hcaps]
      exact ⟨hlocates, .inr hmoves⟩
    · rw [htrack, startTrack, if_pos hrep]
      rfl

end Buffer

end Dsoal
