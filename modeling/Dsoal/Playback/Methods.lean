import Dsoal.Params.Methods
import Dsoal.Playback.Track

/-!
# What the methods of a buffer do to its track

For every method of a buffer: the track of the buffer it leaves is reached by events from
the one before (`Buffer.Plays`).  Most methods leave the track alone.
-/

namespace Dsoal

open TransitionSystem

namespace Buffer

variable {A : SharedBuffer → UInt32 → Prop} {parent : Parent} {b b' b'' : Buffer}
  {sb : SharedBuffer} {dev dev' : DeviceSources} {hr : HResult} {want : LocStatus}

/-- What a track has of a source. -/
abbrev position (src : Source) : ALState × UInt32 := (src.state, src.byteOffset)

/-- The track of a buffer with the storage `sb`. -/
def track (b : Buffer) (sb : SharedBuffer) : Track where
  storage := sb
  source := b.mSource.map position
  lastPos := b.mLastPos

/-- A method takes a buffer from `b` to `b'` by a sequence of events. -/
structure Plays (A : SharedBuffer → UInt32 → Prop) (b b' : Buffer) : Prop where
  storage : b'.mBuffer = b.mBuffer
  runs : ∀ sb, b.mBuffer = some sb → ∀ {init : Track → Prop},
    Reachable (Track.Step A) init (b.track sb) → Reachable (Track.Step A) init (b'.track sb)

namespace Plays

theorem refl (b : Buffer) : Plays A b b := ⟨rfl, fun _ _ _ h ↦ h⟩

theorem trans (h : Plays A b b') (h' : Plays A b' b'') : Plays A b b'' where
  storage := h'.storage.trans h.storage
  runs sb hsb _ hr := h'.runs sb (h.storage.trans hsb) (h.runs sb hsb hr)

/-- A change that leaves the track alone. -/
theorem of_eq (hbuffer : b'.mBuffer = b.mBuffer)
    (hsource : b'.mSource.map position = b.mSource.map position)
    (hpos : b'.mLastPos = b.mLastPos) : Plays A b b' where
  storage := hbuffer
  runs sb _ _ hr := by
    have htrack : b'.track sb = b.track sb := by
      unfold track
      rw [hsource, hpos]
    rwa [htrack]

/-- A change that is an event. -/
theorem of_exec (e : TrackEvent) (hbuffer : b'.mBuffer = b.mBuffer)
    (hexec : ∀ sb, b.mBuffer = some sb →
      (b.track sb).Allows A e ∧ b'.track sb = (b.track sb).exec e) : Plays A b b' where
  storage := hbuffer
  runs sb hsb _ hr := hr.step (hexec sb hsb)

/-- Setting attributes of the source, after a change of what is not in the track. -/
theorem writeSource {b₁ : Buffer} (hbuffer : b₁.mBuffer = b.mBuffer)
    (hsource : b₁.mSource = b.mSource) (hpos : b₁.mLastPos = b.mLastPos) (ws : SourceWrites) :
    Plays A b (b₁.writeSource ws) := by
  refine .of_eq hbuffer ?_ hpos
  simp only [Buffer.writeSource, hsource, Option.map_map, Function.comp_def]

end Plays

/-! ## Locations -/

theorem plays_genSource (b : Buffer) : Plays A b b.genSource := by
  refine .of_exec .gen rfl fun sb _ ↦ ⟨trivial, ?_⟩
  cases hsource : b.mSource <;> simp only [track, genSource, Track.exec, hsource] <;> rfl

/-- Giving up a location is deleting the source. -/
theorem plays_leaveLocation (b : Buffer) (dev : DeviceSources) :
    Plays A b (b.leaveLocation dev).1 := by
  unfold leaveLocation
  split
  · exact .refl b
  · exact .of_exec .drop rfl fun sb _ ↦ ⟨trivial, rfl⟩

theorem plays_setLocation (hc : b.setLocation parent dev want = some (hr, b', dev')) :
    Plays A b b' := by
  have hleave := plays_leaveLocation (A := A) b dev
  obtain ⟨-, rfl, -⟩ | ⟨-, rfl, -⟩ | ⟨k, sb, -, -, -, rfl⟩ := setLocation_cases hc
  · exact .refl _
  · exact hleave
  · have hgen := hleave.trans (plays_genSource _)
    exact (hgen.trans (.writeSource rfl rfl rfl _)).trans (.of_eq rfl rfl rfl)

theorem plays_deferredLocation {flags : UInt32}
    (hc : b.deferredLocation parent dev flags = some (hr, b', dev')) : Plays A b b' := by
  obtain rfl | ⟨hset, -⟩ := deferredLocation_asks hc
  · exact .refl b'
  · exact plays_setLocation hset

theorem plays_initLocation (hc : b.initLocation parent dev = some (hr, b', dev')) :
    Plays A b b' := by
  obtain ⟨sb, -, hc⟩ := Option.bind_eq_some_iff.mp hc
  dsimp only at hc
  split_ifs at hc
  · cases hc
    exact .of_eq rfl rfl rfl
  · obtain ⟨⟨hr₁, b₁, dev₁⟩, hset, hc⟩ := Option.bind_eq_some_iff.mp hc
    cases hc
    exact (plays_setLocation hset).trans (.of_eq rfl rfl rfl)

theorem plays_acquireResources {flags effectsCount : UInt32} {resultCodes : Bool}
    (hc : b.acquireResources parent dev flags effectsCount resultCodes = some (hr, b', dev')) :
    Plays A b b' := by
  obtain rfl | hloc := acquireResources_asks hc
  · exact .refl b'
  · exact plays_deferredLocation hloc

/-! ## Playing -/

/-- **Starting a located buffer.** -/
theorem track_start (b : Buffer) (sb : SharedBuffer) (flags : UInt32) (started : Bool) :
    (b.start sb flags started).2.1.track sb = (b.track sb).exec (.start started) := by
  unfold start
  cases hsource : b.mSource with
  | none =>
      simp only [track, hsource, Track.exec]
      rfl
  | some src =>
      obtain ⟨attrs, looping, state, offset⟩ := src
      cases state <;> cases started <;> simp only [track, hsource, Track.exec] <;> rfl

theorem mBuffer_start (b : Buffer) (sb : SharedBuffer) (flags : UInt32) (started : Bool) :
    (b.start sb flags started).2.1.mBuffer = b.mBuffer := by
  unfold start
  split
  · rfl
  · dsimp only
    split_ifs <;> rfl

theorem plays_start (hsb : b.mBuffer = some sb) (flags : UInt32) (started : Bool) :
    Plays A b (b.start sb flags started).2.1 := by
  refine .of_exec (.start started) (mBuffer_start b sb flags started) fun sb' hsb' ↦ ?_
  obtain rfl : sb = sb' := Option.some.inj (hsb.symm.trans hsb')
  exact ⟨trivial, track_start b sb flags started⟩

theorem plays_play {priority flags : UInt32} {started notify : Bool}
    (hc : b.play parent dev priority flags started = some (hr, b', dev', notify)) :
    Plays A b b' := by
  obtain ⟨rfl, -⟩ | ⟨sb, b₁, hsb, -, hb₁, hb'⟩ := play_asks hc
  · exact .refl b'
  have hplays : Plays A b b₁ := by
    obtain rfl | ⟨hr₁, hloc⟩ := hb₁
    · exact .refl b₁
    · exact plays_deferredLocation hloc
  obtain ⟨rfl, -⟩ | hstart := hb'
  · exact hplays
  · have hstarted := plays_start (A := A) (hplays.storage.trans hsb) flags started
    rw [hstart] at hstarted
    exact hplays.trans hstarted

/-- **`Stop`**, once the source has been paused and polled. -/
theorem track_stop {src : Source} (hsource : b.mSource = some src)
    (hsource' : b'.mSource = some src.pause) (hpos : b'.mLastPos = stopPos sb src.pause) :
    b'.track sb = (b.track sb).exec .stop := by
  unfold track
  rw [hsource', hpos, hsource]
  obtain ⟨attrs, looping, state, offset⟩ := src
  cases state <;> rfl

theorem plays_stop {src : Source} (hsb : b.mBuffer = some sb) (hsource : b.mSource = some src)
    (hbuffer : b'.mBuffer = b.mBuffer) (hsource' : b'.mSource = some src.pause)
    (hpos : b'.mLastPos = stopPos sb src.pause) : Plays A b b' := by
  refine .of_exec .stop hbuffer fun sb' hsb' ↦ ⟨trivial, ?_⟩
  obtain rfl : sb = sb' := Option.some.inj (hsb.symm.trans hsb')
  exact track_stop hsource hsource' hpos

/-- What a poll leaves of a buffer. -/
def poll (b : Buffer) : Buffer :=
  { b with mLastPos := b.mBuffer.elim b.mLastPos fun sb ↦ (b.track sb).polled }

theorem poll_poll (b : Buffer) : b.poll.poll = b.poll := by
  unfold poll
  cases b.mBuffer <;> rfl

theorem pollOffset_eq (b : Buffer) (sb : SharedBuffer) :
    pollOffset sb.dataSize.toNat (b.mSource.elim .initial Source.state)
      (b.mSource.elim 0 Source.ioffset) = (b.track sb).polled := by
  rw [pollOffset, UInt32.ofNat_toNat]
  cases hsource : b.mSource with
  | none =>
      simp only [track, hsource]
      rfl
  | some src =>
      obtain ⟨attrs, looping, state, offset⟩ := src
      cases state <;> simp only [track, hsource] <;> rfl

theorem eq_poll_of_updateNotify {hit : List (PositionNotify EventHandle)} {again : Bool}
    (hc : b.updateNotify = some (hit, b', again)) : b' = b.poll := by
  obtain ⟨sb, hsb, hc⟩ := Option.bind_eq_some_iff.mp hc
  unfold poll
  rw [hsb, Option.elim_some, ← pollOffset_eq]
  unfold Dsoal.updateNotify at hc
  dsimp only at hc
  split_ifs at hc <;> cases hc <;> rw [hsb]

theorem plays_poll (b : Buffer) : Plays A b b.poll := by
  refine .of_exec .poll rfl fun sb hsb ↦ ⟨trivial, ?_⟩
  unfold poll track
  rw [hsb]
  rfl

/-- **`SetCurrentPosition`.** -/
theorem setCurrentPosition_cases {newPosition : UInt32}
    (hc : b.setCurrentPosition newPosition = some (hr, b')) : ∃ sb, b.mBuffer = some sb ∧
      (hr = .invalidParam ∧ b' = b ∨ hr = .ok ∧ newPosition < sb.dataSize ∧
        b'.mBuffer = b.mBuffer ∧ b'.track sb = (b.track sb).exec (.setPosition newPosition)) := by
  obtain ⟨sb, hsb, hc⟩ := Option.bind_eq_some_iff.mp hc
  refine ⟨sb, hsb, ?_⟩
  split_ifs at hc with hlarge
  · cases hc
    exact .inl ⟨rfl, rfl⟩
  · cases hc
    refine .inr ⟨rfl, UInt32.not_le.mp hlarge, rfl, ?_⟩
    cases hsource : b.mSource <;> simp only [track, hsource] <;> rfl

theorem plays_setCurrentPosition {newPosition : UInt32}
    (hc : b.setCurrentPosition newPosition = some (hr, b')) : Plays A b b' := by
  obtain ⟨sb, hsb, ⟨-, rfl⟩ | ⟨-, hlt, hbuffer, htrack⟩⟩ := setCurrentPosition_cases hc
  · exact .refl _
  · refine .of_exec (.setPosition newPosition) hbuffer fun sb' hsb' ↦ ?_
    obtain rfl : sb = sb' := Option.some.inj (hsb.symm.trans hsb')
    exact ⟨hlt, htrack⟩

theorem plays_mix {offset : UInt32} (hA : ∀ sb, b.mBuffer = some sb → A sb offset)
    (ended : Bool) : Plays A b (b.mix offset ended) := by
  refine .of_exec (.mix offset ended) rfl fun sb hsb ↦ ⟨hA sb hsb, ?_⟩
  cases hsource : b.mSource with
  | none => simp only [track, mix, hsource, Track.exec, Option.map_none]
  | some src =>
      obtain ⟨attrs, looping, state, offset⟩ := src
      cases state <;> cases ended <;> simp only [track, mix, hsource] <;> rfl

/-! ## The other methods -/

theorem plays_setVolume {volume : Int32} (hc : b.setVolume volume = some (hr, b')) :
    Plays A b b' := by
  obtain ⟨-, rfl⟩ | ⟨sb, -, -, rfl⟩ := setVolume_cases hc
  · exact .refl _
  · refine .writeSource ?_ ?_ ?_ _ <;> rfl

theorem plays_setPan {pan : Int32} (hc : b.setPan parent pan = some (hr, b')) : Plays A b b' := by
  obtain ⟨-, rfl⟩ | ⟨sb, -, -, ⟨-, -, rfl⟩ | ⟨-, rfl⟩⟩ := setPan_cases hc
  · exact .refl _
  · refine .writeSource ?_ ?_ ?_ _ <;> rfl
  · exact .of_eq rfl rfl rfl

theorem plays_setFrequency {frequency : UInt32} (hc : b.setFrequency frequency = some (hr, b')) :
    Plays A b b' := by
  obtain ⟨-, rfl⟩ | ⟨sb, -, -, rfl⟩ := setFrequency_cases hc
  · exact .refl _
  · refine .writeSource ?_ ?_ ?_ _ <;> rfl

theorem plays_setParams (parent : Parent) (params : DS3DBuffer) (flags : BufferFlags)
    (b : Buffer) : Plays A b (b.setParams parent params flags) := by
  refine .writeSource ?_ ?_ ?_ _ <;> rfl

theorem plays_commit (parent : Parent) (b : Buffer) : Plays A b (b.commit parent) := by
  rw [commit_eq]
  have hclean : Plays A b { b with mDirty := .none } := .of_eq rfl rfl rfl
  exact hclean.trans (plays_setParams _ _ _ _)

theorem plays_call3D (parent : Parent) (c : Buffer3DCall) (apply : UInt32) (b : Buffer) :
    Plays A b (b.call3D parent c apply).2 := by
  have hperforms := performs_call3D parent c apply b
  unfold Performs at hperforms
  split at hperforms
  · rw [hperforms]
    exact .refl b
  · obtain ⟨n, hn⟩ := hperforms
    rw [hn]
    dsimp only
    split_ifs
    · exact .of_eq rfl rfl rfl
    · exact plays_setParams _ _ _ _

theorem plays_restore (parent : Parent) (isWriteEmu : Bool) (b : Buffer) :
    Plays A b (b.restore parent isWriteEmu).2 := by
  unfold restore
  split_ifs
  · exact .refl b
  · exact .of_eq rfl rfl rfl

/-- **Every call on a buffer alone.** -/
theorem plays_call {c : BufferCall} (hc : b.call parent c = some (hr, b')) : Plays A b b' := by
  cases c with
  | setVolume volume => exact plays_setVolume hc
  | setPan pan => exact plays_setPan hc
  | setFrequency frequency => exact plays_setFrequency hc
  | setCurrentPosition newPosition => exact plays_setCurrentPosition hc
  | restore =>
      have hplays := plays_restore (A := A) parent false b
      rwa [show b.restore parent false = (hr, b') from Option.some.inj hc] at hplays
  | call3D c apply =>
      simp only [call, Option.ite_none_right_eq_some, Option.some.injEq] at hc
      have hplays := plays_call3D (A := A) parent c apply b
      rwa [hc.2] at hplays

end Buffer

end Dsoal
