import Dsoal.Object.Tracks
import Dsoal.Playback.Starts

/-!
# Stopping, moving and starting a buffer

Three places know where a buffer is that is not playing: the source, if it is paused or has
been given a position, the stored position `mLastPos`, and the state of the source.  The
results of this file say in which states `Play`, `SetCurrentPosition`, `Stop` and
`AcquireResources` agree about the position.
-/

namespace Dsoal

open TransitionSystem DSound8OAL

namespace DSound8OAL

/-- Where the next `Play` of a buffer starts its source, if it does. -/
def playStart (s : DSound8OAL) (p : Ptr) (priority flags : UInt32) : Option UInt32 := do
  let (hr, s) ← s.play p priority flags true
  let b ← s.getBuffer p
  if hr.succeeded then b.mSource.map Source.byteOffset else none

variable [Abi] {s s' : DSound8OAL} {p : Ptr} {b : Buffer} {sb : SharedBuffer} {hr : HResult}
  {dev : DeviceSources} {priority flags n : UInt32} {started : Bool}

/-- `Play` plays the buffer, and leaves it where it is. -/
theorem getBuffer_play (h : PoolOk s.mSecondaryBuffers) (hb : s.getBuffer p = some b)
    (hc : s.play p priority flags started = some (hr, s')) :
    ∃ dev b' dev' notify, s.mShared = some dev ∧
      b.play s.parent dev priority flags started = some (hr, b', dev', notify) ∧
      s'.getBuffer p = some b' := by
  obtain ⟨b₀, hb₀, hc⟩ := Option.bind_eq_some_iff.mp hc
  obtain rfl : b = b₀ := Option.some.inj (hb.symm.trans hb₀)
  obtain ⟨dev, hdev, hc⟩ := Option.bind_eq_some_iff.mp hc
  obtain ⟨⟨hr₁, b', dev', notify⟩, hplay, hc⟩ := Option.bind_eq_some_iff.mp hc
  cases hc
  refine ⟨dev, b', dev', notify, hdev, hplay, ?_⟩
  have hset : (s.setBuffer p b').getBuffer p = some b' := by
    rw [getBuffer_setBuffer h hb, if_pos rfl]
  split_ifs
  · unfold addNotifyBuffer
    split_ifs <;> exact hset
  · exact hset

/-- **Where a buffer starts** that is not playing. -/
theorem playStart_eq_some_iff (h : PoolOk s.mSecondaryBuffers) (hb : s.getBuffer p = some b)
    (hsb : b.mBuffer = some sb) (hdev : s.mShared = some dev)
    (hnot : isPlaying b.mSource = false) :
    s.playStart p priority flags = some n ↔
      b.Startable dev priority flags ∧ (b.startTrack sb flags).startOffset = n := by
  obtain ⟨⟨hr, b', dev', notify⟩, hplay⟩ :=
    Option.isSome_iff_exists.mp (Buffer.isSome_play hsb s.parent dev priority flags true)
  obtain ⟨s', hs'⟩ : ∃ s', s.play p priority flags true = some (hr, s') := by
    simp only [play, hb, hdev, hplay, Option.bind_eq_bind, Option.bind_some]
    exact ⟨_, rfl⟩
  obtain ⟨dev₁, b₁, dev₂, notify₁, hdev₁, hplay₁, hb'⟩ := getBuffer_play h hb hs'
  obtain rfl : dev = dev₁ := Option.some.inj (hdev.symm.trans hdev₁)
  obtain rfl : b' = b₁ := by
    have heq := hplay.symm.trans hplay₁
    simp only [Option.some.injEq, Prod.mk.injEq] at heq
    exact heq.2.1
  have hstart : s.playStart p priority flags =
      if hr.succeeded then b'.mSource.map Source.byteOffset else none := by
    simp only [playStart, hs', hb', Option.bind_eq_bind, Option.bind_some]
  rw [hstart]
  obtain ⟨hfail, hno⟩ | ⟨rfl, -, hstartable, -, htrack⟩ := Buffer.play_cases hsb hnot hplay
  · rw [if_neg (by simpa using hfail)]
    exact ⟨nofun, fun h ↦ absurd ⟨rfl, h.1⟩ hno⟩
  · have hsource : b'.mSource.map Buffer.position =
        some (.playing, (b.startTrack sb flags).startOffset) := congrArg Track.source htrack
    obtain ⟨src, hsrc, hpos⟩ := Option.map_eq_some_iff.mp hsource
    rw [if_pos (by decide), hsrc, Option.map_some, (Prod.mk.inj hpos).2]
    simp [hstartable]

/-! ## A buffer that has been stopped -/

section Stopped

variable {src : Source}

end Stopped

end DSound8OAL

/-- **Where `Play` starts and where notifications are counted from.**  In any reachable
state, if `Play` starts a buffer that was not playing, then the stored position is where the
source starts, except for a source that is not replaced and either has stopped with another
start offset, or is paused outside the samples. -/
theorem play_baseline_iff [Abi] {s s' : DSound8OAL} (h : Reachable DSoundStep IsNew s) {p : Ptr}
    {b : Buffer} (hb : s.getBuffer p = some b) (hnot : isPlaying b.mSource = false)
    {priority flags : UInt32} {started : Bool}
    (hplay : s.play p priority flags started = some (.ok, s')) :
    ∃ sb b' src, b.mBuffer = some sb ∧ s'.getBuffer p = some b' ∧ b'.mSource = some src ∧
      src.state = .playing ∧
      (b'.mLastPos = src.byteOffset ↔ b.Replaces flags ∨ ∀ old, b.mSource = some old →
        (old.state = .paused → old.byteOffset < sb.dataSize) ∧
        (old.state = .stopped → old.byteOffset = b.mLastPos % sb.dataSize)) := by
  have hok := ok_of_reachable h
  obtain ⟨sb, hsb, -⟩ := (hok.buffers p b hb).1.storage
  have htracked := (tracked_any h).secondary hb
  have hpaused := Track.pausedInStep_of_reachable (htracked sb hsb)
  obtain ⟨dev, b', dev', notify, -, hc, hb'⟩ := getBuffer_play hok.pool hb hplay
  obtain ⟨hfail, -⟩ | ⟨-, -, -, -, htrack⟩ := Buffer.play_cases hsb hnot hc
  · exact absurd rfl hfail
  have hsource : b'.mSource.map Buffer.position =
      some (.playing, (b.startTrack sb flags).startOffset) := congrArg Track.source htrack
  obtain ⟨src, hsrc, hpos⟩ := Option.map_eq_some_iff.mp hsource
  obtain ⟨hstate, hoffset⟩ := Prod.mk.inj hpos
  have hlast : b'.mLastPos = b.mLastPos % sb.dataSize := congrArg Track.lastPos htrack
  refine ⟨sb, b', src, hsb, hb', hsrc, hstate, ?_⟩
  rw [hlast, hoffset, Buffer.startTrack]
  split_ifs with hrep
  · exact ⟨fun _ ↦ .inl hrep, fun _ ↦ rfl⟩
  · rw [Buffer.startOffset_eq_iff (htracked.valid hsb) hnot hpaused]
    exact ⟨.inr, fun h ↦ h.resolve_left hrep⟩

/-- A buffer that has been given a position is started there. -/
theorem play_baseline_iff_initial :
    letI : Abi := ⟨⟨600, by decide⟩⟩
    ∃ s s' b b' src, Reachable DSoundStep IsNew s ∧ s.getBuffer ⟨4096, 0⟩ = some b ∧
      b.mLastPos = 4 ∧ s.play ⟨4096, 0⟩ 0 0 true = some (.ok, s') ∧
      s'.getBuffer ⟨4096, 0⟩ = some b' ∧ b'.mSource = some src ∧
      b'.mLastPos = src.byteOffset := by
  let _ : Abi := ⟨⟨600, by decide⟩⟩
  obtain ⟨s, hs, hp⟩ := exists_of_monoRun Caps.locHardware
    (p := fun s ↦ (s.getBuffer ⟨4096, 0⟩).any (fun b ↦ b.mLastPos = 4 ∧
        b.mSource.any fun src ↦ src.state = .initial) = true ∧
      (s.play ⟨4096, 0⟩ 0 0 true).any (fun r ↦ r.1 = .ok) = true)
    [.buffer ⟨4096, 0⟩ (.setCurrentPosition 4)] (by decide +kernel)
  obtain ⟨b, hb, hbuffer⟩ := (Option.any_eq_true _ _).mp hp.1
  obtain ⟨⟨hr, s'⟩, hplay, hok⟩ := (Option.any_eq_true _ _).mp hp.2
  obtain ⟨hlast, hsource⟩ := of_decide_eq_true hbuffer
  obtain ⟨old, hold, hstate⟩ := (Option.any_eq_true _ _).mp hsource
  have hstate : old.state = .initial := of_decide_eq_true hstate
  obtain rfl : hr = .ok := of_decide_eq_true hok
  have hnot : isPlaying b.mSource = false := by
    rw [Buffer.isPlaying_eq_false_iff hold, hstate]
    decide
  obtain ⟨sb, b', src, -, hb', hsrc, -, hiff⟩ := play_baseline_iff hs hb hnot hplay
  refine ⟨s, s', b, b', src, hs, hb, hlast, hplay, hb', hsrc, hiff.mpr (.inr ?_)⟩
  intro old' hold'
  obtain rfl : old = old' := Option.some.inj (hold.symm.trans hold')
  rw [hstate]
  exact ⟨nofun, nofun⟩

/-- A buffer that was started in the middle and has played to its end starts at 0, while its
notifications are counted from the middle. -/
theorem play_baseline_stopped :
    letI : Abi := ⟨⟨600, by decide⟩⟩
    ∃ s s' b b' src, Reachable DSoundStep IsNew s ∧ s.getBuffer ⟨4096, 0⟩ = some b ∧
      isPlaying b.mSource = false ∧ s.play ⟨4096, 0⟩ 0 0 true = some (.ok, s') ∧
      s'.getBuffer ⟨4096, 0⟩ = some b' ∧ b'.mSource = some src ∧ src.state = .playing ∧
      src.byteOffset = 0 ∧ b'.mLastPos = 4 := by
  let _ : Abi := ⟨⟨600, by decide⟩⟩
  obtain ⟨s, hs, hp⟩ := exists_of_monoRun Caps.locHardware
    (p := fun s ↦ (s.getBuffer ⟨4096, 0⟩).any (fun b ↦ !isPlaying b.mSource) = true ∧
      (s.play ⟨4096, 0⟩ 0 0 true).any (fun r ↦ r.1 = .ok ∧
        (r.2.getBuffer ⟨4096, 0⟩).any fun b' ↦ b'.mLastPos = 4 ∧ b'.mSource.any fun src ↦
          src.state = .playing ∧ src.byteOffset = 0) = true)
    [.buffer ⟨4096, 0⟩ (.setCurrentPosition 4), .play ⟨4096, 0⟩ 0 0 true,
      .mix (some ⟨4096, 0⟩) 0 true] (by decide +kernel)
  obtain ⟨b, hb, hnot⟩ := (Option.any_eq_true _ _).mp hp.1
  obtain ⟨⟨hr, s'⟩, hplay, hafter⟩ := (Option.any_eq_true _ _).mp hp.2
  obtain ⟨rfl, hafter⟩ := of_decide_eq_true hafter
  obtain ⟨b', hb', hafter⟩ := (Option.any_eq_true _ _).mp hafter
  obtain ⟨hlast, hafter⟩ := of_decide_eq_true hafter
  obtain ⟨src, hsrc, hafter⟩ := (Option.any_eq_true _ _).mp hafter
  obtain ⟨hstate, hoffset⟩ := of_decide_eq_true hafter
  exact ⟨s, s', b, b', src, hs, hb, by simpa using hnot, hplay, hb', hsrc, hstate, hoffset,
    hlast⟩

/-- **The position of a buffer that is not playing.**  After a successful
`SetCurrentPosition` of a buffer that is not playing, in any reachable state, both cursors
and the next start are at the given position, rounded down to a whole number of frames,
except for a buffer that has stopped at its end, unless that position is 0. -/
theorem setCurrentPosition_iff [Abi] {s s' : DSound8OAL} (h : Reachable DSoundStep IsNew s)
    {p : Ptr} {b : Buffer} (hb : s.getBuffer p = some b) (hnot : isPlaying b.mSource = false)
    {newPosition : UInt32}
    (hset : s.bufferCall p (.setCurrentPosition newPosition) = some (.ok, s')) :
    ∃ sb b' position, b.mBuffer = some sb ∧ s'.getBuffer p = some b' ∧
      newPosition < sb.dataSize ∧
      position.toNat = newPosition.toNat - newPosition.toNat % sb.frameSize ∧
      (((∀ refresh, b'.getCurrentPosition refresh = some (position, position)) ∧
        ∀ priority flags n, s'.playStart p priority flags = some n → n = position) ↔
      ∀ src, b.mSource = some src → src.state = .stopped → position = 0) := by
  have h' : Reachable DSoundStep IsNew s' :=
    h.step (i := .buffer p (.setCurrentPosition newPosition)) ⟨trivial, .ok, hset⟩
  have hok := ok_of_reachable h
  have hok' := ok_of_reachable h'
  obtain ⟨b₀, hb₀, hc⟩ := Option.bind_eq_some_iff.mp hset
  obtain rfl : b = b₀ := Option.some.inj (hb.symm.trans hb₀)
  obtain ⟨⟨hr, b'⟩, hcall, hs'⟩ := Option.bind_eq_some_iff.mp hc
  cases hs'
  have hb' : (s.setBuffer p b').getBuffer p = some b' := by
    rw [getBuffer_setBuffer hok.pool hb, if_pos rfl]
  obtain ⟨sb, hsb, ⟨hfail, -⟩ | ⟨-, hlt, hbuffer, htrack⟩⟩ := Buffer.setCurrentPosition_cases hcall
  · cases hfail
  have hsb' : b'.mBuffer = some sb := hbuffer.trans hsb
  have hvalid : sb.Valid := ((tracked_any h).secondary hb).valid hsb
  have hround : Track.rounded sb newPosition < sb.dataSize := by
    rw [UInt32.lt_iff_toNat_lt, Track.toNat_rounded]
    exact lt_of_le_of_lt (Nat.sub_le _ _) (UInt32.lt_iff_toNat_lt.mp hlt)
  have hstate : (b'.track sb).state = (b.track sb).state := by
    rw [htrack]
    cases hsource : b.mSource <;> simp only [Track.exec, Track.state, Buffer.track, hsource] <;> rfl
  have hnot' : isPlaying b'.mSource = false := by
    refine Bool.eq_false_iff.mpr fun hplaying ↦ ?_
    rw [← Buffer.state_track b' sb, hstate, Buffer.state_track, hnot] at hplaying
    cases hplaying
  have hcursor : (b'.track sb).playCursor = Track.rounded sb newPosition ↔
      ((b.track sb).state = .stopped → Track.rounded sb newPosition = 0) := by
    rw [htrack]
    exact Track.playCursor_setPosition hvalid hround
  refine ⟨sb, b', Track.rounded sb newPosition, hsb, hb', hlt, Track.toNat_rounded sb _, ?_⟩
  constructor
  · rintro ⟨hcursors, -⟩ src hsource hstopped
    have hget := hcursors .default
    rw [Buffer.getCurrentPosition_eq hsb' hvalid] at hget
    refine hcursor.mp (Prod.mk.inj (Option.some.inj hget)).1 ?_
    rw [Track.state, Buffer.track, hsource]
    exact hstopped
  · intro hcond
    have hplay : (b'.track sb).playCursor = Track.rounded sb newPosition := by
      refine hcursor.mpr fun hstopped ↦ ?_
      cases hsource : b.mSource with
      | none =>
          rw [Track.state, Buffer.track, hsource] at hstopped
          cases hstopped
      | some src =>
          rw [Track.state, Buffer.track, hsource] at hstopped
          exact hcond src hsource hstopped
    refine ⟨fun refresh ↦ ?_, fun priority flags n hn ↦ ?_⟩
    · rw [Buffer.getCurrentPosition_eq hsb' hvalid, Track.writeCursor_eq ?_, hplay]
      rw [Ne, Buffer.state_track, hnot']
      decide
    · obtain ⟨dev, hdev⟩ := Option.isSome_iff_exists.mp (hok'.shared p b' hb')
      obtain ⟨-, rfl⟩ := (playStart_eq_some_iff hok'.pool hb' hsb' hdev hnot').mp hn
      rw [Buffer.startTrack, htrack]
      split_ifs
      · exact (Track.mod_size_eq_iff hvalid).mpr hround
      · exact Track.startOffset_setPosition hvalid hround

/-- A new buffer reports the position it has been given, up to a whole frame. -/
theorem setCurrentPosition_iff_initial :
    letI : Abi := ⟨⟨600, by decide⟩⟩
    ∃ s s' b', Reachable DSoundStep IsNew s ∧
      s.bufferCall ⟨4096, 0⟩ (.setCurrentPosition 5) = some (.ok, s') ∧
      s'.getBuffer ⟨4096, 0⟩ = some b' ∧
      ∃ position, position.toNat ≤ 5 ∧
        b'.getCurrentPosition .default = some (position, position) := by
  let _ : Abi := ⟨⟨600, by decide⟩⟩
  obtain ⟨s, hs, hp⟩ := exists_of_monoRun Caps.locHardware
    (p := fun s ↦ (s.getBuffer ⟨4096, 0⟩).any (fun b ↦ b.mSource.any fun src ↦
        src.state = .initial) = true ∧
      (s.bufferCall ⟨4096, 0⟩ (.setCurrentPosition 5)).any (fun r ↦ r.1 = .ok) = true)
    [] (by decide +kernel)
  obtain ⟨b, hb, hsource⟩ := (Option.any_eq_true _ _).mp hp.1
  obtain ⟨⟨hr, s'⟩, hset, hok⟩ := (Option.any_eq_true _ _).mp hp.2
  obtain ⟨src, hsrc, hstate⟩ := (Option.any_eq_true _ _).mp hsource
  have hstate : src.state = .initial := of_decide_eq_true hstate
  obtain rfl : hr = .ok := of_decide_eq_true hok
  have hnot : isPlaying b.mSource = false := by
    rw [Buffer.isPlaying_eq_false_iff hsrc, hstate]
    decide
  obtain ⟨sb, b', position, -, hb', -, hround, hiff⟩ := setCurrentPosition_iff hs hb hnot hset
  obtain ⟨hcursors, -⟩ := hiff.mpr fun src' hsrc' hstopped ↦ by
    obtain rfl : src = src' := Option.some.inj (hsrc.symm.trans hsrc')
    rw [hstate] at hstopped
    cases hstopped
  refine ⟨s, s', b', hs, hset, hb', position, ?_, hcursors .default⟩
  rw [hround]
  exact Nat.sub_le _ _

/-- A buffer that has played to its end is set to its third sample, and reports 0. -/
theorem setCurrentPosition_stopped :
    letI : Abi := ⟨⟨600, by decide⟩⟩
    ∃ s s' b b', Reachable DSoundStep IsNew s ∧ s.getBuffer ⟨4096, 0⟩ = some b ∧
      isPlaying b.mSource = false ∧
      s.bufferCall ⟨4096, 0⟩ (.setCurrentPosition 4) = some (.ok, s') ∧
      s'.getBuffer ⟨4096, 0⟩ = some b' ∧ b'.mLastPos = 4 ∧
      b'.getCurrentPosition .default = some (0, 0) := by
  let _ : Abi := ⟨⟨600, by decide⟩⟩
  obtain ⟨s, hs, hp⟩ := exists_of_monoRun Caps.locHardware
    (p := fun s ↦ (s.getBuffer ⟨4096, 0⟩).any (fun b ↦ !isPlaying b.mSource) = true ∧
      (s.bufferCall ⟨4096, 0⟩ (.setCurrentPosition 4)).any (fun r ↦ r.1 = .ok ∧
        (r.2.getBuffer ⟨4096, 0⟩).any fun b' ↦ b'.mLastPos = 4 ∧
          b'.getCurrentPosition .default = some (0, 0)) = true)
    [.play ⟨4096, 0⟩ 0 0 true, .mix (some ⟨4096, 0⟩) 0 true] (by decide +kernel)
  obtain ⟨b, hb, hnot⟩ := (Option.any_eq_true _ _).mp hp.1
  obtain ⟨⟨hr, s'⟩, hset, hafter⟩ := (Option.any_eq_true _ _).mp hp.2
  obtain ⟨rfl, hafter⟩ := of_decide_eq_true hafter
  obtain ⟨b', hb', hafter⟩ := (Option.any_eq_true _ _).mp hafter
  obtain ⟨hlast, hget⟩ := of_decide_eq_true hafter
  exact ⟨s, s', b, b', hs, hb, by simpa using hnot, hset, hb', hlast, hget⟩

/-- **Moving a buffer that is not playing.**  If `AcquireResources` replaces the source of a
buffer with `DSBCAPS_LOCDEFER` that is not playing, in any reachable state, then `Play` with
the same flags starts a source as well.  The play cursor stays where it is, and `Play` starts
where it would start without a location flag, if and only if the source has not stopped at
its end, or both the stored position and its start offset are 0. -/
theorem acquireResources_iff [Abi] {s s' : DSound8OAL} (h : Reachable DSoundStep IsNew s)
    {p : Ptr} {b : Buffer} (hb : s.getBuffer p = some b) (hnot : isPlaying b.mSource = false)
    {flags effectsCount : UInt32} {resultCodes : Bool} (hrep : b.Replaces flags)
    (hacquire : s.acquireResources p flags effectsCount resultCodes = some (.ok, s')) :
    ∃ sb b', b.mBuffer = some sb ∧ s'.getBuffer p = some b' ∧
      (∀ priority, (s.playStart p priority flags).isSome) ∧
      (((∀ refresh, (b'.getCurrentPosition refresh).map Prod.fst =
          (b.getCurrentPosition refresh).map Prod.fst) ∧
        ∀ priority flags', Buffer.wantedLocation flags' = .none →
          s.playStart p priority flags = s.playStart p priority flags') ↔
      ∀ src, b.mSource = some src →
        (src.state = .paused → src.byteOffset < sb.dataSize) ∧
        (src.state = .stopped → b.mLastPos % sb.dataSize = 0 ∧ src.byteOffset = 0)) := by
  have hok := ok_of_reachable h
  obtain ⟨b₀, hb₀, hc⟩ := Option.bind_eq_some_iff.mp hacquire
  obtain rfl : b = b₀ := Option.some.inj (hb.symm.trans hb₀)
  obtain ⟨dev, hdev, hc⟩ := Option.bind_eq_some_iff.mp hc
  obtain ⟨⟨hr, b', dev'⟩, hcall, hs'⟩ := Option.bind_eq_some_iff.mp hc
  cases hs'
  have hb' : (s.setBuffer p b').getBuffer p = some b' := by
    rw [getBuffer_setBuffer hok.pool hb, if_pos rfl]
  obtain ⟨sb, hsb, -⟩ := (hok.buffers p b hb).1.storage
  obtain ⟨src, hsource⟩ :=
    Option.isSome_iff_exists.mp ((hok.buffers p b hb).1.located hrep.2.1)
  obtain ⟨hstartable, hbuffer, htrack⟩ := Buffer.acquireResources_replaces hsb hnot hrep hcall
  have htracked := (tracked_any h).secondary hb
  have hvalid : sb.Valid := htracked.valid hsb
  have hpaused := Track.pausedInStep_of_reachable (htracked sb hsb)
  have hstate : src.state ≠ .playing := (Buffer.isPlaying_eq_false_iff hsource).mp hnot
  have hts := Buffer.source_track hsource sb
  have hmoved : ∀ priority, s.playStart p priority flags = some (b.mLastPos % sb.dataSize) :=
    fun priority ↦ (playStart_eq_some_iff hok.pool hb hsb hdev hnot).mpr
      ⟨hstartable priority, by rw [Buffer.startTrack, if_pos hrep]; rfl⟩
  have hstayed : ∀ priority flags', Buffer.wantedLocation flags' = .none →
      s.playStart p priority flags' = some (b.track sb).startOffset := by
    intro priority flags' hwant
    obtain ⟨hstart, hstays⟩ := Buffer.startable_anywhere dev priority hrep.1 hrep.2.1
      (by rw [hsource]; rfl) (hstartable 0).1 hwant
    refine (playStart_eq_some_iff hok.pool hb hsb hdev hnot).mpr ⟨hstart, ?_⟩
    rw [Buffer.startTrack, if_neg hstays]
  have hcursor : (∀ refresh, (b'.getCurrentPosition refresh).map Prod.fst =
      (b.getCurrentPosition refresh).map Prod.fst) ↔
      (src.state = .stopped → b.mLastPos % sb.dataSize = 0) := by
    have hmoves := Track.playCursor_moved hts hstate hpaused
    simp only [Buffer.getCurrentPosition_eq hsb hvalid, htrack,
      Buffer.getCurrentPosition_eq (hbuffer.trans hsb) hvalid, Option.map_some]
    exact ⟨fun heq ↦ hmoves.mp (Option.some.inj (heq .default)),
      fun hcase _ ↦ congrArg some (hmoves.mpr hcase)⟩
  have hstart : (∀ priority flags', Buffer.wantedLocation flags' = .none →
      s.playStart p priority flags = s.playStart p priority flags') ↔
      b.mLastPos % sb.dataSize = (b.track sb).startOffset := by
    constructor
    · intro hall
      have heq := hall 0 0 (by decide)
      rw [hmoved, hstayed 0 0 (by decide)] at heq
      exact Option.some.inj heq
    · intro heq priority flags' hwant
      rw [hmoved, hstayed priority flags' hwant, heq]
  refine ⟨sb, b', hsb, hb', fun priority ↦ by rw [hmoved]; rfl, ?_⟩
  rw [hcursor, hstart, Buffer.startOffset_eq_iff hvalid hnot hpaused, hsource]
  simp only [Option.some.injEq, forall_eq']
  constructor
  · rintro ⟨hlast, hinside, hoffset⟩
    exact ⟨hinside, fun hcase ↦ ⟨hlast hcase, (hoffset hcase).trans (hlast hcase)⟩⟩
  · rintro ⟨hinside, hends⟩
    exact ⟨fun hcase ↦ (hends hcase).1, hinside,
      fun hcase ↦ (hends hcase).2.trans (hends hcase).1.symm⟩

/-- A paused buffer is moved. -/
theorem acquireResources_iff_paused :
    letI : Abi := ⟨⟨600, by decide⟩⟩
    ∃ s s' b b', Reachable DSoundStep IsNew s ∧ s.getBuffer ⟨4096, 0⟩ = some b ∧
      b.mLastPos = 4 ∧
      s.acquireResources ⟨4096, 0⟩ PlayFlags.locSoftware 0 false = some (.ok, s') ∧
      s'.getBuffer ⟨4096, 0⟩ = some b' ∧
      (b'.getCurrentPosition .default).map Prod.fst =
        (b.getCurrentPosition .default).map Prod.fst ∧
      s.playStart ⟨4096, 0⟩ 0 PlayFlags.locSoftware = s.playStart ⟨4096, 0⟩ 0 0 := by
  let _ : Abi := ⟨⟨600, by decide⟩⟩
  obtain ⟨s, hs, hp⟩ := exists_of_monoRun Caps.locDefer
    (p := fun s ↦ (s.getBuffer ⟨4096, 0⟩).any (fun b ↦ b.mLastPos = 4 ∧
        b.Replaces PlayFlags.locSoftware ∧ (b.mBuffer.any fun sb ↦ sb.dataSize = 8) ∧
        b.mSource.any fun src ↦ src.state = .paused ∧ src.byteOffset = 4) = true ∧
      (s.acquireResources ⟨4096, 0⟩ PlayFlags.locSoftware 0 false).any (fun r ↦ r.1 = .ok) = true)
    [.play ⟨4096, 0⟩ 0 PlayFlags.locHardware true,
      .buffer ⟨4096, 0⟩ (.setCurrentPosition 4), .stop ⟨4096, 0⟩] (by decide +kernel)
  obtain ⟨b, hb, hbuffer⟩ := (Option.any_eq_true _ _).mp hp.1
  obtain ⟨hlast, hrep, hsize, hsource⟩ := of_decide_eq_true hbuffer
  obtain ⟨⟨hr, s'⟩, hacquire, hok⟩ := (Option.any_eq_true _ _).mp hp.2
  obtain ⟨src, hsrc, hpaused⟩ := (Option.any_eq_true _ _).mp hsource
  obtain ⟨hstate, hoffset⟩ := of_decide_eq_true hpaused
  obtain rfl : hr = .ok := of_decide_eq_true hok
  have hnot : isPlaying b.mSource = false := by
    rw [Buffer.isPlaying_eq_false_iff hsrc, hstate]
    decide
  obtain ⟨sb, b', hsb, hb', -, hiff⟩ := acquireResources_iff hs hb hnot hrep hacquire
  rw [hsb, Option.any_some] at hsize
  have hsize : sb.dataSize = 8 := of_decide_eq_true hsize
  obtain ⟨hcursors, hstarts⟩ := hiff.mpr fun src' hsrc' ↦ by
    obtain rfl : src = src' := Option.some.inj (hsrc.symm.trans hsrc')
    rw [hstate, hoffset, hsize]
    exact ⟨fun _ ↦ by decide, nofun⟩
  exact ⟨s, s', b, b', hs, hb, hlast, hacquire, hb', hcursors .default,
    hstarts 0 0 (by decide)⟩

/-- A buffer that was started in the middle and has played to its end goes back there when it
is moved. -/
theorem acquireResources_stopped :
    letI : Abi := ⟨⟨600, by decide⟩⟩
    ∃ s s' b b', Reachable DSoundStep IsNew s ∧ s.getBuffer ⟨4096, 0⟩ = some b ∧
      isPlaying b.mSource = false ∧ b.Replaces PlayFlags.locSoftware ∧
      s.acquireResources ⟨4096, 0⟩ PlayFlags.locSoftware 0 false = some (.ok, s') ∧
      s'.getBuffer ⟨4096, 0⟩ = some b' ∧
      b.getCurrentPosition .default = some (0, 0) ∧
      b'.getCurrentPosition .default = some (4, 4) ∧
      s.playStart ⟨4096, 0⟩ 0 PlayFlags.locSoftware = some 4 ∧
      s.playStart ⟨4096, 0⟩ 0 0 = some 0 := by
  let _ : Abi := ⟨⟨600, by decide⟩⟩
  obtain ⟨s, hs, hp⟩ := exists_of_monoRun Caps.locDefer
    (p := fun s ↦ (s.getBuffer ⟨4096, 0⟩).any (fun b ↦ !isPlaying b.mSource ∧
        b.Replaces PlayFlags.locSoftware ∧ b.getCurrentPosition .default = some (0, 0)) = true ∧
      s.playStart ⟨4096, 0⟩ 0 PlayFlags.locSoftware = some 4 ∧
      s.playStart ⟨4096, 0⟩ 0 0 = some 0 ∧
      (s.acquireResources ⟨4096, 0⟩ PlayFlags.locSoftware 0 false).any (fun r ↦ r.1 = .ok ∧
        (r.2.getBuffer ⟨4096, 0⟩).any fun b' ↦
          b'.getCurrentPosition .default = some (4, 4)) = true)
    [.play ⟨4096, 0⟩ 0 PlayFlags.locHardware true,
      .buffer ⟨4096, 0⟩ (.setCurrentPosition 4), .mix (some ⟨4096, 0⟩) 0 true]
    (by decide +kernel)
  obtain ⟨b, hb, hbefore⟩ := (Option.any_eq_true _ _).mp hp.1
  obtain ⟨hnot, hrep, hget⟩ := of_decide_eq_true hbefore
  obtain ⟨hmoved, hstayed, hafter⟩ := hp.2
  obtain ⟨⟨hr, s'⟩, hacquire, hafter⟩ := (Option.any_eq_true _ _).mp hafter
  obtain ⟨rfl, hafter⟩ := of_decide_eq_true hafter
  obtain ⟨b', hb', hget'⟩ := (Option.any_eq_true _ _).mp hafter
  exact ⟨s, s', b, b', hs, hb, by simpa using hnot, hrep, hacquire, hb', hget,
    of_decide_eq_true hget', hmoved, hstayed⟩

end Dsoal
