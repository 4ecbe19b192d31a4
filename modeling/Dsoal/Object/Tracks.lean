import Dsoal.Object.Each

/-!
# The tracks of the buffers of an object

Every buffer an object holds, secondary or for write emulation, has a track that events lead
to from one that has not been played (`tracked_of_reachable`).  What holds of all such tracks
therefore holds of all buffers, in every reachable state.
-/

namespace Dsoal

open TransitionSystem

/-- The track of a buffer is one that events lead to. -/
def Buffer.Tracked (A : SharedBuffer → UInt32 → Prop) (b : Buffer) : Prop :=
  ∀ sb, b.mBuffer = some sb → Reachable (Track.Step A) Track.IsNew (b.track sb)

namespace Buffer

variable {A : SharedBuffer → UInt32 → Prop} {b b' : Buffer}

theorem Plays.tracked (h : Plays A b b') (hb : b.Tracked A) : b'.Tracked A := fun sb hsb ↦
  have hsb' : b.mBuffer = some sb := h.storage.symm.trans hsb
  h.runs sb hsb' (hb sb hsb')

theorem Tracked.valid (hb : b.Tracked A) {sb : SharedBuffer} (hsb : b.mBuffer = some sb) :
    sb.Valid :=
  Track.valid_of_reachable (hb sb hsb)

theorem tracked_fresh (born : ℕ) (is8 : Bool) : (fresh born is8).Tracked A := by
  rintro sb ⟨⟩

/-- A duplicate has not been played. -/
theorem Tracked.duplicate (hb : b.Tracked A) {born : ℕ} {is8 : Bool}
    (hd : Buffer.duplicate born is8 b = some b') : b'.Tracked A := by
  obtain ⟨sb, hsb, hd⟩ := Option.bind_eq_some_iff.mp hd
  cases hd
  rintro sb' ⟨⟩
  exact .init ⟨sb, hb.valid hsb, rfl⟩

/-- A buffer that has got its storage has not been played. -/
theorem Tracked.attach (hb : b.Tracked A) (hsource : b.mSource = none) (hpos : b.mLastPos = 0)
    {exts : Extensions} {desc : Option BufferDesc} {memory : Bool}
    (ha : b.attach exts desc memory = .ok b') : b'.Tracked A := by
  obtain ⟨-, sb, hs, rfl⟩ := attach_cases ha
  have hvalid : sb.Valid := by
    obtain hbuf | ⟨-, d, format, -, -, hcreate⟩ := storage_cases hs
    · exact hb.valid hbuf
    · exact SharedBuffer.valid_of_create hcreate
  rintro sb' ⟨⟩
  refine .init ⟨sb, hvalid, ?_⟩
  unfold track
  rw [hsource, hpos]
  rfl

/-- **Every method keeps** the track of its buffer one that events lead to. -/
theorem lasts_tracked (A : SharedBuffer → UInt32 → Prop) : Lasts A (Tracked A) where
  fresh := tracked_fresh
  duplicate hb hd := hb.duplicate hd
  attach hb hsource hpos ha := hb.attach hsource hpos ha
  initLocation hb hc := (plays_initLocation hc).tracked hb
  writeRolloff _ hb := by
    unfold writeRolloff
    split_ifs
    · exact (Plays.writeSource rfl rfl rfl _).tracked hb
    · exact hb
  commit parent hb := (plays_commit parent _).tracked hb
  poll hb := (plays_poll _).tracked hb
  call _ _ _ hb hc := (plays_call hc).tracked hb
  restore parent isWriteEmu hb := (plays_restore parent isWriteEmu _).tracked hb
  acquireResources hb hc := (plays_acquireResources hc).tracked hb
  play hb hc := (plays_play hc).tracked hb
  stop {b sb src} hb hsb hsource := by
    have hpause : (DSound8OAL.stopped b sb src).mSource = some src.pause := by
      simp only [DSound8OAL.stopped, pause, hsource, Option.map_some]
    have hplays : Plays A b (DSound8OAL.stopped b sb src) :=
      plays_stop hsb hsource rfl hpause rfl
    exact hplays.tracked hb
  notifies _ hb := (Plays.of_eq rfl rfl rfl).tracked hb
  genSource hb := (plays_genSource _).tracked hb
  lose hb := (Plays.of_eq rfl rfl rfl).tracked hb
  mix ended hb hA := (plays_mix hA ended).tracked hb

end Buffer

namespace DSound8OAL

variable [Abi] {A : SharedBuffer → UInt32 → Prop} {s : DSound8OAL}

/-- **Run lemma**: every buffer is tracked, in every run in which OpenAL gives the sources
offsets in `A`. -/
theorem tracked_of_reachable
    (h : Reachable (guarded (MixesIn A) DSoundStep) DSound8OAL.IsNew s) :
    s.Each (Buffer.Tracked A) :=
  each_of_reachable (Buffer.lasts_tracked A) h

/-- OpenAL may give a source any offset. -/
abbrev anyOffset : SharedBuffer → UInt32 → Prop := fun _ _ ↦ True

/-- A property that lasts whatever offsets OpenAL gives holds of every buffer, in every run. -/
theorem each_any {P : Buffer → Prop} (hP : Buffer.Lasts anyOffset P)
    (h : Reachable DSoundStep DSound8OAL.IsNew s) : s.Each P := by
  refine each_of_reachable hP (h.mono fun s op s' hs ↦ ⟨?_, hs⟩)
  unfold MixesIn
  split
  · exact fun _ _ _ _ ↦ trivial
  · exact fun _ _ _ _ ↦ trivial
  · trivial

theorem tracked_any (h : Reachable DSoundStep DSound8OAL.IsNew s) :
    s.Each (Buffer.Tracked anyOffset) :=
  each_any (Buffer.lasts_tracked anyOffset) h

end DSound8OAL

end Dsoal
