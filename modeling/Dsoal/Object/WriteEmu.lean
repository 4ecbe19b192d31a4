import Dsoal.Core.WriteEmu
import Dsoal.Object.PrimaryFrame

/-!
# The write-emulation buffer mirrors the primary buffer

`Play`, `Stop` and `SetPan` keep the write-emulation buffer and the primary buffer in
step.  `createWriteEmu` does not: the new buffer has not been started and is in the
centre, whatever `mPlaying` and `mPan` are.  In the runs in which no write-emulation
buffer is created while they have other values, the two agree (`write_emu_mirrors`).
Whether the buffer has been started is a note of the calls of its `Play` and `Stop`, and
what these have done to its source bears the note out (`Buffer.Sounds`).
-/

namespace Dsoal

open TransitionSystem DSound8OAL

/-! ## Creating and destroying it -/

namespace Buffer

variable {exts : Extensions} {parent : Parent} {b b' : Buffer} {dev dev' : DeviceSources}
  {want : LocStatus} {hr : HResult}

theorem start_emuKey (b : Buffer) (sb : SharedBuffer) (flags : UInt32) (started : Bool) :
    (b.start sb flags started).2.1.emuKey = b.emuKey := by
  unfold start
  cases b.mSource with
  | none => rfl
  | some src =>
      dsimp only
      split_ifs <;> rfl

theorem play_emuKey {priority flags : UInt32} {started notify : Bool}
    (hc : b.play parent dev priority flags started = some (hr, b', dev', notify)) :
    b'.emuKey = b.emuKey := by
  obtain ⟨rfl, -⟩ | ⟨sb, b₁, -, -, hb₁, hb'⟩ := play_asks hc
  · rfl
  have h₁ : b₁.emuKey = b.emuKey := by
    obtain rfl | ⟨hr₁, hloc⟩ := hb₁
    · rfl
    · obtain ⟨src, loc, rfl⟩ := deferredLocation_eq hloc
      rfl
  obtain ⟨rfl, -⟩ | hstart := hb'
  · exact h₁
  · have hkey := start_emuKey b₁ sb flags started
    rw [hstart] at hkey
    exact hkey.trans h₁

theorem setCurrentPosition_emuKey {position : UInt32}
    (hc : b.setCurrentPosition position = some (hr, b')) : b'.emuKey = b.emuKey := by
  obtain ⟨sb, -, hc⟩ := Option.bind_eq_some_iff.mp hc
  split at hc
  · cases hc
    rfl
  · cases hc
    rfl

/-- A buffer without a source does not play when it has been located. -/
theorem setLocation_not_playing (hnone : b.mSource = none)
    (hc : b.setLocation parent dev want = some (hr, b', dev')) : isPlaying b'.mSource = false := by
  have hleave : (b.leaveLocation dev).1.mSource = none := by
    unfold leaveLocation
    cases b.mLocStatus with
    | none => exact hnone
    | loc k => rfl
  obtain ⟨-, rfl, -⟩ | ⟨-, rfl, -⟩ | ⟨k, sb, -, -, -, rfl⟩ := setLocation_cases hc
  · rw [hnone]
    rfl
  · rw [hleave]
    rfl
  · show isPlaying ((b.leaveLocation dev).1.genSource.writeSource _).mSource = false
    rw [isPlaying_writeSource, genSource, hleave]
    rfl

theorem initLocation_not_playing (hnone : b.mSource = none)
    (hc : b.initLocation parent dev = some (hr, b', dev')) : isPlaying b'.mSource = false := by
  obtain ⟨sb, -, hc⟩ := Option.bind_eq_some_iff.mp hc
  dsimp only at hc
  split at hc
  · cases hc
    show isPlaying b.mSource = false
    rw [hnone]
    rfl
  · obtain ⟨⟨hr₁, b₁, dev₁⟩, hset, hc⟩ := Option.bind_eq_some_iff.mp hc
    have hnot := setLocation_not_playing hnone hset
    cases hc
    exact hnot

/-- `Play` of a buffer that is not located then starts it, or does nothing. -/
theorem NotDeferred.play (h : b.NotDeferred) {priority flags : UInt32} {started notify : Bool}
    (hc : b.play parent dev priority flags started = some (hr, b', dev', notify)) :
    hr ≠ .ok ∧ b' = b ∨ ∃ sb, b.start sb flags started = (hr, b', notify) := by
  unfold Buffer.play at hc
  split at hc
  · cases hc
    exact .inl ⟨nofun, rfl⟩
  obtain ⟨sb, hsb, hc⟩ := Option.bind_eq_some_iff.mp hc
  rw [if_neg (by rw [h sb hsb]; decide)] at hc
  split at hc
  · cases hc
    exact .inl ⟨nofun, rfl⟩
  · cases hc
    exact .inr ⟨sb, rfl⟩

namespace Sounds

variable {started : Bool}

/-- A change that leaves the state of the source alone. -/
theorem congr (h : b.Sounds started) (hbuffer : b'.mBuffer = b.mBuffer)
    (hstate : b'.mSource.map Source.state = b.mSource.map Source.state) : b'.Sounds started where
  located sb hsb := h.located sb (hbuffer ▸ hsb)
  of_playing hplays := by
    refine h.of_playing ?_
    obtain ⟨src', hsrc', hplays⟩ := (Option.any_eq_true _ _).mp hplays
    rw [hsrc', Option.map_some] at hstate
    obtain ⟨src, hsrc, heq⟩ := Option.map_eq_some_iff.mp hstate.symm
    rw [isPlaying, hsrc, Option.any_some, heq]
    exact hplays
  source hstarted := by
    obtain ⟨src, hsrc, hplays⟩ := h.source hstarted
    rw [hsrc, Option.map_some] at hstate
    obtain ⟨src', hsrc', heq⟩ := Option.map_eq_some_iff.mp hstate
    exact ⟨src', hsrc', heq ▸ hplays⟩

/-- A source that does not play has not been started, or has been stopped. -/
theorem of_not_playing (hlocated : b.NotDeferred) (hnot : isPlaying b.mSource = false) :
    b.Sounds false :=
  ⟨hlocated, fun hplays ↦ absurd (hnot.symm.trans hplays) nofun, nofun⟩

/-- A source that plays has been started. -/
theorem of_state {src : Source} (hlocated : b.NotDeferred) (hsrc : b.mSource = some src)
    (hstate : src.state = .playing) : b.Sounds true :=
  ⟨hlocated, fun _ ↦ rfl, fun _ ↦ ⟨src, hsrc, .inl hstate⟩⟩

/-- **`Play`** leaves the source playing if it succeeds, and else as it is. -/
theorem play {priority flags : UInt32} {starts notify : Bool} (h : b.Sounds started)
    (hc : b.play parent dev priority flags starts = some (hr, b', dev', notify)) :
    b'.Sounds (if hr.succeeded then true else started) := by
  obtain ⟨hfail, rfl⟩ | ⟨sb, hstart⟩ := h.located.play hc
  · rwa [if_neg (by simpa using hfail)]
  unfold start at hstart
  cases hsrc : b.mSource with
  | none =>
      rw [hsrc] at hstart
      cases hstart
      exact h.congr rfl (by rw [hsrc])
  | some src =>
      rw [hsrc] at hstart
      dsimp only at hstart
      split at hstart
      · rename_i hplays
        cases hstart
        exact .of_state h.located rfl hplays
      split at hstart
      · cases hstart
        exact .of_state h.located rfl rfl
      · cases hstart
        refine h.congr rfl ?_
        rw [hsrc]
        dsimp only
        split_ifs <;> rfl

/-- **`Stop`** leaves the source not playing, and so does `SetCurrentPosition` after it. -/
theorem stop {sb : SharedBuffer} {stopped : Buffer} {position : UInt32} (h : b.Sounds started)
    (hstopped : stopped = match b.mSource with
      | none => b
      | some src => { b.pause with mLastPos := stopPos sb src.pause })
    (hc : stopped.setCurrentPosition position = some (hr, b')) : b'.Sounds false := by
  have hstop : stopped.Sounds false := by
    rw [hstopped]
    cases hsrc : b.mSource with
    | none => exact .of_not_playing h.located (by rw [hsrc]; rfl)
    | some src => exact .of_not_playing h.located b.isPlaying_pause
  obtain ⟨sb', -, hc⟩ := Option.bind_eq_some_iff.mp hc
  split at hc
  · cases hc
    exact hstop
  · cases hc
    refine hstop.congr rfl ?_
    rw [Option.map_map]
    rfl

theorem restore {isWriteEmu : Bool} (h : b.Sounds started) :
    (b.restore parent isWriteEmu).2.Sounds started := by
  unfold Buffer.restore
  split_ifs
  · exact h
  · exact h.congr rfl rfl

/-- **`SetPan`** leaves the state of the source alone. -/
theorem setPan {pan : Int32} (h : b.Sounds started)
    (hc : b.setPan parent pan = some (hr, b')) : b'.Sounds started := by
  obtain ⟨-, rfl⟩ | ⟨sb, -, -, ⟨-, -, rfl⟩ | ⟨-, rfl⟩⟩ := setPan_cases hc
  · exact h
  · refine h.congr rfl ?_
    rw [writeSource, Option.map_map]
    rfl
  · exact h.congr rfl rfl

end Sounds

/-- `SetPan` of a buffer takes the pan if and only if it succeeds. -/
theorem setPan_mPan {pan : Int32} (hc : setPan parent b pan = some (hr, b')) :
    b'.born = b.born ∧ b'.mPan = if hr.succeeded then pan else b.mPan := by
  obtain ⟨hne, rfl⟩ | ⟨sb, -, rfl, ⟨-, -, rfl⟩ | ⟨-, rfl⟩⟩ := setPan_cases hc
  · exact ⟨rfl, by rw [if_neg (by simpa using hne)]⟩
  · exact ⟨rfl, rfl⟩
  · exact ⟨rfl, rfl⟩

end Buffer

namespace DSound8OAL

variable {s s' : DSound8OAL} {hr : HResult} {mem : Memory} {flags : UInt32}

theorem destroyWriteEmu_eq (hc : s.destroyWriteEmu = some s') :
    s'.mPrimaryBuffer = { s.mPrimaryBuffer with mWriteEmu := none } ∧
      s'.mPrioLevel = s.mPrioLevel ∧ s'.nextBorn = s.nextBorn := by
  obtain ⟨hnone, rfl⟩ | ⟨emu, shared, -, -, rfl⟩ := destroyWriteEmu_cases hc
  · exact ⟨by rw [← hnone], rfl, rfl⟩
  · exact ⟨rfl, rfl, rfl⟩

/-- A description for the write-emulation buffer asks for a hardware source. -/
theorem hasFlag_emuDesc_locHardware (primary : PrimaryBuffer) (flags : UInt32) :
    hasFlag (primary.emuDesc flags).dwFlags Caps.locHardware := by
  have h : (Caps.locHardware ||| flags &&& Caps.ctrlPan) &&& Caps.locHardware =
      Caps.locHardware := by
    rw [← UInt32.toNat_inj]
    simp only [UInt32.toNat_and, UInt32.toNat_or]
    rw [Nat.and_or_distrib_right, Nat.and_assoc]
    simp [Caps.ctrlPan, Caps.locHardware]
  simp only [hasFlag, PrimaryBuffer.emuDesc, h]
  decide

/-- The write-emulation buffer is initialized if the device has a hardware source for it. -/
theorem initLocation_emuDesc {born : ℕ} {exts : Extensions} {primary : PrimaryBuffer}
    {samples : Bool} {parent : Parent} {emu emu' : Buffer} {dev dev' : DeviceSources}
    (ha : (Buffer.fresh born false).attach exts (some (primary.emuDesc flags)) samples = .ok emu)
    (hinit : emu.initLocation parent dev = some (hr, emu', dev')) :
    hr = .ok ↔ (dev.acquire .hardware).isSome := by
  obtain ⟨sb, hsb, hflags⟩ := Buffer.attach_flags ha
  have hdefer : hasFlag sb.mFlags Caps.locDefer = false :=
    hflags ▸ hasFlag_emuDesc _ _ (by decide) (by decide)
  have hloc : Buffer.describedLocation sb.mFlags = .hardware := by
    rw [hflags, Buffer.describedLocation, if_pos (hasFlag_emuDesc_locHardware _ _)]
  obtain ⟨sb₁, frequency, rfl⟩ := Buffer.attach_eq ha
  have hcases := initLocation_cases hsb rfl hinit
  rw [hdefer, hloc] at hcases
  obtain ⟨hok, hslot⟩ | ⟨hfail, hnot, -⟩ := hcases
  · exact iff_of_true hok (hslot.resolve_left Bool.false_ne_true)
  · exact iff_of_false hfail fun hslot ↦ hnot (.inr hslot)

/-- **`createWriteEmu`**, when there is no write-emulation buffer: a call that succeeds
makes one in the centre, and no other call makes one. -/
theorem createWriteEmu_spec (hnone : s.mPrimaryBuffer.mWriteEmu = none)
    (hc : s.createWriteEmu flags mem = some (hr, s')) :
    (s'.mPrimaryBuffer = { s.mPrimaryBuffer with mWriteEmu := s'.mPrimaryBuffer.mWriteEmu } ∧
      s'.mPrioLevel = s.mPrioLevel ∧ s.nextBorn ≤ s'.nextBorn) ∧
    ((EmuCall.Succeeds ⟨s, flags, mem⟩ ∧ hr = .ok ∧ ∃ emu,
        s'.mPrimaryBuffer.mWriteEmu = some emu ∧ emu.emuKey = (s.nextBorn, 0) ∧
        s.nextBorn < s'.nextBorn ∧ emu.Sounds false) ∨
      (¬ EmuCall.Succeeds ⟨s, flags, mem⟩ ∧ hr ≠ .ok ∧ s'.mPrimaryBuffer.mWriteEmu = none)) := by
  obtain ⟨hmem, hfail, rfl⟩ | ⟨hmem, ⟨ha, rfl⟩ | ⟨emu, dev, emu', dev', ha, hdev, hinit, hs'⟩⟩ :=
    createWriteEmu_cases hc
  · refine ⟨⟨rfl, rfl, le_rfl⟩, .inr ⟨fun h ↦ ?_, hfail, hnone⟩⟩
    have hemu : mem.emu = true := h.1
    rw [hmem] at hemu
    cases hemu
  · refine ⟨⟨rfl, rfl, Nat.le_succ _⟩,
      .inr ⟨fun ⟨_, emu, dev, hatt, _⟩ ↦ ?_, Buffer.attach_error ha, hnone⟩⟩
    rw [show _ = _ from ha] at hatt
    cases hatt
  have hslot := initLocation_emuDesc ha hinit
  have hsucc : EmuCall.Succeeds ⟨s, flags, mem⟩ ↔ hr = .ok := by
    constructor
    · rintro ⟨-, emu, dev₁, -, hdev₁, hacq⟩
      obtain rfl : dev = dev₁ := Option.some.inj (hdev.symm.trans hdev₁)
      exact hslot.mpr hacq
    · intro hok
      exact ⟨hmem, emu, dev, ha, hdev, hslot.mp hok⟩
  obtain ⟨sb, hsb, hflags⟩ := Buffer.attach_flags ha
  obtain ⟨sb₁, frequency, rfl⟩ := Buffer.attach_eq ha
  have hnot := Buffer.initLocation_not_playing rfl hinit
  obtain ⟨-, src, loc, rfl⟩ := Buffer.initLocation_eq hinit
  obtain ⟨hne, shared, -, rfl⟩ | ⟨hok, s₁, hs₁, rfl⟩ := hs'
  · exact ⟨⟨rfl, rfl, Nat.le_succ _⟩, .inr ⟨fun h ↦ hne (hsucc.mp h), hne, hnone⟩⟩
  · obtain ⟨hprimary, hlevel, hborn⟩ := destroyWriteEmu_eq hs₁
    refine ⟨⟨by simp [hprimary], hlevel, hborn.ge.trans' (Nat.le_succ _)⟩,
      .inl ⟨hsucc.mpr hok, hok, _, rfl, rfl, ?_, .of_not_playing (fun sb' hsb' ↦ ?_) hnot⟩⟩
    · rw [hborn]
      exact Nat.lt_succ_self _
    · obtain rfl : sb = sb' := Option.some.inj (hsb.symm.trans hsb')
      rw [hflags]
      exact hasFlag_emuDesc _ _ (by decide) (by decide)

/-! ## What a step does to it -/

/-- A step after which the primary buffer has the same write-emulation buffer, with the same
pan, and agrees with it as before. -/
structure EmuFrame (s s' : DSound8OAL) : Prop where
  emu : s'.mPrimaryBuffer.mWriteEmu.map Buffer.emuKey =
    s.mPrimaryBuffer.mWriteEmu.map Buffer.emuKey
  playing : s'.mPrimaryBuffer.mPlaying = s.mPrimaryBuffer.mPlaying
  pan : s'.mPrimaryBuffer.mPan = s.mPrimaryBuffer.mPan
  flags : s'.mPrimaryBuffer.mFlags = s.mPrimaryBuffer.mFlags ∨ s'.mPrimaryBuffer.mFlags = 0
  level : s'.mPrioLevel = s.mPrioLevel
  born : s.nextBorn ≤ s'.nextBorn
  sounds : ∀ started, s.EmuSounds started → s'.EmuSounds started

theorem PrimaryFrame.emuFrame (h : s.PrimaryFrame s') : s.EmuFrame s' :=
  ⟨h.emu, h.playing, h.pan, .inl h.flags, h.level, h.born, h.sounds⟩

theorem EmuFrame.refl (s : DSound8OAL) : s.EmuFrame s := (PrimaryFrame.refl s).emuFrame

theorem EmuFrame.trans {s'' : DSound8OAL} (h : s.EmuFrame s') (h' : s'.EmuFrame s'') :
    s.EmuFrame s'' where
  emu := h'.emu.trans h.emu
  playing := h'.playing.trans h.playing
  pan := h'.pan.trans h.pan
  flags := by
    rcases h'.flags with hf' | hf'
    · rw [hf']
      exact h.flags
    · exact .inr hf'
  level := h'.level.trans h.level
  born := h.born.trans h'.born
  sounds started hs := h'.sounds started (h.sounds started hs)

/-- A write-emulation buffer has been constructed before, and exists only at the level
`DSSCL_WRITEPRIMARY`. -/
def EmuPlaced (s : DSound8OAL) : Prop :=
  ∀ emu, s.mPrimaryBuffer.mWriteEmu = some emu →
    emu.born < s.nextBorn ∧ s.mPrioLevel = Level.writePrimary

/-- What a method does that makes the call `call` of `createWriteEmu`, if any. -/
inductive EmuEffect (s : DSound8OAL) (call : Option EmuCall) (s' : DSound8OAL) : Prop
  /-- The write-emulation buffer, or that there is none, stays. -/
  | kept (hcall : ∀ c ∈ call, ¬ c.Succeeds) (h : s.EmuFrame s')
  /-- There is none afterwards. -/
  | gone (hcall : ∀ c ∈ call, ¬ c.Succeeds) (h : s'.mPrimaryBuffer.mWriteEmu = none)
  /-- It is created, and `mPlaying` and `mPan` stay. -/
  | created (c : EmuCall) (emu : Buffer) (hcall : call = some c) (hs : c.Succeeds)
      (h : s'.mPrimaryBuffer.mWriteEmu = some emu) (hsounds : emu.Sounds false)
      (hpan : emu.mPan = 0)
      (hborn : s.nextBorn ≤ emu.born) (hlt : emu.born < s'.nextBorn)
      (hlevel : s'.mPrioLevel = Level.writePrimary)
      (playing : s'.mPrimaryBuffer.mPlaying = s.mPrimaryBuffer.mPlaying)
      (pan : s'.mPrimaryBuffer.mPan = s.mPrimaryBuffer.mPan)
      (flags : hasFlag s'.mPrimaryBuffer.mFlags Caps.ctrlPan = hasFlag c.flags Caps.ctrlPan)

namespace EmuEffect

variable {call : Option EmuCall} {s₀ s₁ : DSound8OAL} {hr₁ : HResult}

/-- A method that changes the primary buffer in something else before. -/
theorem after (h : s₀.EmuEffect call s') (hf : s.EmuFrame s₀) : s.EmuEffect call s' := by
  cases h with
  | kept hcall h => exact .kept hcall (hf.trans h)
  | gone hcall h => exact .gone hcall h
  | created c emu hcall hs h hsounds hpan hborn hlt hlevel playing pan flags =>
      exact .created c emu hcall hs h hsounds hpan (hf.born.trans hborn) hlt hlevel
        (playing.trans hf.playing) (pan.trans hf.pan) flags

/-- A method that does not call `createWriteEmu`. -/
theorem of_frame (h : s.EmuFrame s') : s.EmuEffect none s' := .kept (by simp) h

/-- A method that calls `createWriteEmu`, and may then set the flags and the level. -/
theorem of_create (hcall : call = some ⟨s₀, flags, mem⟩)
    (hnone : s₀.mPrimaryBuffer.mWriteEmu = none) (hc : s₀.createWriteEmu flags mem = some (hr₁, s₁))
    (hborn : s.nextBorn ≤ s₀.nextBorn)
    (hplaying : s₀.mPrimaryBuffer.mPlaying = s.mPrimaryBuffer.mPlaying)
    (hpan : s₀.mPrimaryBuffer.mPan = s.mPrimaryBuffer.mPan)
    (hframe : s'.mPrimaryBuffer.mWriteEmu = s₁.mPrimaryBuffer.mWriteEmu ∧
      s'.mPrimaryBuffer.mPlaying = s₁.mPrimaryBuffer.mPlaying ∧
      s'.mPrimaryBuffer.mPan = s₁.mPrimaryBuffer.mPan ∧ s'.nextBorn = s₁.nextBorn)
    (hset : hr₁ = .ok → s'.mPrioLevel = Level.writePrimary ∧
      hasFlag s'.mPrimaryBuffer.mFlags Caps.ctrlPan = hasFlag flags Caps.ctrlPan) :
    s.EmuEffect call s' := by
  obtain ⟨hemu', hplaying', hpan', hborn'⟩ := hframe
  obtain ⟨⟨hprimary, -, -⟩, ⟨hs, hok, emu, hemu, hkey, hlt, hsounds⟩ |
    ⟨hs, -, hemu⟩⟩ := createWriteEmu_spec hnone hc
  · obtain ⟨hlevel, hflags⟩ := hset hok
    have hb : emu.born = s₀.nextBorn := congrArg Prod.fst hkey
    refine .created _ emu hcall hs (hemu'.trans hemu) hsounds
      (congrArg Prod.snd hkey) ?_ ?_ hlevel ?_ ?_
      hflags
    · rw [hb]
      exact hborn
    · rw [hb, hborn']
      exact hlt
    · rw [hplaying', hprimary]
      exact hplaying
    · rw [hpan', hprimary]
      exact hpan
  · refine .gone (fun c hc ↦ ?_) (hemu'.trans hemu)
    obtain rfl : ⟨s₀, flags, mem⟩ = c := Option.some.inj (hcall.symm.trans hc)
    exact hs

end EmuEffect

/-- The flags `Initialize` stores have the pan control the description asks for. -/
theorem hasFlag_stored (flags : UInt32) :
    hasFlag ((flags &&& ~~~Caps.locSoftware) ||| Caps.locHardware) Caps.ctrlPan =
      hasFlag flags Caps.ctrlPan := by
  have h : ((flags &&& ~~~Caps.locSoftware) ||| Caps.locHardware) &&& Caps.ctrlPan =
      flags &&& Caps.ctrlPan := by
    have hdistrib (a b c : UInt32) : (a ||| b) &&& c = (a &&& c) ||| (b &&& c) :=
      UInt32.toBitVec_inj.mp BitVec.and_or_distrib_right
    rw [hdistrib, UInt32.and_assoc,
      show ~~~Caps.locSoftware &&& Caps.ctrlPan = Caps.ctrlPan by decide,
      show Caps.locHardware &&& Caps.ctrlPan = 0 by decide, UInt32.or_zero]
  rw [hasFlag, hasFlag, h]

/-- `Initialize` calls `createWriteEmu` if it accepts the description at the level
`DSSCL_WRITEPRIMARY`. -/
theorem initializeCall_of_accepts {d : BufferDesc} (h : s.AcceptsPrimary d)
    (hlevel : s.mPrioLevel = Level.writePrimary) : s.initializeCall (some d) mem =
      s.destroyWriteEmu.map fun s ↦ ⟨s, d.dwFlags, mem⟩ := by
  unfold initializeCall
  simp only [Option.bind_eq_bind, Option.bind_some]
  rw [if_neg h.1, if_neg h.2.1, if_neg (not_not.mpr h.2.2), if_pos hlevel]

theorem initializeCall_eq_none {desc : Option BufferDesc}
    (h : ∀ d, desc = some d → s.AcceptsPrimary d → s.mPrioLevel ≠ Level.writePrimary) :
    s.initializeCall desc mem = none := by
  unfold initializeCall
  cases desc with
  | none => rfl
  | some d =>
      simp only [Option.bind_eq_bind, Option.bind_some]
      split_ifs with hformat hbad hflags hlevel
      · rfl
      · rfl
      · rfl
      · exact absurd hlevel (h d rfl ⟨hformat, hbad, not_not.mp hflags⟩)
      · rfl

/-- **`Initialize`** of the primary buffer. -/
theorem primaryInitialize_effect {desc : Option BufferDesc} (h : s.EmuPlaced)
    (hc : s.primaryInitialize desc mem = some (hr, s')) :
    s.EmuEffect (s.initializeCall desc mem) s' ∧
      (hr ≠ .ok → ∀ c ∈ s.initializeCall desc mem, ¬ c.Succeeds) := by
  obtain ⟨-, rfl, hno⟩ | ⟨d, hr₁, s₁, rfl, hacc, ⟨hw, s₀, hdestroy, hcreate⟩ | ⟨hw, rfl, rfl⟩,
    hs'⟩ := primaryInitialize_cases hc
  · rw [initializeCall_eq_none fun d hd hacc ↦ absurd hacc (hno d hd)]
    exact ⟨.of_frame (.refl _), by simp⟩
  · obtain ⟨hprimary, hlevel, hborn⟩ := destroyWriteEmu_eq hdestroy
    have hnone : s₀.mPrimaryBuffer.mWriteEmu = none := by rw [hprimary]
    rw [initializeCall_of_accepts hacc hw, hdestroy, Option.map_some]
    obtain ⟨hne, rfl, rfl⟩ | ⟨hok, -, hset⟩ := hs'
    · obtain ⟨-, ⟨-, hok, -⟩ | ⟨hs, -, hemu⟩⟩ := createWriteEmu_spec hnone hcreate
      · exact absurd hok hne
      · have hno : ∀ c ∈ some (⟨s₀, d.dwFlags, mem⟩ : EmuCall), ¬ c.Succeeds := by
          rintro c ⟨⟩
          exact hs
        exact ⟨.gone hno hemu, fun _ ↦ hno⟩
    · obtain ⟨gs, rfl⟩ := eq_of_setListenerParams hset
      have hlevel' : s₁.mPrioLevel = s₀.mPrioLevel :=
        (createWriteEmu_spec hnone hcreate).1.2.1
      refine ⟨.of_create rfl hnone hcreate hborn.ge (by rw [hprimary]) (by rw [hprimary])
        ⟨rfl, rfl, rfl, rfl⟩ fun _ ↦ ⟨?_, hasFlag_stored d.dwFlags⟩, fun hne ↦ absurd hok hne⟩
      show s₁.mPrioLevel = _
      rw [hlevel', hlevel, hw]
  · rw [initializeCall_eq_none fun _ _ _ ↦ hw]
    have hnone : s₁.mPrimaryBuffer.mWriteEmu = none :=
      Option.eq_none_iff_forall_ne_some.mpr fun emu hemu ↦ hw (h emu hemu).2
    obtain ⟨hne, rfl, -⟩ | ⟨-, -, hset⟩ := hs'
    · exact absurd rfl hne
    · obtain ⟨gs, rfl⟩ := eq_of_setListenerParams hset
      exact ⟨.gone (by simp) hnone, by simp⟩

/-- A new reference to the primary buffer may make it uninitialized. -/
theorem EmuFrame.addRef (s : DSound8OAL) :
    s.EmuFrame { s with mPrimaryBuffer := s.mPrimaryBuffer.addRef.2 } where
  emu := rfl
  playing := rfl
  pan := rfl
  flags := by
    by_cases h0 : s.mPrimaryBuffer.mTotalRef = 0
    · exact .inr (if_pos h0)
    · exact .inl (if_neg h0)
  level := rfl
  born := le_rfl
  sounds _ hs := hs

theorem EmuFrame.release (s : DSound8OAL) :
    s.EmuFrame { s with mPrimaryBuffer := s.mPrimaryBuffer.release } := by
  unfold PrimaryBuffer.release
  split_ifs <;> exact ⟨rfl, rfl, rfl, .inl rfl, rfl, le_rfl, fun _ hs ↦ hs⟩

/-- The call in `CreateSoundBuffer` of the primary buffer. -/
theorem createCall_of_accepts {bufferDesc : Option BufferDesc} {dsBuffer outer : Bool}
    {desc : BufferDesc} (h : s.Accepts bufferDesc dsBuffer outer desc)
    (hprimary : hasFlag desc.dwFlags Caps.primaryBuffer) :
    s.createCall bufferDesc dsBuffer outer mem =
      if s.mPrimaryBuffer.addRef.1 = 1 ∧ s.mPrimaryBuffer.addRef.2.mFlags = 0 then
        initializeCall { s with mPrimaryBuffer := s.mPrimaryBuffer.addRef.2 } (some desc) mem
      else none := by
  obtain ⟨rfl, rfl, rfl, hsize, hshared⟩ := h
  unfold createCall
  simp only [Option.bind_eq_bind, Option.bind_some]
  rw [if_neg (by simp [hsize, hshared]), if_pos hprimary]

theorem createCall_eq_none {bufferDesc : Option BufferDesc} {dsBuffer outer : Bool}
    (h : ∀ desc, s.Accepts bufferDesc dsBuffer outer desc →
      ¬ hasFlag desc.dwFlags Caps.primaryBuffer) :
    s.createCall bufferDesc dsBuffer outer mem = none := by
  unfold createCall
  cases bufferDesc with
  | none => rfl
  | some desc =>
      simp only [Option.bind_eq_bind, Option.bind_some]
      split_ifs with hreject hprimary
      · rfl
      · simp only [not_or] at hreject
        refine absurd hprimary (h desc ⟨rfl, ?_, ?_, hreject.2.2.1, ?_⟩)
        · simpa using hreject.1
        · simpa using hreject.2.1
        · exact Bool.eq_false_iff.mpr hreject.2.2.2
      · rfl
      · rfl

/-- **`CreateSoundBuffer`** of the primary buffer. -/
theorem createPrimary_effect {desc : BufferDesc} (h : s.EmuPlaced)
    (hc : s.createPrimary desc mem = some (hr, s')) :
    s.EmuEffect (if s.mPrimaryBuffer.addRef.1 = 1 ∧ s.mPrimaryBuffer.addRef.2.mFlags = 0 then
      initializeCall { s with mPrimaryBuffer := s.mPrimaryBuffer.addRef.2 } (some desc) mem
      else none) s' := by
  have hadd := EmuFrame.addRef s
  obtain ⟨s₁, hfirst, hinit, hs'⟩ | ⟨hnot, -, rfl⟩ := createPrimary_cases hc
  · rw [if_pos hfirst]
    have hplaced : EmuPlaced { s with mPrimaryBuffer := s.mPrimaryBuffer.addRef.2 } := h
    obtain ⟨heffect, hfailed⟩ := primaryInitialize_effect hplaced hinit
    obtain ⟨hfail, rfl⟩ | ⟨-, rfl⟩ := hs'
    · -- the reference that is given back does not change the buffer
      have hrelease := EmuFrame.release s₁
      cases heffect with
      | kept hcall hk => exact .kept hcall ((hadd.trans hk).trans hrelease)
      | gone hcall hn => exact .gone hcall (by simpa [hn] using hrelease.emu)
      | created c emu hcall hs => exact absurd hs (hfailed hfail c hcall)
    · exact heffect.after hadd
  · rw [if_neg hnot]
    exact .of_frame hadd

/-- **`CreateSoundBuffer`**, of the primary buffer or of a secondary one. -/
theorem createSoundBuffer_effect [Abi] {desc : Option BufferDesc} {dsBuffer outer : Bool}
    (h : s.EmuPlaced) (hc : s.createSoundBuffer desc dsBuffer outer mem = some (hr, s')) :
    s.EmuEffect (s.createCall desc dsBuffer outer mem) s' := by
  obtain ⟨rfl, -, hreject⟩ | ⟨d, hacc, ⟨hprimary, hc⟩ | ⟨hprimary, -, p, s₁, hcon, hc⟩⟩ :=
    createSoundBuffer_cases hc
  · rw [createCall_eq_none fun d hacc ↦ (hreject d hacc).1]
    exact .of_frame (.refl _)
  · rw [createCall_of_accepts hacc hprimary]
    exact createPrimary_effect h hc
  · have hframe := ((SamePrimary.construct hcon).trans (SamePrimary.initializeNew hc)).frame
    rw [createCall_eq_none fun d' hacc' ↦ ?_]
    · exact .of_frame hframe.emuFrame
    · cases hacc.eq.symm.trans hacc'.eq
      exact hprimary

/-- The call in `SetFormat`. -/
theorem formatCall_eq {wfx : Option WaveFormat} {format : WaveFormat}
    (h : s.newFormat wfx = some format) : s.formatCall wfx mem =
      if s.mPrimaryBuffer.mWriteEmu.isSome then
        (destroyWriteEmu
          { s with mPrimaryBuffer := { s.mPrimaryBuffer with mFormat := format } }).map
            fun s ↦ ⟨s, s.mPrimaryBuffer.mFlags, mem⟩
      else none := by
  obtain ⟨wfx, rfl, hnew⟩ := Option.bind_eq_some_iff.mp h
  split_ifs at hnew with hlevel hext
  unfold formatCall
  simp only [Option.bind_eq_bind, Option.bind_some]
  rw [if_neg hlevel, if_neg hext, hnew, Option.bind_some]

theorem formatCall_eq_none {wfx : Option WaveFormat} (h : s.newFormat wfx = none) :
    s.formatCall wfx mem = none := by
  unfold formatCall
  unfold newFormat at h
  cases wfx with
  | none => rfl
  | some wfx =>
      simp only [Option.bind_eq_bind, Option.bind_some] at h ⊢
      by_cases hlevel : s.mPrioLevel < Level.priority
      · rw [if_pos hlevel]
      rw [if_neg hlevel] at h ⊢
      by_cases hext : wfx.wFormatTag = formatExtensible ∧ wfx.cbSize < extExtraSize
      · rw [if_pos hext]
      rw [if_neg hext] at h ⊢
      rw [h, Option.bind_none]

/-- **`SetFormat`.** -/
theorem setFormat_effect {wfx : Option WaveFormat} (h : s.EmuPlaced)
    (hc : s.setFormat wfx mem = some (hr, s')) : s.EmuEffect (s.formatCall wfx mem) s' := by
  obtain ⟨rfl, hno⟩ | ⟨format, hformat, ⟨hnone, rfl⟩ | ⟨hsome, s₀, hdestroy, hcreate⟩⟩ :=
    setFormat_cases hc
  · rw [formatCall_eq_none hno]
    exact .of_frame (.refl _)
  · rw [formatCall_eq hformat, if_neg (by simp [hnone])]
    exact .of_frame ⟨rfl, rfl, rfl, .inl rfl, rfl, le_rfl, fun _ hs ↦ hs⟩
  · obtain ⟨emu, hemu⟩ := Option.isSome_iff_exists.mp hsome
    obtain ⟨hprimary, hlevel, hborn⟩ := destroyWriteEmu_eq hdestroy
    have hnone : s₀.mPrimaryBuffer.mWriteEmu = none := by rw [hprimary]
    obtain ⟨hprimary', hlevel', -⟩ := (createWriteEmu_spec hnone hcreate).1
    rw [formatCall_eq hformat, if_pos hsome, hdestroy, Option.map_some]
    refine .of_create rfl hnone hcreate hborn.ge (by rw [hprimary]) (by rw [hprimary])
      ⟨rfl, rfl, rfl, rfl⟩ fun _ ↦ ⟨?_, by rw [hprimary']⟩
    rw [hlevel', hlevel]
    exact (h emu hemu).2

/-- Entering `DSSCL_WRITEPRIMARY`; the level is stored afterwards. -/
theorem enterWritePrimary_effect (hc : s.enterWritePrimary mem = some (hr, s'))
    (hshared : ¬ s.mShared.isNone) (hl : s.mPrioLevel ≠ Level.writePrimary) :
    s.EmuEffect (s.levelCall Level.writePrimary mem)
      (if hr.succeeded then { s' with mPrioLevel := Level.writePrimary } else s') := by
  obtain ⟨s₀, hr₂, s₂, hdestroy, hlose, hs₂⟩ := enterWritePrimary_cases hc
  obtain ⟨hprimary, -, hborn⟩ := destroyWriteEmu_eq hdestroy
  have hcall : s.levelCall Level.writePrimary mem =
      if hr₂.failed ∨ s₂.mPrimaryBuffer.mFlags = 0 then none
      else some ⟨s₂, s₂.mPrimaryBuffer.mFlags, mem⟩ := by
    unfold levelCall
    rw [if_neg (by rintro (h | h | h) <;> contradiction), hdestroy]
    simp only [Option.bind_eq_bind, Option.bind_some, hlose]
  obtain ⟨gs, hgs⟩ := eq_of_loseBuffers hlose
  have hprimary₂ : s₂.mPrimaryBuffer = { s.mPrimaryBuffer with mWriteEmu := none } := by
    rw [hgs]
    exact hprimary
  have hnone : s₂.mPrimaryBuffer.mWriteEmu = none := by rw [hprimary₂]
  rw [hcall]
  obtain ⟨hfail, rfl, rfl⟩ | ⟨hok₂, hflags, hcreate⟩ | ⟨-, hflags, -, rfl⟩ := hs₂
  · rw [if_pos (.inl (by simpa using hfail))]
    refine .gone (by simp) ?_
    split_ifs <;> exact hnone
  · rw [if_neg (by simp [hok₂, hflags])]
    refine .of_create rfl hnone hcreate ?_ (by rw [hprimary₂]) (by rw [hprimary₂]) ?_ fun hok ↦ ?_
    · rw [hgs]
      exact hborn.ge
    · split_ifs <;> exact ⟨rfl, rfl, rfl, rfl⟩
    · rw [if_pos (by simpa using hok)]
      refine ⟨rfl, ?_⟩
      show hasFlag s'.mPrimaryBuffer.mFlags _ = _
      rw [(createWriteEmu_spec hnone hcreate).1.1]
  · rw [if_pos (.inr hflags)]
    refine .gone (by simp) ?_
    split_ifs <;> exact hnone

/-- **`SetCooperativeLevel`.** -/
theorem setCooperativeLevel_effect {level : UInt32} (h : s.EmuPlaced)
    (hc : s.setCooperativeLevel level mem = some (hr, s')) :
    s.EmuEffect (s.levelCall level mem) s' := by
  have hother : level ≠ Level.writePrimary ∨ s.mPrioLevel = Level.writePrimary →
      s.levelCall level mem = none := fun hl ↦ if_pos (.inr hl)
  obtain ⟨rfl, -, hinvalid⟩ | ⟨s₁, rfl, hshared, hle, ⟨⟨rfl, hne⟩, henter⟩ |
    ⟨⟨hlt, hwas⟩, rfl, hdestroy⟩ | ⟨hsame, rfl, rfl⟩⟩ := setCooperativeLevel_cases hc
  · rw [show s'.levelCall level mem = none from ?_]
    · exact .of_frame (.refl _)
    · obtain hnone | hinvalid := hinvalid
      · exact if_pos (.inl hnone)
      · exact hother (.inl (by rintro rfl; revert hinvalid; decide))
  · exact enterWritePrimary_effect henter (by simp [hshared]) hne
  · rw [hother (.inr hwas)]
    exact .gone (by simp) (congrArg PrimaryBuffer.mWriteEmu (destroyWriteEmu_eq hdestroy).1)
  · by_cases hw : s₁.mPrioLevel = Level.writePrimary
    · rw [hother (.inr hw)]
      exact .of_frame ⟨rfl, rfl, rfl, .inl rfl, (hsame.mpr hw).trans hw.symm, le_rfl,
        fun _ hs ↦ hs⟩
    · rw [hother (.inl fun hl ↦ hw (hsame.mp hl))]
      refine .gone (by simp) ?_
      exact Option.eq_none_iff_forall_ne_some.mpr fun emu hemu ↦ hw (h emu hemu).2

/-- **A call on the primary buffer** but the three that are passed on to the write-emulation
buffer. -/
theorem primaryCall_effect {c : PrimaryCall} (h : s.EmuPlaced)
    (hc : s.primaryCall c = some (hr, s'))
    (hplay : ∀ priority flags started, c ≠ .play priority flags started) (hstop : c ≠ .stop)
    (hpan : ∀ pan, c ≠ .setPan pan) : s.EmuEffect (s.emuCall (.primary c)) s' := by
  cases c with
  | addRef =>
      cases hc
      exact .of_frame (.addRef s)
  | release =>
      cases hc
      exact .of_frame (.release s)
  | listenerAddRef =>
      cases hc
      exact .of_frame ⟨rfl, rfl, rfl, .inl rfl, rfl, le_rfl, fun _ hs ↦ hs⟩
  | listenerRelease =>
      cases hc
      exact .of_frame ⟨rfl, rfl, rfl, .inl rfl, rfl, le_rfl, fun _ hs ↦ hs⟩
  | propAddRef =>
      cases hc
      exact .of_frame ⟨rfl, rfl, rfl, .inl rfl, rfl, le_rfl, fun _ hs ↦ hs⟩
  | propRelease =>
      cases hc
      exact .of_frame ⟨rfl, rfl, rfl, .inl rfl, rfl, le_rfl, fun _ hs ↦ hs⟩
  | initializePrimary desc mem => exact (primaryInitialize_effect h hc).1
  | play priority flags started => exact absurd rfl (hplay priority flags started)
  | stop => exact absurd rfl hstop
  | setFormat wfx mem => exact setFormat_effect h hc
  | setVolume volume =>
      have hc := congrArg Prod.snd (Option.some.inj hc)
      refine .of_frame ?_
      rw [← show (s.primarySetVolume volume).2 = s' from hc]
      unfold primarySetVolume
      split_ifs <;> exact ⟨rfl, rfl, rfl, .inl rfl, rfl, le_rfl, fun _ hs ↦ hs⟩
  | setPan pan => exact absurd rfl (hpan pan)
  | restore =>
      have hc := congrArg Prod.snd (Option.some.inj hc)
      refine .of_frame ?_
      rw [← show s.primaryRestore.2 = s' from hc]
      unfold primaryRestore
      cases hemu : s.mPrimaryBuffer.mWriteEmu with
      | none => exact .refl s
      | some emu =>
          refine ⟨?_, rfl, rfl, .inl rfl, rfl, le_rfl, fun started hs ↦ ?_⟩
          · rw [hemu]
            dsimp only [Buffer.restore]
            split_ifs <;> rfl
          · intro emu' hemu'
            obtain rfl := Option.some.inj hemu'
            exact (hs emu hemu).restore

/-- **Every operation** but those three. -/
theorem exec_effect [Abi] {op : Op} (h : s.EmuPlaced) (hc : s.exec op = some (hr, s'))
    (hplay : ∀ priority flags started, op ≠ .primary (.play priority flags started))
    (hstop : op ≠ .primary .stop) (hpan : ∀ pan, op ≠ .primary (.setPan pan)) :
    s.EmuEffect (s.emuCall op) s' := by
  by_cases hcreate : ∃ desc dsBuffer outer mem, op = .createSoundBuffer desc dsBuffer outer mem
  · obtain ⟨desc, dsBuffer, outer, mem, rfl⟩ := hcreate
    exact createSoundBuffer_effect h hc
  by_cases hlevel : ∃ level mem, op = .setCooperativeLevel level mem
  · obtain ⟨level, mem, rfl⟩ := hlevel
    exact setCooperativeLevel_effect h hc
  by_cases hprimary : ∃ c, op = .primary c
  · obtain ⟨c, rfl⟩ := hprimary
    exact primaryCall_effect h hc (fun _ _ _ he ↦ hplay _ _ _ (congrArg Op.primary he))
      (fun he ↦ hstop (congrArg Op.primary he)) fun _ he ↦ hpan _ (congrArg Op.primary he)
  simp only [not_exists] at hcreate hlevel hprimary
  have hcall : s.emuCall op = none := by
    unfold emuCall
    split
    · exact absurd rfl (hcreate _ _ _ _)
    · exact absurd rfl (hlevel _ _)
    · exact absurd rfl (hprimary _)
    · exact absurd rfl (hprimary _)
    · rfl
  rw [hcall]
  exact .of_frame (PrimaryFrame.exec hc hcreate hlevel hprimary).emuFrame

/-- What `Play`, `Stop` and `SetPan` of the primary buffer do: they change the
write-emulation buffer, `mPlaying` as `plays` says, and `mPan`. -/
structure PassesOn (s : DSound8OAL) (plays : Bool → Bool) (s' : DSound8OAL) : Prop where
  emu : ∀ emu', s'.mPrimaryBuffer.mWriteEmu = some emu' →
    ∃ emu, s.mPrimaryBuffer.mWriteEmu = some emu ∧ emu'.born = emu.born ∧
      (emu.mPan = s.mPrimaryBuffer.mPan → emu'.mPan = s'.mPrimaryBuffer.mPan)
  flags : s'.mPrimaryBuffer.mFlags = s.mPrimaryBuffer.mFlags
  level : s'.mPrioLevel = s.mPrioLevel
  born : s'.nextBorn = s.nextBorn
  playing : s'.mPrimaryBuffer.mPlaying = plays s.mPrimaryBuffer.mPlaying
  sounds : ∀ started, s.EmuSounds started → s'.EmuSounds (plays started)

namespace PassesOn

/-- **`Play`** of the primary buffer. -/
theorem play {priority flags : UInt32} {started : Bool}
    (hc : s.primaryPlay priority flags started = some (hr, s')) :
    s.PassesOn (fun playing ↦ if hr.succeeded then true else playing) s' := by
  obtain ⟨-, rfl, rfl⟩ | ⟨hemu, rfl, rfl⟩ | ⟨emu, dev, emu', dev', notify, hemu, -, hplay, rfl⟩ :=
    primaryPlay_cases hc
  · exact ⟨fun emu he ↦ ⟨emu, he, rfl, id⟩, rfl, rfl, rfl, rfl, fun _ hs ↦ hs⟩
  · exact ⟨fun emu he ↦ absurd (hemu.symm.trans he) nofun, rfl, rfl, rfl, rfl,
      fun _ _ emu he ↦ absurd (hemu.symm.trans he) nofun⟩
  · have hkey := Buffer.play_emuKey hplay
    refine ⟨?_, rfl, rfl, rfl, rfl, fun started hs ↦ ?_⟩
    · rintro _ ⟨⟩
      have hpan : emu'.mPan = emu.mPan := congrArg Prod.snd hkey
      exact ⟨emu, hemu, congrArg Prod.fst hkey, fun h ↦ hpan.trans h⟩
    · rintro _ ⟨⟩
      exact (hs emu hemu).play hplay

/-- **`Stop`** of the primary buffer. -/
theorem stop (hc : s.primaryStop = some (hr, s')) : s.PassesOn (fun _ ↦ false) s' := by
  obtain ⟨hemu, rfl, rfl⟩ | ⟨emu, sb, stopped, hr₁, emu', hemu, -, hstopped, hpos, rfl, rfl⟩ :=
    primaryStop_cases hc
  · exact ⟨fun emu he ↦ absurd (hemu.symm.trans he) nofun, rfl, rfl, rfl, rfl,
      fun _ _ emu he ↦ absurd (hemu.symm.trans he) nofun⟩
  · have hkey : emu'.emuKey = emu.emuKey := by
      refine (Buffer.setCurrentPosition_emuKey hpos).trans ?_
      rw [hstopped]
      cases emu.mSource <;> rfl
    refine ⟨?_, rfl, rfl, rfl, rfl, fun started hs ↦ ?_⟩
    · rintro _ ⟨⟩
      have hpan : emu'.mPan = emu.mPan := congrArg Prod.snd hkey
      exact ⟨emu, hemu, congrArg Prod.fst hkey, fun h ↦ hpan.trans h⟩
    · rintro _ ⟨⟩
      exact (hs emu hemu).stop hstopped hpos

/-- **`SetPan`** of the primary buffer. -/
theorem setPan {pan : Int32} (hc : s.primarySetPan pan = some (hr, s')) :
    s.PassesOn id s' := by
  obtain ⟨-, rfl⟩ | ⟨hemu, -, rfl⟩ | ⟨emu, emu', hemu, hset, rfl⟩ := primarySetPan_cases hc
  · exact ⟨fun emu he ↦ ⟨emu, he, rfl, id⟩, rfl, rfl, rfl, rfl, fun _ hs ↦ hs⟩
  · exact ⟨fun emu he ↦ absurd (hemu.symm.trans he) nofun, rfl, rfl, rfl, rfl,
      fun _ _ emu he ↦ absurd (hemu.symm.trans he) nofun⟩
  · refine ⟨?_, rfl, rfl, rfl, rfl, fun started hs ↦ ?_⟩
    · rintro _ ⟨⟩
      obtain ⟨hborn, hpan⟩ := Buffer.setPan_mPan hset
      refine ⟨emu, hemu, hborn, fun h ↦ ?_⟩
      rw [hpan, h]
    · rintro _ ⟨⟩
      exact (hs emu hemu).setPan hset

end PassesOn

namespace EmuPlaced

/-- A method that keeps the write-emulation buffer, if it leaves one. -/
theorem of_born (h : s.EmuPlaced)
    (hemu : ∀ emu', s'.mPrimaryBuffer.mWriteEmu = some emu' →
      ∃ emu, s.mPrimaryBuffer.mWriteEmu = some emu ∧ emu'.born = emu.born)
    (hlevel : s'.mPrioLevel = s.mPrioLevel) (hborn : s.nextBorn ≤ s'.nextBorn) :
    s'.EmuPlaced := by
  intro emu' hemu'
  obtain ⟨emu, he, hb⟩ := hemu emu' hemu'
  obtain ⟨hlt, hw⟩ := h emu he
  exact ⟨(hb.trans_lt hlt).trans_le hborn, hlevel.trans hw⟩

theorem of_passesOn {plays : Bool → Bool} (h : s.EmuPlaced) (hp : s.PassesOn plays s') :
    s'.EmuPlaced := by
  refine h.of_born (fun emu' hemu' ↦ ?_) hp.level hp.born.ge
  obtain ⟨emu, hemu, hborn, -⟩ := hp.emu emu' hemu'
  exact ⟨emu, hemu, hborn⟩

theorem of_effect {call : Option EmuCall} (h : s.EmuPlaced) (he : s.EmuEffect call s') :
    s'.EmuPlaced := by
  cases he with
  | kept hcall hf =>
      refine h.of_born (fun emu' hemu' ↦ ?_) hf.level hf.born
      have hemu := hf.emu
      rw [hemu'] at hemu
      obtain ⟨emu, he, hkey⟩ := Option.map_eq_some_iff.mp hemu.symm
      exact ⟨emu, he, (congrArg Prod.fst hkey).symm⟩
  | gone hcall hn =>
      intro emu hemu
      rw [hn] at hemu
      cases hemu
  | created c emu hcall hs hemu hsounds hpan hborn hlt hlevel playing pan flags =>
      intro emu' hemu'
      obtain rfl : emu = emu' := Option.some.inj (hemu.symm.trans hemu')
      exact ⟨hlt, hlevel⟩

/-- **Step lemma**: there is no write-emulation buffer at any other level. -/
theorem step [Abi] {op : Op} (h : s.EmuPlaced) (hs : DSoundStep s op s') : s'.EmuPlaced := by
  obtain ⟨-, hr, hc⟩ := hs
  by_cases hplay : ∃ priority flags started, op = .primary (.play priority flags started)
  · obtain ⟨priority, flags, started, rfl⟩ := hplay
    exact h.of_passesOn (.play hc)
  by_cases hstop : op = .primary .stop
  · subst hstop
    exact h.of_passesOn (.stop hc)
  by_cases hpan : ∃ pan, op = .primary (.setPan pan)
  · obtain ⟨pan, rfl⟩ := hpan
    exact h.of_passesOn (.setPan hc)
  simp only [not_exists] at hplay hpan
  exact h.of_effect (exec_effect h hc hplay hstop hpan)

end EmuPlaced

/-- **Run lemma**. -/
theorem emuPlaced_of_reachable [Abi] (h : Reachable DSoundStep IsNew s) : s.EmuPlaced := by
  refine h.invariant (P := EmuPlaced) ?_ fun _ _ _ hok hs ↦ hok.step hs
  rintro s ⟨is8, rfl⟩ emu ⟨⟩

/-- A write-emulation buffer is created although the primary buffer is playing, or is not
in the centre and lets the application control its pan. -/
def CreatesUnlike (s : DSound8OAL) (op : Op) : Prop :=
  ∃ c ∈ s.emuCall op, c.Succeeds ∧ (s.mPrimaryBuffer.mPlaying = true ∨
    hasFlag c.flags Caps.ctrlPan ∧ s.mPrimaryBuffer.mPan ≠ 0)

theorem not_createsUnlike_of_none {op : Op} (h : s.emuCall op = none) : ¬ s.CreatesUnlike op := by
  rintro ⟨c, hc, -⟩
  rw [h] at hc
  cases hc

/-- Nothing goes wrong while the primary buffer is stopped and in the centre. -/
theorem not_createsUnlike_of_new {op : Op} (hplaying : s.mPrimaryBuffer.mPlaying = false)
    (hpan : s.mPrimaryBuffer.mPan = 0) : ¬ s.CreatesUnlike op := by
  rintro ⟨c, -, -, hbad | ⟨-, hbad⟩⟩
  · rw [hplaying] at hbad
    cases hbad
  · exact hbad hpan

end DSound8OAL

namespace EmuRun

variable {r r' : EmuRun} {op : Op} {hr : HResult}

/-! ## The note -/

theorem play_object (r : EmuRun) (priority flags : UInt32) (started : Bool) :
    (r.play priority flags started).map (fun x ↦ (x.1, x.2.object)) =
      r.object.primaryPlay priority flags started := by
  unfold play primaryPlay
  split_ifs with hloop
  · rfl
  cases hemu : r.object.mPrimaryBuffer.mWriteEmu with
  | none => rfl
  | some emu =>
      unfold playEmu
      cases hdev : r.object.mShared with
      | none => rfl
      | some dev =>
          dsimp only [Option.bind_eq_bind, Option.bind_some]
          cases emu.play r.object.parent dev priority flags started with
          | none => rfl
          | some x =>
              dsimp only [Option.bind_eq_bind, Option.bind_some, Option.map_some, setPlaying]
              cases x.1.succeeded <;> rfl

theorem stop_object (r : EmuRun) :
    r.stop.map (fun x ↦ (x.1, x.2.object)) = r.object.primaryStop := by
  unfold stop primaryStop
  cases hemu : r.object.mPrimaryBuffer.mWriteEmu with
  | none => rfl
  | some emu =>
      unfold stopEmu
      dsimp only
      cases emu.mBuffer with
      | none => rfl
      | some sb =>
          dsimp only [Option.bind_eq_bind, Option.bind_some]
          generalize Buffer.setCurrentPosition _ 0 = x
          cases x <;> rfl

/-- **The object does not depend on the note.** -/
theorem exec_object [Abi] (r : EmuRun) (op : Op) :
    (r.exec op).map (fun x ↦ (x.1, x.2.object)) = r.object.exec op := by
  have hother : ((r.object.exec op).map fun x ↦
      (x.1, (⟨x.2, !created r.object x.2 && r.started⟩ : EmuRun))).map
        (fun x ↦ (x.1, x.2.object)) = r.object.exec op := by
    rw [Option.map_map]
    exact Option.map_id'
  unfold exec
  split
  · exact r.play_object _ _ _
  · exact r.stop_object
  · exact hother

theorem object_exec [Abi] (hc : r.exec op = some (hr, r')) :
    r.object.exec op = some (hr, r'.object) := by
  rw [← exec_object, hc, Option.map_some]

/-- Storing `mPlaying` starts and stops nothing. -/
theorem setPlaying_started {playing : Bool} {hr₁ : HResult} {r₁ : EmuRun}
    (h : some (setPlaying playing hr₁ r₁) = some (hr, r')) :
    hr = hr₁ ∧ r'.started = r₁.started := by
  have hset := Option.some.inj h
  unfold setPlaying at hset
  split_ifs at hset <;> cases hset <;> exact ⟨rfl, rfl⟩

/-- `Play` of the write-emulation buffer has started it if it has succeeded. -/
theorem play_started {emu : Buffer} {priority flags : UInt32} {started : Bool}
    (hemu : r.object.mPrimaryBuffer.mWriteEmu = some emu)
    (hc : r.play priority flags started = some (hr, r')) :
    r'.started = if hr.succeeded then true else r.started := by
  unfold play at hc
  split_ifs at hc with hloop
  · cases hc
    rfl
  simp only [hemu] at hc
  obtain ⟨⟨hr₁, r₁⟩, hplay, hc⟩ := Option.bind_eq_some_iff.mp hc
  obtain ⟨dev, -, hplay⟩ := Option.bind_eq_some_iff.mp hplay
  obtain ⟨⟨hr₂, emu', dev', notify⟩, -, hplay⟩ := Option.bind_eq_some_iff.mp hplay
  cases hplay
  obtain ⟨rfl, hstarted⟩ := setPlaying_started hc
  exact hstarted

/-- `Stop` of the write-emulation buffer has stopped it. -/
theorem stop_started {emu : Buffer} (hemu : r.object.mPrimaryBuffer.mWriteEmu = some emu)
    (hc : r.stop = some (hr, r')) : r'.started = false := by
  unfold stop at hc
  simp only [hemu] at hc
  obtain ⟨⟨hr₁, r₁⟩, hstop, hc⟩ := Option.bind_eq_some_iff.mp hc
  obtain ⟨sb, -, hstop⟩ := Option.bind_eq_some_iff.mp hstop
  obtain ⟨⟨hr₂, emu'⟩, -, hstop⟩ := Option.bind_eq_some_iff.mp hstop
  cases hstop
  exact (setPlaying_started hc).2

/-- No other operation starts or stops it. -/
theorem exec_started [Abi] (hc : r.exec op = some (hr, r'))
    (hplay : ∀ priority flags started, op ≠ .primary (.play priority flags started))
    (hstop : op ≠ .primary .stop) :
    r'.started = (!created r.object r'.object && r.started) := by
  unfold exec at hc
  split at hc
  · exact absurd rfl (hplay _ _ _)
  · exact absurd rfl hstop
  · obtain ⟨⟨hr₁, s⟩, -, hc⟩ := Option.map_eq_some_iff.mp hc
    cases hc
    rfl

/-- The write-emulation buffer, if there is one, has been started if and only if
`mPlaying` is set, and has the pan of the primary buffer if that has a pan control. -/
def Mirrors (r : EmuRun) : Prop :=
  ∀ emu, r.object.mPrimaryBuffer.mWriteEmu = some emu →
    (r.object.mPrimaryBuffer.mPlaying = true ↔ r.started = true) ∧
    (hasFlag r.object.mPrimaryBuffer.mFlags Caps.ctrlPan → emu.mPan = r.object.mPrimaryBuffer.mPan)

/-- What every step is shown to do. -/
def Steps (r : EmuRun) (op : Op) (r' : EmuRun) : Prop :=
  r'.object.EmuPlaced ∧ r'.object.EmuSounds r'.started ∧
    (r'.Mirrors ↔ ¬ r.object.CreatesUnlike op)

theorem created_eq_false {emu emu' : Buffer} (hplaced : r.object.EmuPlaced)
    (h : r.object.mPrimaryBuffer.mWriteEmu = some emu)
    (h' : r'.object.mPrimaryBuffer.mWriteEmu = some emu') (hborn : emu'.born = emu.born) :
    created r.object r'.object = false := by
  simp only [created, h', Option.any_some, decide_eq_false_iff_not, not_le, hborn]
  exact (hplaced emu h).1

/-- A method that creates no write-emulation buffer, and starts or stops it as it changes
`mPlaying`. -/
theorem steps_of_passed (hplaced : r.object.EmuPlaced) (hm : r.Mirrors)
    (hcall : ∀ c ∈ r.object.emuCall op, ¬ c.Succeeds)
    (hemu : ∀ emu', r'.object.mPrimaryBuffer.mWriteEmu = some emu' →
      ∃ emu, r.object.mPrimaryBuffer.mWriteEmu = some emu ∧ emu'.born = emu.born ∧
        (emu.mPan = r.object.mPrimaryBuffer.mPan → emu'.mPan = r'.object.mPrimaryBuffer.mPan))
    (hflags : hasFlag r'.object.mPrimaryBuffer.mFlags Caps.ctrlPan →
      hasFlag r.object.mPrimaryBuffer.mFlags Caps.ctrlPan)
    (hlevel : r'.object.mPrioLevel = r.object.mPrioLevel)
    (hborn : r.object.nextBorn ≤ r'.object.nextBorn) (plays : Bool → Bool)
    (hplaying : r'.object.mPrimaryBuffer.mPlaying = plays r.object.mPrimaryBuffer.mPlaying)
    (hsounds : r'.object.EmuSounds (plays r.started))
    (hstarted : ∀ emu emu', r.object.mPrimaryBuffer.mWriteEmu = some emu →
      r'.object.mPrimaryBuffer.mWriteEmu = some emu' → emu'.born = emu.born →
        r'.started = plays r.started) :
    r.Steps op r' := by
  refine ⟨hplaced.of_born (fun emu' hemu' ↦ ?_) hlevel hborn, fun emu' hemu' ↦ ?_,
    iff_of_true (fun emu' hemu' ↦ ?_) fun ⟨c, hc, hs, _⟩ ↦ hcall c hc hs⟩
  · obtain ⟨emu, he, hb, -⟩ := hemu emu' hemu'
    exact ⟨emu, he, hb⟩
  · obtain ⟨emu, he, hb, -⟩ := hemu emu' hemu'
    rw [hstarted emu emu' he hemu' hb]
    exact hsounds emu' hemu'
  · obtain ⟨emu, he, hb, hpan'⟩ := hemu emu' hemu'
    obtain ⟨hplay, hpan⟩ := hm emu he
    rw [hstarted emu emu' he hemu' hb, hplaying]
    exact ⟨by rw [Bool.eq_iff_iff.mpr hplay], fun hflag ↦ hpan' (hpan (hflags hflag))⟩

/-- A method that may create the write-emulation buffer. -/
theorem steps_of_effect (hplaced : r.object.EmuPlaced) (hs : r.object.EmuSounds r.started)
    (hm : r.Mirrors) (he : r.object.EmuEffect (r.object.emuCall op) r'.object)
    (hstarted : r'.started = (!created r.object r'.object && r.started)) :
    r.Steps op r' := by
  have hplaced' := hplaced.of_effect he
  cases he with
  | kept hcall hf =>
      refine steps_of_passed hplaced hm hcall (fun emu' hemu' ↦ ?_) (fun hflag ↦ ?_) hf.level
        hf.born id hf.playing (hf.sounds _ hs) fun emu emu' hemu hemu' hb ↦ ?_
      · have hemu := hf.emu
        rw [hemu'] at hemu
        obtain ⟨emu, he, hkey⟩ := Option.map_eq_some_iff.mp hemu.symm
        have hpan : emu.mPan = emu'.mPan := congrArg Prod.snd hkey
        exact ⟨emu, he, (congrArg Prod.fst hkey).symm, fun h ↦ by rw [← hpan, h, hf.pan]⟩
      · rcases hf.flags with hflags | hflags
        · exact hflags ▸ hflag
        · rw [hflags] at hflag
          exact absurd hflag (by decide)
      · rw [hstarted, created_eq_false hplaced hemu hemu' hb]
        rfl
  | gone hcall hn =>
      have hvacuous : ∀ emu, r'.object.mPrimaryBuffer.mWriteEmu ≠ some emu := by simp [hn]
      exact ⟨hplaced', fun emu hemu ↦ absurd hemu (hvacuous emu),
        iff_of_true (fun emu hemu ↦ absurd hemu (hvacuous emu)) fun ⟨c, hc, hs, _⟩ ↦
          hcall c hc hs⟩
  | created c emu hcall hs hemu hsounds hpan hborn hlt hlevel playing pan flags =>
      have hnew : created r.object r'.object = true := by simpa [created, hemu] using hborn
      rw [hnew, Bool.not_true, Bool.false_and] at hstarted
      refine ⟨hplaced', fun emu' hemu' ↦ ?_, ?_⟩
      · obtain rfl : emu = emu' := Option.some.inj (hemu.symm.trans hemu')
        rw [hstarted]
        exact hsounds
      constructor
      · rintro hm' ⟨c', hc', -, hbad⟩
        obtain rfl : c = c' := Option.some.inj (hcall.symm.trans hc')
        obtain ⟨hp', hpan'⟩ := hm' emu hemu
        rw [playing, hstarted] at hp'
        rw [flags, pan, hpan] at hpan'
        rcases hbad with hbad | ⟨hflag, hbad⟩
        · exact absurd (hp'.mp hbad) (by decide)
        · exact hbad (hpan' hflag).symm
      · intro hgood emu' hemu'
        obtain rfl : emu = emu' := Option.some.inj (hemu.symm.trans hemu')
        rw [playing, hstarted, flags, pan, hpan]
        refine ⟨⟨fun hp ↦ absurd ⟨c, hcall, hs, .inl hp⟩ hgood, nofun⟩, fun hflag ↦ ?_⟩
        by_contra hne
        exact hgood ⟨c, hcall, hs, .inr ⟨hflag, fun h0 ↦ hne h0.symm⟩⟩

/-- `Play`, `Stop` and `SetPan` of the primary buffer. -/
theorem steps_of_passesOn {plays : Bool → Bool} (hplaced : r.object.EmuPlaced)
    (hs : r.object.EmuSounds r.started) (hm : r.Mirrors)
    (hcall : r.object.emuCall op = none) (h : r.object.PassesOn plays r'.object)
    (hstarted : ∀ emu emu', r.object.mPrimaryBuffer.mWriteEmu = some emu →
      r'.object.mPrimaryBuffer.mWriteEmu = some emu' → emu'.born = emu.born →
        r'.started = plays r.started) :
    r.Steps op r' :=
  steps_of_passed hplaced hm (by simp [hcall]) h.emu (fun hflag ↦ h.flags ▸ hflag) h.level
    h.born.ge plays h.playing (h.sounds _ hs) hstarted

/-- Every step. -/
theorem steps_of_step [Abi] (hplaced : r.object.EmuPlaced) (hs : r.object.EmuSounds r.started)
    (hm : r.Mirrors) (hstep : EmuStep r op r') : r.Steps op r' := by
  obtain ⟨-, hr, hc⟩ := hstep
  have hobject := object_exec hc
  by_cases hplay : ∃ priority flags started, op = .primary (.play priority flags started)
  · obtain ⟨priority, flags, started, rfl⟩ := hplay
    exact steps_of_passesOn hplaced hs hm rfl (.play hobject) fun emu emu' hemu _ _ ↦
      play_started hemu hc
  by_cases hstop : op = .primary .stop
  · subst hstop
    exact steps_of_passesOn hplaced hs hm rfl (.stop hobject) fun emu emu' hemu _ _ ↦
      stop_started hemu hc
  simp only [not_exists] at hplay
  have hstarted := exec_started hc hplay hstop
  by_cases hpan : ∃ pan, op = .primary (.setPan pan)
  · obtain ⟨pan, rfl⟩ := hpan
    refine steps_of_passesOn hplaced hs hm rfl (.setPan hobject) fun emu emu' hemu hemu' hb ↦ ?_
    rw [hstarted, created_eq_false hplaced hemu hemu' hb]
    rfl
  simp only [not_exists] at hpan
  exact steps_of_effect hplaced hs hm (exec_effect hplaced hobject hplay hstop hpan) hstarted

end EmuRun

/-- An operation that has a result is a step. -/
theorem EmuStep.of_isSome [Abi] {r : EmuRun} (op : Op) (hlegal : op.Legal r.object)
    (h : (r.exec op).isSome) : EmuStep r op ((r.exec op).get h).2 :=
  ⟨hlegal, ((r.exec op).get h).1, (Option.some_get h).symm⟩

/-- **The write-emulation buffer.**  In every state reached by steps that do not create it
while the primary buffer is playing or off centre, the write-emulation buffer has been
started and not stopped if and only if `mPlaying` is set, and has the pan of the primary
buffer.  The next step keeps this if and only if it is such a step.  Whether it has been started
shows in its source, and the object makes the same steps as without the note of that. -/
theorem write_emu_mirrors [Abi] {r : EmuRun}
    (h : Reachable (guarded (fun r op ↦ ¬ r.object.CreatesUnlike op) EmuStep) EmuRun.IsNew r) :
    r.Mirrors ∧ r.object.EmuSounds r.started ∧
      (∀ op r', EmuStep r op r' → (r'.Mirrors ↔ ¬ r.object.CreatesUnlike op)) ∧
      ∀ op, (r.exec op).map (fun x ↦ (x.1, x.2.object)) = r.object.exec op := by
  have hinv : r.object.EmuPlaced ∧ r.object.EmuSounds r.started ∧ r.Mirrors := by
    refine h.invariant (P := fun t : EmuRun ↦
      t.object.EmuPlaced ∧ t.object.EmuSounds t.started ∧ t.Mirrors) (fun t ht ↦ ?_) ?_
    · obtain ⟨⟨is8, hnew⟩, -⟩ := ht
      have hnone : t.object.mPrimaryBuffer.mWriteEmu = none := by
        rw [hnew]
        rfl
      have hvacuous : ∀ emu, t.object.mPrimaryBuffer.mWriteEmu ≠ some emu := by simp [hnone]
      exact ⟨fun emu hemu ↦ absurd hemu (hvacuous emu),
        fun emu hemu ↦ absurd hemu (hvacuous emu), fun emu hemu ↦ absurd hemu (hvacuous emu)⟩
    · rintro t op t' ⟨hplaced, hsounds, hm⟩ ⟨hop, hstep⟩
      obtain ⟨hplaced', hsounds', hm'⟩ := EmuRun.steps_of_step hplaced hsounds hm hstep
      exact ⟨hplaced', hsounds', hm'.mpr hop⟩
  obtain ⟨hplaced, hsounds, hm⟩ := hinv
  exact ⟨hm, hsounds, fun op r' hstep ↦ (EmuRun.steps_of_step hplaced hsounds hm hstep).2.2,
    r.exec_object⟩

/-- `CreateSoundBuffer` of the primary buffer with a pan control. -/
def createPrimary : Op :=
  .createSoundBuffer (some ⟨sizeofBufferDesc1, Caps.primaryBuffer ||| Caps.ctrlPan, 0, none⟩)
    true false {}

theorem createPrimary_legal [Abi] (s : DSound8OAL) : createPrimary.Legal s := by
  intro b hb
  cases hb

/-- The application enters the level `DSSCL_WRITEPRIMARY`, and then plays and pans. -/
theorem write_emu_mirrors_play : letI : Abi := ⟨⟨600, by decide⟩⟩
    ∃ r : EmuRun,
      Reachable (guarded (fun r op ↦ ¬ r.object.CreatesUnlike op) EmuStep) EmuRun.IsNew r ∧
      ∃ emu, r.object.mPrimaryBuffer.mWriteEmu = some emu ∧ r.started = true ∧ emu.mPan = -100 ∧
        ∃ src, emu.mSource = some src ∧ (src.state = .playing ∨ src.state = .stopped) := by
  let _ : Abi := ⟨⟨600, by decide⟩⟩
  have h0 : Reachable (guarded (fun r op ↦ ¬ r.object.CreatesUnlike op) EmuStep) EmuRun.IsNew
      ⟨.new true, false⟩ := .init ⟨⟨true, rfl⟩, rfl⟩
  have h1 := h0.step ⟨not_createsUnlike_of_none rfl, .of_isSome initializeOne
    (initializeOne_legal true) (by decide +kernel)⟩
  have h2 := h1.step ⟨not_createsUnlike_of_none rfl, .of_isSome createPrimary
    (createPrimary_legal _) (by decide +kernel)⟩
  have h3 := h2.step ⟨not_createsUnlike_of_new rfl rfl, .of_isSome
    (.setCooperativeLevel Level.writePrimary {}) trivial (by decide +kernel)⟩
  have h4 := h3.step ⟨not_createsUnlike_of_none rfl, .of_isSome
    (.primary (.play 0 PlayFlags.looping true)) trivial (by decide +kernel)⟩
  have h5 := h4.step ⟨not_createsUnlike_of_none rfl, .of_isSome
    (.primary (.setPan (-100))) trivial (by decide +kernel)⟩
  obtain ⟨r, hr, hsome, hplaying, hflag, hpan⟩ : ∃ r : EmuRun,
      Reachable (guarded (fun r op ↦ ¬ r.object.CreatesUnlike op) EmuStep) EmuRun.IsNew r ∧
      r.object.mPrimaryBuffer.mWriteEmu.isSome = true ∧
      r.object.mPrimaryBuffer.mPlaying = true ∧
      hasFlag r.object.mPrimaryBuffer.mFlags Caps.ctrlPan = true ∧
      r.object.mPrimaryBuffer.mPan = -100 :=
    ⟨_, h5, by decide +kernel, by decide +kernel, by decide +kernel, by decide +kernel⟩
  obtain ⟨emu, hemu⟩ := Option.isSome_iff_exists.mp hsome
  obtain ⟨hm, hsounds, -⟩ := write_emu_mirrors hr
  obtain ⟨hplays, hpans⟩ := hm emu hemu
  have hstarted := hplays.mp hplaying
  exact ⟨r, hr, emu, hemu, hstarted, (hpans hflag).trans hpan,
    (hsounds emu hemu).source hstarted⟩

/-- The primary buffer is already playing when the application enters that level. -/
theorem write_emu_not_started : letI : Abi := ⟨⟨600, by decide⟩⟩
    ∃ r : EmuRun, Reachable EmuStep EmuRun.IsNew r ∧ ¬ r.Mirrors := by
  let _ : Abi := ⟨⟨600, by decide⟩⟩
  have h0 : Reachable EmuStep EmuRun.IsNew ⟨.new true, false⟩ := .init ⟨⟨true, rfl⟩, rfl⟩
  have h1 := h0.step (.of_isSome initializeOne
    (initializeOne_legal true) (by decide +kernel))
  have h2 := h1.step (.of_isSome createPrimary (createPrimary_legal _) (by decide +kernel))
  have h3 := h2.step (.of_isSome (.primary (.play 0 PlayFlags.looping true)) trivial
    (by decide +kernel))
  have h4 := h3.step (.of_isSome (.setCooperativeLevel Level.writePrimary {}) trivial
    (by decide +kernel))
  refine ⟨_, h4, fun hm ↦ ?_⟩
  have hplaying := (hm _ (Option.some_get (by decide +kernel)).symm).1
  exact absurd (hplaying.mp (by decide +kernel)) (by decide +kernel)

end Dsoal
