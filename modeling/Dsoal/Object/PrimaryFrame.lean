import Dsoal.Object.Steps

/-!
# What leaves the primary buffer alone

Most methods of an object do not touch its primary buffer (`SamePrimary`), and the methods of
the listener change nothing of it but the listener.  `PrimaryFrame` is what holds of a step of
either kind.
-/

namespace Dsoal

/-- The construction number and the pan of a buffer. -/
def Buffer.emuKey (b : Buffer) : ℕ × Int32 := (b.born, b.mPan)

/-- The location of a buffer has been decided when it was initialized. -/
def Buffer.NotDeferred (b : Buffer) : Prop :=
  ∀ sb, b.mBuffer = some sb → hasFlag sb.mFlags Caps.locDefer = false

/-- The source of a buffer, which is located once and for all, shows whether the buffer has been
started and not stopped: it plays only if that is so, and then plays or has come to its end. -/
structure Buffer.Sounds (b : Buffer) (started : Bool) : Prop where
  located : b.NotDeferred
  of_playing : isPlaying b.mSource = true → started = true
  source : started = true →
    ∃ src, b.mSource = some src ∧ (src.state = .playing ∨ src.state = .stopped)

theorem Buffer.Sounds.mix {b : Buffer} {started : Bool} (h : b.Sounds started) (offset : UInt32)
    (ended : Bool) : (b.mix offset ended).Sounds started where
  located := h.located
  of_playing hplays := by
    rw [Buffer.isPlaying_mix] at hplays
    exact h.of_playing (Bool.and_elim_left hplays)
  source hstarted := by
    obtain ⟨src, hsrc, hstate⟩ := h.source hstarted
    refine ⟨src.advance offset ended, by rw [Buffer.mix, hsrc, Option.map_some], ?_⟩
    unfold Source.advance
    split_ifs with hnot hended
    · exact hstate
    · exact .inr rfl
    · exact .inl (not_not.mp hnot)

/-- The reference counts of a primary buffer. -/
def PrimaryBuffer.refs (p : PrimaryBuffer) : UInt32 × UInt32 × UInt32 × UInt32 :=
  (p.mTotalRef, p.mDsRef, p.mDs3dRef, p.mPropRef)

namespace DSound8OAL

variable {s s' s'' : DSound8OAL} {b b' : Buffer} {p : Ptr} {hr : HResult}
  {desc : Option BufferDesc} {mem : Memory} {flags : UInt32}

/-- A loop over a list of buffers changes nothing but the buffers. -/
theorem eq_of_forBuffers {f : Buffer → Buffer} {es : List Registered}
    (hc : s.forBuffers f es = some s') : ∃ gs, s' = { s with mSecondaryBuffers := gs } := by
  induction es generalizing s with
  | nil =>
      cases hc
      exact ⟨_, rfl⟩
  | cons e es ih =>
      obtain ⟨b, -, hc⟩ := Option.bind_eq_some_iff.mp hc
      obtain ⟨gs, rfl⟩ := ih hc
      exact ⟨gs, rfl⟩

/-- Setting parameters of the listener changes no more than these and the buffers. -/
theorem eq_of_setListenerParams {params : DS3DListener} {fs : ListenerFlags}
    (hc : s.setListenerParams params fs = some s') : ∃ gs, s' = { s with
      mSecondaryBuffers := gs
      mPrimaryBuffer := { s.mPrimaryBuffer with
        mImmediate := PrimaryBuffer.copyParams fs params s.mPrimaryBuffer.mImmediate }
      alListener := PrimaryBuffer.writeParams s.mExtensions params fs s.alListener } := by
  unfold DSound8OAL.setListenerParams at hc
  dsimp only at hc
  split at hc
  · obtain ⟨gs, rfl⟩ := eq_of_forBuffers hc
    exact ⟨gs, rfl⟩
  · cases hc
    exact ⟨_, rfl⟩

/-- A step that leaves the primary buffer alone. -/
structure SamePrimary (s s' : DSound8OAL) : Prop where
  primary : s'.mPrimaryBuffer = s.mPrimaryBuffer
  level : s'.mPrioLevel = s.mPrioLevel
  born : s.nextBorn ≤ s'.nextBorn

namespace SamePrimary

theorem refl (s : DSound8OAL) : s.SamePrimary s := ⟨rfl, rfl, le_rfl⟩

theorem trans (h : s.SamePrimary s') (h' : s'.SamePrimary s'') : s.SamePrimary s'' where
  primary := h'.primary.trans h.primary
  level := h'.level.trans h.level
  born := h.born.trans h'.born

theorem setBuffer (s : DSound8OAL) (p : Ptr) (b : Buffer) : s.SamePrimary (s.setBuffer p b) :=
  ⟨rfl, rfl, le_rfl⟩

/-! ## Polls and loops -/

theorem triggerNotifies (hc : s.triggerNotifies = some s') : s.SamePrimary s' := by
  obtain ⟨gs, sig, kept, -, rfl⟩ := eq_of_triggerNotifies hc
  exact ⟨rfl, rfl, le_rfl⟩

/-- `triggerNotifies` and `removeNotifyBuffer`. -/
theorem flushNotify (hc : (s.triggerNotifies.map fun s ↦ s.removeNotifyBuffer p) = some s') :
    s.SamePrimary s' := by
  obtain ⟨s₁, htrig, rfl⟩ := Option.map_eq_some_iff.mp hc
  exact (SamePrimary.triggerNotifies htrig).trans (⟨rfl, rfl, le_rfl⟩)

theorem forBuffers {f : Buffer → Buffer} {es : List Registered}
    (hc : s.forBuffers f es = some s') : s.SamePrimary s' := by
  obtain ⟨gs, rfl⟩ := eq_of_forBuffers hc
  exact ⟨rfl, rfl, le_rfl⟩

/-! ## Secondary buffers -/

theorem construct (hc : s.construct b mem = some (p, s')) : s.SamePrimary s' := by
  obtain ⟨⟨q, gs⟩, -, hc⟩ := Option.bind_eq_some_iff.mp hc
  cases hc
  exact ⟨rfl, rfl, Nat.le_succ _⟩

theorem initializeBuffer {memory : Bool}
    (hc : s.initializeBuffer p desc memory = some (hr, s')) : s.SamePrimary s' := by
  obtain ⟨b, -, hc⟩ := Option.bind_eq_some_iff.mp hc
  cases ha : b.attach s.mExtensions desc memory with
  | error hr₁ =>
      rw [ha] at hc
      cases hc
      exact .refl s
  | ok b₁ =>
      rw [ha] at hc
      obtain ⟨dev, -, hc⟩ := Option.bind_eq_some_iff.mp hc
      obtain ⟨⟨hr₁, b₂, dev'⟩, -, hc⟩ := Option.bind_eq_some_iff.mp hc
      cases hc
      split_ifs
      · exact ⟨rfl, rfl, le_rfl⟩
      · exact ⟨rfl, rfl, le_rfl⟩

theorem leaveSource (hc : s.leaveSource b = some s') : s.SamePrimary s' := by
  obtain ⟨shared, rfl, -⟩ := leaveSource_eq hc
  exact ⟨rfl, rfl, le_rfl⟩

theorem dispose [Abi] (hc : s.dispose p = some s') : s.SamePrimary s' := by
  unfold DSound8OAL.dispose at hc
  split at hc
  · cases hc
    exact .refl s
  · obtain ⟨b, -, hc⟩ := Option.bind_eq_some_iff.mp hc
    obtain ⟨s₁, hdestroy, hc⟩ := Option.bind_eq_some_iff.mp hc
    obtain ⟨s₂, hleave, hd⟩ := Option.bind_eq_some_iff.mp hdestroy
    cases hd
    cases hc
    refine (SamePrimary.leaveSource hleave).trans ?_
    split_ifs
    · exact ⟨rfl, rfl, le_rfl⟩
    · exact ⟨rfl, rfl, le_rfl⟩

theorem initializeNew [Abi] {memory : Bool}
    (hc : s.initializeNew p desc memory = some (hr, s')) : s.SamePrimary s' := by
  obtain ⟨s₁, hinit, ⟨-, rfl⟩ | ⟨-, hdispose⟩⟩ := initializeNew_cases hc
  · exact SamePrimary.initializeBuffer hinit
  · exact (SamePrimary.initializeBuffer hinit).trans (SamePrimary.dispose hdispose)

theorem duplicateSoundBuffer [Abi] {original : Option Ptr} {duplicate : Bool}
    (hc : s.duplicateSoundBuffer original duplicate mem = some (hr, s')) : s.SamePrimary s' := by
  obtain ⟨rfl, -⟩ | ⟨b, p, s₁, -, hcon, hc⟩ := duplicateSoundBuffer_cases hc
  · exact .refl _
  · exact (SamePrimary.construct hcon).trans (SamePrimary.initializeNew hc)

theorem bufferCall {c : BufferCall} (hc : s.bufferCall p c = some (hr, s')) :
    s.SamePrimary s' := by
  obtain ⟨b, -, hc⟩ := Option.bind_eq_some_iff.mp hc
  obtain ⟨⟨hr₁, b'⟩, -, hc⟩ := Option.bind_eq_some_iff.mp hc
  cases hc
  exact .setBuffer s p b'

theorem acquireResources {effectsCount : UInt32} {resultCodes : Bool}
    (hc : s.acquireResources p flags effectsCount resultCodes = some (hr, s')) :
    s.SamePrimary s' := by
  obtain ⟨b, -, hc⟩ := Option.bind_eq_some_iff.mp hc
  obtain ⟨dev, -, hc⟩ := Option.bind_eq_some_iff.mp hc
  obtain ⟨⟨hr₁, b', dev'⟩, -, hc⟩ := Option.bind_eq_some_iff.mp hc
  cases hc
  exact ⟨rfl, rfl, le_rfl⟩

theorem addNotifyBuffer (s : DSound8OAL) (p : Ptr) (b : Buffer) :
    s.SamePrimary (s.addNotifyBuffer p b) := by
  unfold DSound8OAL.addNotifyBuffer
  split_ifs
  · exact .refl s
  · exact ⟨rfl, rfl, le_rfl⟩

theorem play {priority : UInt32} {started : Bool}
    (hc : s.play p priority flags started = some (hr, s')) : s.SamePrimary s' := by
  obtain ⟨b, -, hc⟩ := Option.bind_eq_some_iff.mp hc
  obtain ⟨dev, -, hc⟩ := Option.bind_eq_some_iff.mp hc
  obtain ⟨⟨hr₁, b', dev', notify⟩, -, hc⟩ := Option.bind_eq_some_iff.mp hc
  cases hc
  have hset : s.SamePrimary { s.setBuffer p b' with mShared := some dev' } :=
    ⟨rfl, rfl, le_rfl⟩
  split_ifs
  · exact hset.trans (SamePrimary.addNotifyBuffer _ p b')
  · exact hset

theorem stop (hc : s.stop p = some (hr, s')) : s.SamePrimary s' := by
  obtain ⟨rfl, -⟩ | ⟨b, src, sb, s₁, b₁, -, -, -, hs₁, -, rfl⟩ := stop_cases hc
  · exact .refl _
  have h₁ : s.SamePrimary s₁ := by
    rcases hs₁ with ⟨-, rfl⟩ | ⟨-, hflush⟩
    · exact .setBuffer s p _
    · exact (SamePrimary.setBuffer s p _).trans (SamePrimary.flushNotify hflush)
  exact h₁.trans (.setBuffer s₁ p _)

theorem setNotificationPositions {notifies : Option (List (PositionNotify EventHandle))}
    (hc : s.setNotificationPositions p notifies = some (hr, s')) : s.SamePrimary s' := by
  obtain ⟨b, s₁, -, hs₁, hs'⟩ := setNotificationPositions_cases hc
  have h₁ : s.SamePrimary s₁ := by
    rcases hs₁ with ⟨-, rfl⟩ | ⟨-, hflush⟩
    · exact .refl _
    · exact SamePrimary.flushNotify hflush
  rcases hs' with rfl | ⟨b₁, newNots, -, -, rfl⟩
  · exact h₁
  · exact h₁.trans (.setBuffer s₁ p _)

theorem initializeObject {shared : Except HResult (DeviceSources × Extensions)}
    {allocs : List (Option ℕ × Bool)} : s.SamePrimary (s.initializeObject shared allocs).2 := by
  unfold DSound8OAL.initializeObject
  split
  · exact .refl s
  · cases shared with
    | error hr => exact .refl s
    | ok shared => exact ⟨rfl, rfl, le_rfl⟩

end SamePrimary

/-! ## Steps -/

/-- An operation that may change the primary buffer. -/
def TouchesPrimary : Op → Prop
  | .createSoundBuffer _ _ _ _ | .setCooperativeLevel _ _ | .eaxSet _ _ _ | .primary _
  | .listener _ _ | .commitDeferredSettings | .mix none _ _ => True
  | _ => False

/-- **Every other operation** leaves the primary buffer alone. -/
theorem SamePrimary.exec [Abi] {op : Op} (h : ¬ TouchesPrimary op)
    (hc : s.exec op = some (hr, s')) : s.SamePrimary s' := by
  cases op with
  | initializeObject shared allocs =>
      rw [← show (s.initializeObject shared allocs).2 = s' from congrArg Prod.snd
        (Option.some.inj hc)]
      exact .initializeObject
  | duplicateSoundBuffer original duplicate mem => exact .duplicateSoundBuffer hc
  | release p =>
      obtain ⟨b, -, hc⟩ := Option.bind_eq_some_iff.mp hc
      obtain ⟨s₁, hdispose, hc⟩ := Option.bind_eq_some_iff.mp hc
      cases hc
      exact .dispose hdispose
  | bufferInitialize p desc mem => exact .initializeBuffer hc
  | buffer p c => exact .bufferCall hc
  | acquireResources p flags effectsCount resultCodes => exact .acquireResources hc
  | play p priority flags started => exact .play hc
  | stop p => exact .stop hc
  | setNotificationPositions p notifies => exact .setNotificationPositions hc
  | poll =>
      obtain ⟨s₁, hpoll, hc⟩ := Option.map_eq_some_iff.mp hc
      cases hc
      exact .triggerNotifies (Option.ite_none_right_eq_some.mp hpoll).2
  | mix q offset ended =>
      obtain ⟨s₁, hmix, hc⟩ := Option.map_eq_some_iff.mp hc
      cases hc
      cases q with
      | none => exact absurd trivial h
      | some q =>
          obtain ⟨b, -, hc⟩ := Option.bind_eq_some_iff.mp hmix
          cases hc
          exact .setBuffer s q _
  | otherSources current =>
      cases hc
      exact ⟨rfl, rfl, le_rfl⟩
  | _ => exact absurd trivial h

/-! ## The methods of the listener -/


/-- The source of the write-emulation buffer shows whether that has been started. -/
def EmuSounds (s : DSound8OAL) (started : Bool) : Prop :=
  ∀ emu, s.mPrimaryBuffer.mWriteEmu = some emu → emu.Sounds started

/-- A step after which the primary buffer has the same flags and references, and the same
write-emulation buffer, with the same pan, and agrees with it as before. -/
structure PrimaryFrame (s s' : DSound8OAL) : Prop where
  emu : s'.mPrimaryBuffer.mWriteEmu.map Buffer.emuKey =
    s.mPrimaryBuffer.mWriteEmu.map Buffer.emuKey
  playing : s'.mPrimaryBuffer.mPlaying = s.mPrimaryBuffer.mPlaying
  pan : s'.mPrimaryBuffer.mPan = s.mPrimaryBuffer.mPan
  flags : s'.mPrimaryBuffer.mFlags = s.mPrimaryBuffer.mFlags
  refs : s'.mPrimaryBuffer.refs = s.mPrimaryBuffer.refs
  level : s'.mPrioLevel = s.mPrioLevel
  born : s.nextBorn ≤ s'.nextBorn
  sounds : ∀ started, s.EmuSounds started → s'.EmuSounds started

theorem SamePrimary.frame (h : s.SamePrimary s') : s.PrimaryFrame s' where
  emu := by rw [h.primary]
  playing := by rw [h.primary]
  pan := by rw [h.primary]
  flags := by rw [h.primary]
  refs := by rw [h.primary]
  level := h.level
  born := h.born
  sounds started hs emu hemu := hs emu (h.primary ▸ hemu)

namespace PrimaryFrame

theorem refl (s : DSound8OAL) : s.PrimaryFrame s := (SamePrimary.refl s).frame

theorem trans (h : s.PrimaryFrame s') (h' : s'.PrimaryFrame s'') : s.PrimaryFrame s'' where
  emu := h'.emu.trans h.emu
  playing := h'.playing.trans h.playing
  pan := h'.pan.trans h.pan
  flags := h'.flags.trans h.flags
  refs := h'.refs.trans h.refs
  level := h'.level.trans h.level
  born := h.born.trans h'.born
  sounds started hs := h'.sounds started (h.sounds started hs)

theorem setListenerParams {params : DS3DListener} {fs : ListenerFlags}
    (hc : s.setListenerParams params fs = some s') : s.PrimaryFrame s' := by
  obtain ⟨gs, rfl⟩ := eq_of_setListenerParams hc
  exact ⟨rfl, rfl, rfl, rfl, rfl, rfl, le_rfl, fun _ hs ↦ hs⟩

theorem commit (hc : s.commit = some s') : s.PrimaryFrame s' := by
  rw [commit_eq] at hc
  obtain ⟨s₁, hset, hfor⟩ := Option.bind_eq_some_iff.mp hc
  have hclear : s.PrimaryFrame s.clearDirty := ⟨rfl, rfl, rfl, rfl, rfl, rfl, le_rfl, fun _ hs ↦ hs⟩
  have hlistener := hclear.trans (PrimaryFrame.setListenerParams hset)
  exact hlistener.trans (SamePrimary.forBuffers hfor).frame

theorem eaxSet {immediate accepted : Bool}
    (hc : s.eaxSet p immediate accepted = some (hr, s')) : s.PrimaryFrame s' := by
  obtain ⟨b, -, hs'⟩ := eaxSet_cases hc
  have hgen := (SamePrimary.setBuffer s p b.genSource).frame
  obtain ⟨-, -, rfl⟩ | ⟨-, -, -, rfl⟩ | ⟨-, -, -, -, hcommit⟩ := hs'
  · exact .refl _
  · exact hgen
  · exact hgen.trans (PrimaryFrame.commit hcommit)

theorem listenerSetter {valid : Bool} {flag : ListenerFlag} {store : DS3DListener → DS3DListener}
    {write : DSound8OAL → Option DSound8OAL} {apply : UInt32}
    (hwrite : ∀ t t', write t = some t' → t.PrimaryFrame t')
    (hc : listenerSetter valid flag store write apply s = some (hr, s')) : s.PrimaryFrame s' := by
  unfold DSound8OAL.listenerSetter at hc
  split at hc
  · cases hc
    exact .refl s
  split at hc
  · cases hc
    exact ⟨rfl, rfl, rfl, rfl, rfl, rfl, le_rfl, fun _ hs ↦ hs⟩
  · obtain ⟨s₁, hw, hc⟩ := Option.bind_eq_some_iff.mp hc
    cases hc
    have hstore : s.PrimaryFrame { s with mPrimaryBuffer := { s.mPrimaryBuffer with
        mImmediate := store s.mPrimaryBuffer.mImmediate } } :=
      ⟨rfl, rfl, rfl, rfl, rfl, rfl, le_rfl, fun _ hs ↦ hs⟩
    exact hstore.trans (hwrite _ _ hw)

theorem writeListener {f : ListenerAttrs → ListenerAttrs} (t t' : DSound8OAL)
    (hc : writeListener f t = some t') : t.PrimaryFrame t' := by
  cases hc
  exact ⟨rfl, rfl, rfl, rfl, rfl, rfl, le_rfl, fun _ hs ↦ hs⟩

theorem callListener {c : ListenerCall} {apply : UInt32}
    (hc : s.callListener c apply = some (hr, s')) : s.PrimaryFrame s' := by
  cases c with
  | setAllParameters listener =>
      simp only [DSound8OAL.callListener, listenerSetAllParameters] at hc
      cases listener with
      | none =>
          cases hc
          exact .refl s
      | some params =>
          dsimp only at hc
          split at hc
          · cases hc
            exact .refl s
          split at hc
          · cases hc
            exact .refl s
          split at hc
          · cases hc
            exact ⟨rfl, rfl, rfl, rfl, rfl, rfl, le_rfl, fun _ hs ↦ hs⟩
          · obtain ⟨s₁, hset, hc⟩ := Option.bind_eq_some_iff.mp hc
            cases hc
            exact PrimaryFrame.setListenerParams hset
  | setDistanceFactor x => exact PrimaryFrame.listenerSetter writeListener hc
  | setDopplerFactor x => exact PrimaryFrame.listenerSetter writeListener hc
  | setOrientation x y z x' y' z' =>
      simp only [DSound8OAL.callListener, setOrientation] at hc
      exact PrimaryFrame.listenerSetter writeListener hc
  | setPosition x y z =>
      simp only [DSound8OAL.callListener, listenerSetPosition] at hc
      exact PrimaryFrame.listenerSetter writeListener hc
  | setRolloffFactor x =>
      exact PrimaryFrame.listenerSetter (fun _ _ hw ↦ (SamePrimary.forBuffers hw).frame) hc
  | setVelocity x y z =>
      simp only [DSound8OAL.callListener, listenerSetVelocity] at hc
      exact PrimaryFrame.listenerSetter writeListener hc

theorem mix {q : Option Ptr} {offset : UInt32} {ended : Bool}
    (hc : s.mix q offset ended = some s') : s.PrimaryFrame s' := by
  cases q with
  | none =>
      obtain ⟨emu, hemu, hc⟩ := Option.bind_eq_some_iff.mp hc
      cases hc
      refine ⟨?_, rfl, rfl, rfl, rfl, rfl, le_rfl, fun started hs ↦ ?_⟩
      · rw [hemu]
        rfl
      · rintro _ ⟨⟩
        exact (hs emu hemu).mix offset ended
  | some q =>
      obtain ⟨b, -, hc⟩ := Option.bind_eq_some_iff.mp hc
      cases hc
      exact (SamePrimary.setBuffer s q _).frame

/-- An operation that is none of the primary buffer, creates no buffer and sets no level. -/
theorem exec [Abi] {op : Op} (hc : s.exec op = some (hr, s'))
    (hcreate : ∀ desc dsBuffer outer mem, op ≠ .createSoundBuffer desc dsBuffer outer mem)
    (hlevel : ∀ level mem, op ≠ .setCooperativeLevel level mem)
    (hprimary : ∀ c, op ≠ .primary c) : s.PrimaryFrame s' := by
  by_cases htouches : TouchesPrimary op
  · cases op with
    | createSoundBuffer desc dsBuffer outer mem => exact absurd rfl (hcreate _ _ _ _)
    | setCooperativeLevel level mem => exact absurd rfl (hlevel _ _)
    | primary c => exact absurd rfl (hprimary c)
    | eaxSet p immediate accepted => exact .eaxSet hc
    | listener c apply => exact .callListener hc
    | commitDeferredSettings =>
        obtain ⟨s₁, hcommit, hc⟩ := Option.map_eq_some_iff.mp hc
        cases hc
        exact .commit hcommit
    | mix p offset ended =>
        obtain ⟨s₁, hmix, hc⟩ := Option.map_eq_some_iff.mp hc
        cases hc
        exact .mix hmix
    | _ => exact htouches.elim
  · exact (SamePrimary.exec htouches hc).frame

end PrimaryFrame

end DSound8OAL

end Dsoal
