import Dsoal.Object.Tracks

/-!
# What reaches a buffer

A `DSound8OAL` keeps its secondary buffers apart: an operation that is addressed to one of them,
or to none, reaches the others only by the walks over its lists.  These polls, losses, commits
and rolloff factors are the messages of this file, with those that an operation has for the
buffer it is addressed to (`Op.Sends`).

`Moves` is what a step does that creates no buffer.  It is composed of the changes a method is
made of, and from it one reads what an operation leaves alone (`buffers_apart`).
-/

namespace Dsoal

open TransitionSystem Relation

/-- What an object does to one of its buffers. -/
inductive Message where
  /-- A poll, by the notify thread or another method. -/
  | poll
  /-- The rolloff factor of the listener. -/
  | rolloff (rolloffFactor : Float32)
  | commit (parent : Parent)
  /-- The level `DSSCL_WRITEPRIMARY` is entered. -/
  | lose
  | call (parent : Parent) (c : BufferCall)
  | acquireResources (parent : Parent) (dev : DeviceSources) (flags effectsCount : UInt32)
    (resultCodes : Bool)
  | play (parent : Parent) (dev : DeviceSources) (priority flags : UInt32) (started : Bool)
  | stop
  | notifies (newNots : List (PositionNotify EventHandle))
  | genSource
  | mix (offset : UInt32) (ended : Bool)

namespace Message

/-- The buffer after a message. -/
def Changes (b b' : Buffer) : Message → Prop
  | .poll => b' = b.poll
  | .rolloff rolloffFactor => b' = b.writeRolloff rolloffFactor
  | .commit parent => b' = b.commit parent
  | .lose => b' = { b with mBufferLost := true }
  | .call parent c => ∃ hr, b.call parent c = some (hr, b')
  | .acquireResources parent dev flags effectsCount resultCodes => ∃ hr dev',
    b.acquireResources parent dev flags effectsCount resultCodes = some (hr, b', dev')
  | .play parent dev priority flags started => ∃ hr dev' notify,
    b.play parent dev priority flags started = some (hr, b', dev', notify)
  | .stop => ∃ sb src, b.mBuffer = some sb ∧ b.mSource = some src ∧
    b' = DSound8OAL.stopped b sb src
  | .notifies newNots => b' = { b with mNotifies := newNots }
  | .genSource => b' = b.genSource
  | .mix offset ended => b' = b.mix offset ended

/-- The message is one of the listener's. -/
def OfListener (m : Message) : Prop := ∃ rolloffFactor, m = .rolloff rolloffFactor

/-- The message is one of a commit. -/
def OfCommit (m : Message) : Prop := m.OfListener ∨ ∃ parent, m = .commit parent

end Message

namespace Op

/-- The messages an operation may have for the buffer at `q`. -/
def Sends (q : Ptr) (m : Message) : Op → Prop
  | .createSoundBuffer .. | .listener .. | .primary (.initializePrimary ..) => m.OfListener
  | .setCooperativeLevel .. => m = .lose
  | .buffer p c => q = p ∧ ∃ parent, m = .call parent c
  | .acquireResources p flags effectsCount resultCodes => q = p ∧ ∃ parent dev,
    m = .acquireResources parent dev flags effectsCount resultCodes
  | .play p priority flags started => q = p ∧ ∃ parent dev,
    m = .play parent dev priority flags started
  | .stop p => m = .poll ∨ q = p ∧ m = .stop
  | .setNotificationPositions p _ => m = .poll ∨ q = p ∧ ∃ newNots, m = .notifies newNots
  | .eaxSet p immediate _ => q = p ∧ m = .genSource ∨ immediate = true ∧ m.OfCommit
  | .commitDeferredSettings => m.OfCommit
  | .poll => m = .poll
  | .mix (some p) offset ended => q = p ∧ m = .mix offset ended
  | _ => False

/-- The buffer at `q` gets a message of an operation. -/
def Reaches (op : Op) (q : Ptr) (b b' : Buffer) : Prop := ∃ m, op.Sends q m ∧ m.Changes b b'

/-- The buffer an operation is addressed to. -/
def target : Op → Option Ptr
  | .release p | .bufferInitialize p .. | .buffer p _ | .acquireResources p .. | .play p ..
  | .stop p | .setNotificationPositions p _ | .eaxSet p .. => some p
  | .mix p .. => p
  | _ => none

/-- The operation creates secondary buffers, or destroys them. -/
def resizes : Op → Bool
  | .createSoundBuffer .. | .duplicateSoundBuffer .. | .release _ => true
  | _ => false

/-- The operation commits the deferred settings, if it is accepted. -/
def commits : Op → Bool
  | .commitDeferredSettings => true
  | .eaxSet _ immediate _ => immediate
  | _ => false

end Op

namespace DSound8OAL

variable {R : Ptr → Buffer → Buffer → Prop} {s s' s'' s₁ : DSound8OAL} {p q : Ptr}
  {b b' : Buffer} {hr : HResult} {mem : Memory}

/-- No buffer is created, and the others are changed as `R` says, any number of times. -/
structure Moves [Abi] (R : Ptr → Buffer → Buffer → Prop) (s s' : DSound8OAL) : Prop where
  pool : PoolOk s'.mSecondaryBuffers
  buffers : ∀ q b', s'.getBuffer q = some b' →
    ∃ b, s.getBuffer q = some b ∧ ReflTransGen (R q) b b'

namespace Moves

variable [Abi]

theorem refl (h : PoolOk s.mSecondaryBuffers) : Moves R s s := ⟨h, fun _ b' hb' ↦ ⟨b', hb', .refl⟩⟩

theorem trans (h : Moves R s s') (h' : Moves R s' s'') : Moves R s s'' where
  pool := h'.pool
  buffers q b'' hb'' := by
    obtain ⟨b', hb', htail⟩ := h'.buffers q b'' hb''
    obtain ⟨b, hb, hhead⟩ := h.buffers q b' hb'
    exact ⟨b, hb, hhead.trans htail⟩

/-- A change of what is outside the buffers. -/
theorem congr (h : Moves R s s') (t : DSound8OAL)
    (hgs : t.mSecondaryBuffers = s'.mSecondaryBuffers) : Moves R s t where
  pool := hgs ▸ h.pool
  buffers q b' hb' := by
    refine h.buffers q b' ?_
    rw [getBuffer, ← hgs]
    exact hb'

/-- **A change of one buffer.** -/
theorem setBuffer (h : Moves R s s') (hb : s'.getBuffer p = some b) (hR : R p b b') :
    Moves R s (s'.setBuffer p b') := by
  refine h.trans ⟨poolOk_setBuffer h.pool p b', fun q b₁ hb₁ ↦ ?_⟩
  rw [getBuffer_setBuffer h.pool hb] at hb₁
  split_ifs at hb₁ with hq
  · cases hb₁
    exact ⟨b, hq ▸ hb, .single (hq ▸ hR)⟩
  · exact ⟨b₁, hb₁, .refl⟩

/-! ## Walks over the buffers -/

/-- **A loop** over the buffers of a list. -/
theorem forBuffers (h : Moves R s s') {f : Buffer → Buffer} (hf : ∀ q b, R q b (f b))
    {es : List Registered} (hc : forBuffers f es s' = some s'') : Moves R s s'' := by
  induction es generalizing s' with
  | nil =>
      cases hc
      exact h
  | cons e es ih =>
      obtain ⟨b, hb, hc⟩ := Option.bind_eq_some_iff.mp hc
      exact ih (h.setBuffer hb (hf e.ptr b)) hc

theorem setListenerParams (h : Moves R s s')
    (hroll : ∀ q b rolloffFactor, R q b (b.writeRolloff rolloffFactor)) {params : DS3DListener}
    {flags : ListenerFlags} (hc : s'.setListenerParams params flags = some s'') :
    Moves R s s'' := by
  unfold DSound8OAL.setListenerParams at hc
  dsimp only at hc
  split_ifs at hc
  · refine Moves.forBuffers ?_ (fun q b ↦ hroll q b _) hc
    exact h.congr _ rfl
  · cases hc
    exact h.congr _ rfl

theorem commit (h : Moves R s s')
    (hroll : ∀ q b rolloffFactor, R q b (b.writeRolloff rolloffFactor))
    (hcommit : ∀ q b parent, R q b (b.commit parent)) (hc : s'.commit = some s'') :
    Moves R s s'' := by
  rw [commit_eq] at hc
  obtain ⟨s₁, hs₁, hc⟩ := Option.bind_eq_some_iff.mp hc
  have hclean : Moves R s s'.clearDirty := h.congr _ rfl
  exact (hclean.setListenerParams hroll hs₁).forBuffers (fun q b ↦ hcommit q b _) hc

theorem callListener (h : Moves R s s')
    (hroll : ∀ q b rolloffFactor, R q b (b.writeRolloff rolloffFactor)) {c : ListenerCall}
    {apply : UInt32} (hc : s'.callListener c apply = some (hr, s'')) : Moves R s s'' := by
  obtain ⟨-, -, rfl⟩ | ⟨F, P, -, -, ⟨-, n, rfl⟩ | ⟨-, hset⟩⟩ := callListener_cases hc
  · exact h
  · exact h.congr _ rfl
  · exact h.setListenerParams hroll hset

/-- What a poll does to the buffers. -/
theorem of_polled (hpool : PoolOk s'.mSecondaryBuffers) (hpoll : ∀ q b, R q b b.poll)
    (hpolled : ∀ q b', s'.getBuffer q = some b' →
      ∃ b, s.getBuffer q = some b ∧ (b' = b ∨ b' = b.poll)) : Moves R s s' where
  pool := hpool
  buffers q b' hb' := by
    obtain ⟨b, hb, rfl | rfl⟩ := hpolled q b' hb'
    · exact ⟨b', hb, .refl⟩
    · exact ⟨b, hb, .single (hpoll q b)⟩

theorem triggerNotifies (h : PoolOk s.mSecondaryBuffers) (hpoll : ∀ q b, R q b b.poll)
    (hc : s.triggerNotifies = some s') : Moves R s s' := by
  obtain ⟨hpool, -, -, hpolled⟩ := getBuffer_triggerNotifies h hc
  exact of_polled hpool hpoll hpolled

theorem loseBuffers (h : Moves R s s') (hlose : ∀ q b, R q b { b with mBufferLost := true })
    {ps : List Ptr} (hc : loseBuffers ps s' = some (hr, s'')) : Moves R s s'' := by
  refine loseBuffers_induction (fun t q b hb (ht : Moves R s t) ↦ ?_) h hc
  exact ht.setBuffer hb (hlose q b)

/-! ## The write-emulation buffer -/

theorem destroyWriteEmu (h : Moves R s s') (hc : s'.destroyWriteEmu = some s'') :
    Moves R s s'' := by
  obtain ⟨-, rfl⟩ | ⟨emu, shared, -, -, rfl⟩ := destroyWriteEmu_cases hc
  · exact h
  · exact h.congr _ rfl

theorem createWriteEmu (h : Moves R s s') {flags : UInt32}
    (hc : s'.createWriteEmu flags mem = some (hr, s'')) : Moves R s s'' := by
  obtain ⟨-, -, rfl⟩ | ⟨-, ⟨-, rfl⟩ | ⟨emu, dev, emu', dev', ha, -, hinit, hs'⟩⟩ :=
    createWriteEmu_cases hc
  · exact h
  · exact h.congr _ rfl
  obtain ⟨-, shared, -, rfl⟩ | ⟨-, s₁, hs₁, rfl⟩ := hs'
  · exact h.congr _ rfl
  · have hcounted : Moves R s { s' with mShared := some dev', nextBorn := s'.nextBorn + 1 } :=
      h.congr _ rfl
    exact (hcounted.destroyWriteEmu hs₁).congr _ rfl

/-! ## The primary buffer -/

theorem primaryInitialize (h : Moves R s s')
    (hroll : ∀ q b rolloffFactor, R q b (b.writeRolloff rolloffFactor)) {desc : Option BufferDesc}
    (hc : s'.primaryInitialize desc mem = some (hr, s'')) : Moves R s s'' := by
  obtain ⟨-, rfl, -⟩ | ⟨d, hr₁, s₁, -, -, hs₁, hs'⟩ := primaryInitialize_cases hc
  · exact h
  have h₁ : Moves R s s₁ := by
    obtain ⟨-, s₀, hdestroy, hcreate⟩ | ⟨-, -, rfl⟩ := hs₁
    · exact (h.destroyWriteEmu hdestroy).createWriteEmu hcreate
    · exact h
  obtain ⟨-, -, rfl⟩ | ⟨-, -, hset⟩ := hs'
  · exact h₁
  · have hreset : Moves R s (s₁.resetPrimary d.dwFlags) := h₁.congr _ rfl
    exact hreset.setListenerParams hroll hset

theorem createPrimary (h : Moves R s s')
    (hroll : ∀ q b rolloffFactor, R q b (b.writeRolloff rolloffFactor)) {desc : BufferDesc}
    (hc : s'.createPrimary desc mem = some (hr, s'')) : Moves R s s'' := by
  have hadd : Moves R s { s' with mPrimaryBuffer := s'.mPrimaryBuffer.addRef.2 } := h.congr _ rfl
  obtain ⟨s₁, -, hinit, hs'⟩ | ⟨-, -, rfl⟩ := createPrimary_cases hc
  · have h₁ := hadd.primaryInitialize hroll hinit
    obtain ⟨-, rfl⟩ | ⟨-, rfl⟩ := hs'
    · exact h₁.congr _ rfl
    · exact h₁
  · exact hadd

theorem setFormat (h : Moves R s s') {wfx : Option WaveFormat}
    (hc : s'.setFormat wfx mem = some (hr, s'')) : Moves R s s'' := by
  obtain ⟨rfl, -⟩ | ⟨format, -, hs'⟩ := setFormat_cases hc
  · exact h
  obtain ⟨-, rfl⟩ | ⟨-, s₁, hdestroy, hcreate⟩ := hs'
  · exact h.congr _ rfl
  · have hformat : Moves R s
        { s' with mPrimaryBuffer := { s'.mPrimaryBuffer with mFormat := format } } :=
      h.congr _ rfl
    exact (hformat.destroyWriteEmu hdestroy).createWriteEmu hcreate

/-- **Every call on the primary buffer.** -/
theorem primaryCall (h : Moves R s s') {c : PrimaryCall}
    (hroll : ∀ desc mem, c = .initializePrimary desc mem →
      ∀ q b rolloffFactor, R q b (b.writeRolloff rolloffFactor))
    (hc : s'.primaryCall c = some (hr, s'')) : Moves R s s'' := by
  cases c with
  | addRef | release | listenerAddRef | listenerRelease | propAddRef | propRelease =>
      cases hc
      exact h.congr _ rfl
  | initializePrimary desc mem => exact h.primaryInitialize (hroll desc mem rfl) hc
  | play priority flags started =>
      obtain ⟨-, -, rfl⟩ | ⟨-, -, rfl⟩ | ⟨emu, dev, emu', dev', notify, -, -, -, rfl⟩ :=
        primaryPlay_cases hc
      · exact h
      · exact h.congr _ rfl
      · exact h.congr _ rfl
  | stop =>
      obtain ⟨-, -, rfl⟩ | ⟨emu, sb, stopped, hr₁, emu', -, -, -, -, -, rfl⟩ :=
        primaryStop_cases hc
      · exact h.congr _ rfl
      · exact h.congr _ rfl
  | setFormat wfx mem => exact h.setFormat hc
  | setVolume volume =>
      have hs' : (s'.primarySetVolume volume).2 = s'' := congrArg Prod.snd (Option.some.inj hc)
      rw [← hs', DSound8OAL.primarySetVolume]
      split_ifs
      · exact h
      · exact h
      · exact h.congr _ rfl
  | setPan pan =>
      obtain ⟨-, rfl⟩ | ⟨-, -, rfl⟩ | ⟨emu, emu', -, -, rfl⟩ := primarySetPan_cases hc
      · exact h
      · exact h.congr _ rfl
      · exact h.congr _ rfl
  | restore =>
      have hs' : s'.primaryRestore.2 = s'' := congrArg Prod.snd (Option.some.inj hc)
      rw [← hs', DSound8OAL.primaryRestore]
      split
      · exact h
      · exact h.congr _ rfl

/-! ## Calls on a buffer -/

theorem bufferCall (h : Moves R s s') {c : BufferCall}
    (hcall : ∀ b b' parent hr, b.call parent c = some (hr, b') → R p b b')
    (hc : s'.bufferCall p c = some (hr, s'')) : Moves R s s'' := by
  obtain ⟨b, hb, hc⟩ := Option.bind_eq_some_iff.mp hc
  obtain ⟨⟨hr₁, b'⟩, hb', hc⟩ := Option.bind_eq_some_iff.mp hc
  cases hc
  exact h.setBuffer hb (hcall b b' _ _ hb')

theorem acquireResources (h : Moves R s s') {flags effectsCount : UInt32} {resultCodes : Bool}
    (hacquire : ∀ b b' parent dev dev' hr, b.acquireResources parent dev flags effectsCount
      resultCodes = some (hr, b', dev') → R p b b')
    (hc : s'.acquireResources p flags effectsCount resultCodes = some (hr, s'')) :
    Moves R s s'' := by
  obtain ⟨b, hb, hc⟩ := Option.bind_eq_some_iff.mp hc
  obtain ⟨dev, -, hc⟩ := Option.bind_eq_some_iff.mp hc
  obtain ⟨⟨hr₁, b', dev'⟩, hb', hc⟩ := Option.bind_eq_some_iff.mp hc
  cases hc
  exact (h.setBuffer hb (hacquire b b' _ _ _ _ hb')).congr _ rfl

theorem play (h : Moves R s s') {priority flags : UInt32} {started : Bool}
    (hplay : ∀ b b' parent dev dev' notify hr, b.play parent dev priority flags started =
      some (hr, b', dev', notify) → R p b b')
    (hc : s'.play p priority flags started = some (hr, s'')) : Moves R s s'' := by
  obtain ⟨b, hb, hc⟩ := Option.bind_eq_some_iff.mp hc
  obtain ⟨dev, -, hc⟩ := Option.bind_eq_some_iff.mp hc
  obtain ⟨⟨hr₁, b', dev', notify⟩, hb', hc⟩ := Option.bind_eq_some_iff.mp hc
  cases hc
  have hset := h.setBuffer hb (hplay b b' _ _ _ _ _ hb')
  split_ifs
  · unfold addNotifyBuffer
    split_ifs
    · exact hset.congr _ rfl
    · exact hset.congr _ rfl
  · exact hset.congr _ rfl

/-- `Stop` polls other buffers, and stops the buffer. -/
theorem stop (h : PoolOk s.mSecondaryBuffers) (hpoll : ∀ q b, R q b b.poll)
    (hstop : ∀ b sb src, b.mBuffer = some sb → b.mSource = some src → R p b (stopped b sb src))
    (hc : s.stop p = some (hr, s')) : Moves R s s' := by
  obtain ⟨rfl, -⟩ | ⟨b, src, sb, hb, hsource, hsb, hpool, -, -, hb', hothers⟩ :=
    getBuffer_stop h hc
  · exact .refl h
  refine ⟨hpool, fun q b₁ hb₁ ↦ ?_⟩
  by_cases hq : q = p
  · subst hq
    obtain rfl : stopped b sb src = b₁ := Option.some.inj (hb'.symm.trans hb₁)
    exact ⟨b, hb, .single (hstop b sb src hsb hsource)⟩
  · obtain ⟨b₀, hb₀, rfl | rfl⟩ := hothers q b₁ hq hb₁
    · exact ⟨b₁, hb₀, .refl⟩
    · exact ⟨b₀, hb₀, .single (hpoll q b₀)⟩

theorem setNotificationPositions (h : PoolOk s.mSecondaryBuffers) (hpoll : ∀ q b, R q b b.poll)
    (hnotifies : ∀ b newNots, R p b { b with mNotifies := newNots })
    {notifies : Option (List (PositionNotify EventHandle))}
    (hc : s.setNotificationPositions p notifies = some (hr, s')) : Moves R s s' := by
  obtain ⟨b, s₁, -, hs₁, hs'⟩ := setNotificationPositions_cases hc
  have h₁ : Moves R s s₁ := by
    rcases hs₁ with ⟨-, rfl⟩ | ⟨-, hflush⟩
    · exact .refl h
    · obtain ⟨s₂, hs₂, rfl⟩ := Option.map_eq_some_iff.mp hflush
      exact (triggerNotifies h hpoll hs₂).congr _ rfl
  rcases hs' with rfl | ⟨b₁, newNots, -, hb₁, rfl⟩
  · exact h₁
  · exact h₁.setBuffer hb₁ (hnotifies b₁ newNots)

theorem eaxSet (h : Moves R s s') {immediate accepted : Bool}
    (hgen : ∀ b, R p b b.genSource)
    (hroll : immediate = true → ∀ q b rolloffFactor, R q b (b.writeRolloff rolloffFactor))
    (hcommit : immediate = true → ∀ q b parent, R q b (b.commit parent))
    (hc : s'.eaxSet p immediate accepted = some (hr, s'')) : Moves R s s'' := by
  obtain ⟨b, hb, hs''⟩ := eaxSet_cases hc
  have hset := h.setBuffer hb (hgen b)
  obtain ⟨-, -, rfl⟩ | ⟨-, -, -, rfl⟩ | ⟨-, -, himm, -, hs''⟩ := hs''
  · exact h
  · exact hset
  · exact hset.commit (hroll himm) (hcommit himm) hs''

/-! ## The level, and the first call -/

/-- **`SetCooperativeLevel`** loses buffers. -/
theorem setCooperativeLevel (h : Moves R s s') (hlose : ∀ q b, R q b { b with mBufferLost := true })
    {level : UInt32} (hc : s'.setCooperativeLevel level mem = some (hr, s'')) : Moves R s s'' := by
  obtain ⟨rfl, -⟩ | ⟨s₁, rfl, -, -, hs₁⟩ := setCooperativeLevel_cases hc
  · exact h
  have h₁ : Moves R s s₁ := by
    obtain ⟨-, henter⟩ | ⟨-, -, hdestroy⟩ | ⟨-, -, rfl⟩ := hs₁
    · obtain ⟨s₂, hr₂, s₃, hdestroy, hwalk, hs₁⟩ := enterWritePrimary_cases henter
      have h₃ := (h.destroyWriteEmu hdestroy).loseBuffers hlose hwalk
      obtain ⟨-, -, rfl⟩ | ⟨-, -, hcreate⟩ | ⟨-, -, -, rfl⟩ := hs₁
      · exact h₃
      · exact h₃.createWriteEmu hcreate
      · exact h₃
    · exact h.destroyWriteEmu hdestroy
    · exact h
  split_ifs
  · exact h₁.congr _ rfl
  · exact h₁

/-- `Initialize` allocates groups without buffers. -/
theorem initializeObject (h : PoolOk s.mSecondaryBuffers)
    {shared : Except HResult (DeviceSources × Extensions)} {allocs : List (Option ℕ × Bool)}
    (hlegal : (Op.initializeObject shared allocs).Legal s) :
    Moves R s (s.initializeObject shared allocs).2 := by
  unfold DSound8OAL.initializeObject
  split_ifs
  · exact .refl h
  · rcases shared with hr | ⟨dev, exts⟩
    · exact .refl h
    · refine ⟨h.preallocate hlegal.2, fun q b' hb' ↦ ⟨b', ?_, .refl⟩⟩
      exact (lookup_preallocate allocs s.mSecondaryBuffers q).symm.trans hb'

end Moves

/-! ## Creating and destroying buffers -/

section Created

variable [Abi]

/-- The last `Release` of a buffer changes no other. -/
theorem getBuffer_dispose (h : PoolOk s.mSecondaryBuffers) (hb : s.getBuffer p = some b)
    (hc : s.dispose p = some s') (q : Ptr) :
    s'.getBuffer q = if q = p then none else s.getBuffer q := by
  obtain ⟨shared, -, rfl⟩ := dispose_eq h hb hc
  have hlive : (lookup p s.mSecondaryBuffers).isSome := Option.isSome_iff_exists.mpr ⟨b, hb⟩
  exact h.lookup_dispose hlive q

/-- **`Initialize`** changes no other buffer. -/
theorem getBuffer_initializeBuffer (h : PoolOk s.mSecondaryBuffers) {desc : Option BufferDesc}
    {memory : Bool} (hb : s.getBuffer p = some b)
    (hc : s.initializeBuffer p desc memory = some (hr, s')) :
    b.attach s.mExtensions desc memory = .error hr ∧ s' = s ∨
    ∃ b₁ b₂ parent dev dev', b.attach s.mExtensions desc memory = .ok b₁ ∧
      b₁.initLocation parent dev = some (hr, b₂, dev') ∧ PoolOk s'.mSecondaryBuffers ∧
      ∀ q, s'.getBuffer q = if q = p then some b₂ else s.getBuffer q := by
  obtain ⟨b₀, hb₀, hc⟩ := Option.bind_eq_some_iff.mp hc
  obtain rfl : b = b₀ := Option.some.inj (hb.symm.trans hb₀)
  cases ha : b.attach s.mExtensions desc memory with
  | error hr₁ =>
      simp only [ha] at hc
      cases hc
      exact .inl ⟨rfl, rfl⟩
  | ok b₁ =>
      simp only [ha, register_eq] at hc
      obtain ⟨dev, -, hc⟩ := Option.bind_eq_some_iff.mp hc
      obtain ⟨⟨hr₁, b₂, dev'⟩, hloc, hc⟩ := Option.bind_eq_some_iff.mp hc
      cases hc
      exact .inr ⟨b₁, b₂, _, dev, dev', rfl, hloc, poolOk_setBuffer h p b₂,
        getBuffer_setBuffer h hb b₂⟩

/-- **Creating a buffer** takes a free slot for it, and if that fails frees it again; no other
buffer is changed. -/
theorem getBuffer_initializeNew (h : PoolOk s.mSecondaryBuffers)
    (hfresh : ∀ base, mem.group = some base → FreshBase base s.mSecondaryBuffers)
    (hcon : s.construct b mem = some (p, s₁)) {desc : Option BufferDesc} {memory : Bool}
    (hc : s₁.initializeNew p desc memory = some (hr, s')) :
    s.getBuffer p = none ∧
      (hr = .ok ∧ (∃ b₁ b₂ parent dev dev', b.attach s.mExtensions desc memory = .ok b₁ ∧
          b₁.initLocation parent dev = some (hr, b₂, dev') ∧
          ∀ q, s'.getBuffer q = if q = p then some b₂ else s.getBuffer q) ∨
        hr ≠ .ok ∧ ∀ q, s'.getBuffer q = s.getBuffer q) := by
  obtain ⟨gs, hs₁, hpool, hfree, hlook⟩ := construct_eq h hfresh hcon
  have hget₁ : ∀ q, s₁.getBuffer q = if q = p then some b else s.getBuffer q := by
    rw [hs₁]
    exact hlook
  have hb : s₁.getBuffer p = some b := (hget₁ p).trans (if_pos rfl)
  have hexts : s₁.mExtensions = s.mExtensions := by rw [hs₁]
  replace hpool : PoolOk s₁.mSecondaryBuffers := by rwa [hs₁]
  refine ⟨hfree, ?_⟩
  obtain ⟨s₂, hinit, hs'⟩ := initializeNew_cases hc
  have hgone : ∀ {b₂} q, (if q = p then none else if q = p then some b₂ else s.getBuffer q) =
      s.getBuffer q := by
    intro b₂ q
    split_ifs with hq
    · rw [hq, hfree]
    · rfl
  obtain ⟨ha, rfl⟩ | ⟨b₁, b₂, parent, dev, dev', ha, hloc, hpool₂, hget₂⟩ :=
    getBuffer_initializeBuffer hpool hb hinit
  · obtain ⟨rfl, -⟩ | ⟨hfail, hdispose⟩ := hs'
    · exact absurd rfl (Buffer.attach_error ha)
    · refine .inr ⟨hfail, fun q ↦ ?_⟩
      rw [getBuffer_dispose hpool hb hdispose, hget₁ q, hgone]
  · rw [hexts] at ha
    have hget : ∀ q, s₂.getBuffer q = if q = p then some b₂ else s.getBuffer q := by
      intro q
      rw [hget₂ q]
      split_ifs with hq
      · rfl
      · exact (hget₁ q).trans (if_neg hq)
    obtain ⟨rfl, rfl⟩ | ⟨hfail, hdispose⟩ := hs'
    · exact .inl ⟨rfl, b₁, b₂, parent, dev, dev', ha, hloc, hget⟩
    · refine .inr ⟨hfail, fun q ↦ ?_⟩
      rw [getBuffer_dispose hpool₂ ((hget p).trans (if_pos rfl)) hdispose, hget q, hgone]

/-- A buffer stays as it is when another one is created. -/
theorem getBuffer_of_initializeNew (h : PoolOk s.mSecondaryBuffers)
    (hfresh : ∀ base, mem.group = some base → FreshBase base s.mSecondaryBuffers)
    (hcon : s.construct b mem = some (p, s₁)) {desc : Option BufferDesc} {memory : Bool}
    (hc : s₁.initializeNew p desc memory = some (hr, s')) {b₀ : Buffer}
    (hq : s.getBuffer q = some b₀) : s'.getBuffer q = some b₀ := by
  obtain ⟨hfree, ⟨-, b₁, b₂, parent, dev, dev', -, -, hget⟩ | ⟨-, hget⟩⟩ :=
    getBuffer_initializeNew h hfresh hcon hc
  · have hne : q ≠ p := by
      rintro rfl
      rw [hfree] at hq
      cases hq
    rw [hget q, if_neg hne, hq]
  · rw [hget q, hq]

end Created

end DSound8OAL

/-! ## Steps -/

namespace DSoundStep

open DSound8OAL

variable [Abi] {s s' : DSound8OAL} {op : Op} {q : Ptr} {b b' : Buffer}

/-- **What a step does to the buffers there are**, unless it creates or destroys one. -/
theorem moves (h : s.Ok) (hs : DSoundStep s op s') (hop : op.resizes = false) :
    Moves op.Reaches s s' := by
  obtain ⟨hlegal, hr, hc⟩ := hs
  have hrefl : Moves op.Reaches s s := .refl h.pool
  cases op with
  | initializeObject shared allocs =>
      have hs' : (s.initializeObject shared allocs).2 = s' := congrArg Prod.snd (Option.some.inj hc)
      rw [← hs']
      exact .initializeObject h.pool hlegal
  | createSoundBuffer | duplicateSoundBuffer | release => exact nomatch hop
  | setCooperativeLevel level mem =>
      exact hrefl.setCooperativeLevel (fun q b ↦ ⟨_, rfl, rfl⟩) hc
  | bufferInitialize p desc mem =>
      obtain ⟨b, hb, -⟩ := Option.bind_eq_some_iff.mp hc
      have ha : b.attach s.mExtensions desc mem.samples = .error .alreadyInitialized :=
        if_pos (h.buffers p b hb).2.1
      obtain ⟨-, rfl⟩ | ⟨b₁, b₂, parent, dev, dev', ha', -⟩ :=
        getBuffer_initializeBuffer h.pool hb hc
      · exact hrefl
      · exact nomatch ha.symm.trans ha'
  | buffer p c =>
      refine hrefl.bufferCall (fun b b' parent hr hcall ↦ ?_) hc
      exact ⟨_, ⟨rfl, parent, rfl⟩, hr, hcall⟩
  | acquireResources p flags effectsCount resultCodes =>
      refine hrefl.acquireResources (fun b b' parent dev dev' hr hcall ↦ ?_) hc
      exact ⟨_, ⟨rfl, parent, dev, rfl⟩, hr, dev', hcall⟩
  | play p priority flags started =>
      refine hrefl.play (fun b b' parent dev dev' notify hr hcall ↦ ?_) hc
      exact ⟨_, ⟨rfl, parent, dev, rfl⟩, hr, dev', notify, hcall⟩
  | stop p =>
      refine .stop h.pool (fun q b ↦ ⟨_, .inl rfl, rfl⟩) ?_ hc
      exact fun b sb src hsb hsource ↦ ⟨_, .inr ⟨rfl, rfl⟩, sb, src, hsb, hsource, rfl⟩
  | setNotificationPositions p notifies =>
      refine .setNotificationPositions h.pool (fun q b ↦ ⟨_, .inl rfl, rfl⟩) ?_ hc
      exact fun b newNots ↦ ⟨_, .inr ⟨rfl, newNots, rfl⟩, rfl⟩
  | eaxSet p immediate accepted =>
      refine hrefl.eaxSet (fun b ↦ ⟨_, .inl ⟨rfl, rfl⟩, rfl⟩) ?_ ?_ hc
      · exact fun himm q b r ↦ ⟨_, .inr ⟨himm, .inl ⟨r, rfl⟩⟩, rfl⟩
      · exact fun himm q b parent ↦ ⟨_, .inr ⟨himm, .inr ⟨parent, rfl⟩⟩, rfl⟩
  | primary c =>
      refine hrefl.primaryCall ?_ hc
      rintro desc mem rfl q b r
      exact ⟨_, ⟨r, rfl⟩, rfl⟩
  | listener c apply => exact hrefl.callListener (fun q b r ↦ ⟨_, ⟨r, rfl⟩, rfl⟩) hc
  | commitDeferredSettings =>
      obtain ⟨s₁, hs₁, heq⟩ := Option.map_eq_some_iff.mp hc
      cases heq
      refine hrefl.commit ?_ ?_ hs₁
      · exact fun q b r ↦ ⟨_, .inl ⟨r, rfl⟩, rfl⟩
      · exact fun q b parent ↦ ⟨_, .inr ⟨parent, rfl⟩, rfl⟩
  | poll =>
      obtain ⟨s₁, hs₁, heq⟩ := Option.map_eq_some_iff.mp hc
      cases heq
      simp only [DSound8OAL.poll, Option.ite_none_right_eq_some] at hs₁
      exact .triggerNotifies h.pool (fun q b ↦ ⟨_, rfl, rfl⟩) hs₁.2
  | mix p offset ended =>
      obtain ⟨s₁, hs₁, heq⟩ := Option.map_eq_some_iff.mp hc
      cases heq
      cases p with
      | none =>
          obtain ⟨emu, -, hs₁⟩ := Option.bind_eq_some_iff.mp hs₁
          cases hs₁
          exact hrefl.congr _ rfl
      | some p =>
          obtain ⟨b₁, hb₁, hs₁⟩ := Option.bind_eq_some_iff.mp hs₁
          cases hs₁
          exact hrefl.setBuffer hb₁ ⟨_, ⟨rfl, rfl⟩, rfl⟩
  | otherSources current =>
      cases hc
      exact hrefl.congr _ rfl

/-- **Step lemma**: a step gets to a buffer by its messages only. -/
theorem reaches (h : s.Ok) (hs : DSoundStep s op s') (hb : s.getBuffer q = some b)
    (hb' : s'.getBuffer q = some b') : ReflTransGen (op.Reaches q) b b' := by
  have hsame : s'.getBuffer q = s.getBuffer q → ReflTransGen (op.Reaches q) b b' := by
    intro heq
    obtain rfl : b' = b := Option.some.inj (hb'.symm.trans (heq.trans hb))
    exact .refl
  have hmoves : Moves op.Reaches s s' → ReflTransGen (op.Reaches q) b b' := by
    intro hm
    obtain ⟨b₁, hb₁, hreach⟩ := hm.buffers q b' hb'
    obtain rfl : b₁ = b := Option.some.inj (hb₁.symm.trans hb)
    exact hreach
  by_cases hop : op.resizes = false
  · exact hmoves (hs.moves h hop)
  obtain ⟨hlegal, hr, hc⟩ := hs
  cases op with
  | createSoundBuffer desc dsBuffer outer mem =>
      obtain ⟨rfl, -⟩ | ⟨desc, -, ⟨-, hc⟩ | ⟨-, -, p, s₁, hcon, hc⟩⟩ :=
        createSoundBuffer_cases hc
      · exact hsame rfl
      · exact hmoves ((Moves.refl h.pool).createPrimary (fun q b r ↦ ⟨_, ⟨r, rfl⟩, rfl⟩) hc)
      · exact hsame ((getBuffer_of_initializeNew h.pool hlegal hcon hc hb).trans hb.symm)
  | duplicateSoundBuffer original duplicate mem =>
      obtain ⟨rfl, -⟩ | ⟨b₁, p, s₁, -, hcon, hc⟩ := duplicateSoundBuffer_cases hc
      · exact hsame rfl
      · exact hsame ((getBuffer_of_initializeNew h.pool hlegal hcon hc hb).trans hb.symm)
  | release p =>
      obtain ⟨b₁, hb₁, hc⟩ := Option.bind_eq_some_iff.mp hc
      obtain ⟨s₁, hs₁, hc⟩ := Option.bind_eq_some_iff.mp hc
      cases hc
      have hget := getBuffer_dispose h.pool hb₁ hs₁ q
      rw [hb'] at hget
      split_ifs at hget
      exact hsame (hb'.trans hget)
  | _ => exact absurd rfl hop

/-- A buffer that is not released stays, with its storage. -/
theorem stays_storage (h : s.Ok) (hs : DSoundStep s op s') (hop : op ≠ .release q)
    (hb : s.getBuffer q = some b) : ∃ b', s'.getBuffer q = some b' ∧ b'.mBuffer = b.mBuffer := by
  cases hs.outcome h with
  | keeps hk => exact (hk.buffer hb).imp fun b' hb' ↦ ⟨hb'.1, hb'.2.storage⟩
  | created p b₁ hc =>
      have hne : q ≠ p := by
        rintro rfl
        rw [hc.free] at hb
        cases hb
      exact ⟨b, (hc.others q hne).trans hb, rfl⟩
  | removed p hr hrel =>
      have hne : q ≠ p := by
        rintro rfl
        exact hop hrel
      exact ⟨b, (hr.others q hne).trans hb, rfl⟩
  | levels level hl =>
      obtain ⟨⟨s₁, hk, rfl⟩, -⟩ := hl
      exact (hk.buffer hb).imp fun b' hb' ↦ ⟨hb'.1, hb'.2.storage⟩
  | initialized hi => exact ⟨b, (hi.buffers q).trans hb, rfl⟩

theorem stays (h : s.Ok) (hs : DSoundStep s op s') (hop : op ≠ .release q)
    (hb : s.getBuffer q = some b) : ∃ b', s'.getBuffer q = some b' :=
  (hs.stays_storage h hop hb).imp fun _ hb' ↦ hb'.1

end DSoundStep

/-! ## What a buffer has for itself -/

/-- What a source plays, and how. -/
def Source.playback (src : Source) : ALState × Bool × UInt32 :=
  (src.state, src.looping, src.byteOffset)

namespace Buffer

/-- `b'` has what is the buffer's own. -/
structure SameOwn (b b' : Buffer) : Prop where
  born : b'.born = b.born
  storage : b'.mBuffer = b.mBuffer
  playback : b'.mSource.map Source.playback = b.mSource.map Source.playback
  volume : b'.mVolume = b.mVolume
  pan : b'.mPan = b.mPan
  frequency : b'.mFrequency = b.mFrequency
  location : b'.mLocStatus = b.mLocStatus
  notifies : b'.mNotifies = b.mNotifies
  is8 : b'.mIs8 = b.mIs8
  initialized : b'.mIsInitialized = b.mIsInitialized

/-- `b'` has the 3D parameters of the buffer, and those that are pending. -/
structure SameParams (b b' : Buffer) : Prop where
  immediate : b'.mImmediate = b.mImmediate
  deferred : b'.mDeferred = b.mDeferred
  dirty : b'.mDirty = b.mDirty

theorem SameOwn.refl (b : Buffer) : b.SameOwn b :=
  ⟨rfl, rfl, rfl, rfl, rfl, rfl, rfl, rfl, rfl, rfl⟩

theorem SameOwn.trans {b b' b'' : Buffer} (h : b.SameOwn b') (h' : b'.SameOwn b'') :
    b.SameOwn b'' where
  born := h'.born.trans h.born
  storage := h'.storage.trans h.storage
  playback := h'.playback.trans h.playback
  volume := h'.volume.trans h.volume
  pan := h'.pan.trans h.pan
  frequency := h'.frequency.trans h.frequency
  location := h'.location.trans h.location
  notifies := h'.notifies.trans h.notifies
  is8 := h'.is8.trans h.is8
  initialized := h'.initialized.trans h.initialized

theorem SameParams.refl (b : Buffer) : b.SameParams b := ⟨rfl, rfl, rfl⟩

theorem SameParams.trans {b b' b'' : Buffer} (h : b.SameParams b') (h' : b'.SameParams b'') :
    b.SameParams b'' where
  immediate := h'.immediate.trans h.immediate
  deferred := h'.deferred.trans h.deferred
  dirty := h'.dirty.trans h.dirty

theorem sameOwn_writeSource (b : Buffer) (ws : SourceWrites) : b.SameOwn (b.writeSource ws) := by
  refine { SameOwn.refl b with playback := ?_ }
  unfold writeSource
  cases b.mSource <;> rfl

theorem sameOwn_writeRolloff (b : Buffer) (rolloffFactor : Float32) :
    b.SameOwn (b.writeRolloff rolloffFactor) := by
  unfold writeRolloff
  split_ifs
  · exact b.sameOwn_writeSource _
  · exact .refl b

theorem sameOwn_commit (b : Buffer) (parent : Parent) : b.SameOwn (b.commit parent) := by
  have hclean : b.SameOwn { b with mDirty := .none } := { SameOwn.refl b with }
  rw [commit_eq]
  refine hclean.trans ?_
  unfold setParams
  have himm : SameOwn { b with mDirty := .none } { b with
      mDirty := .none, mImmediate := copyParams b.mDirty b.mDeferred b.mImmediate } :=
    { SameOwn.refl b with }
  exact himm.trans (sameOwn_writeSource _ _)

end Buffer

namespace Message

variable {m : Message} {op : Op} {q : Ptr} {b b' : Buffer}

/-- The message may come from an operation that is not addressed to the buffer. -/
def Remote : Message → Prop
  | .poll | .rolloff _ | .commit _ | .lose => True
  | _ => False

theorem OfListener.remote (hm : m.OfListener) : m.Remote := by
  obtain ⟨rolloffFactor, rfl⟩ := hm
  trivial

theorem OfCommit.remote (hm : m.OfCommit) : m.Remote := by
  rcases hm with hm | ⟨parent, rfl⟩
  · exact hm.remote
  · trivial

theorem remote_of_sends (hop : op.target ≠ some q) (hm : op.Sends q m) : m.Remote := by
  have hne : ∀ {p}, op.target = some p → q ≠ p := by
    rintro p hp rfl
    exact hop hp
  cases op with
  | createSoundBuffer | listener => exact hm.remote
  | setCooperativeLevel =>
      cases hm
      trivial
  | buffer | acquireResources | play => exact absurd hm.1 (hne rfl)
  | stop | setNotificationPositions =>
      obtain rfl | hm := hm
      · trivial
      · exact absurd hm.1 (hne rfl)
  | eaxSet =>
      obtain hm | hm := hm
      · exact absurd hm.1 (hne rfl)
      · exact hm.2.remote
  | commitDeferredSettings => exact hm.remote
  | poll =>
      cases hm
      trivial
  | primary c =>
      cases c with
      | initializePrimary => exact hm.remote
      | _ => exact hm.elim
  | mix p =>
      cases p with
      | none => exact hm.elim
      | some p => exact absurd hm.1 (hne rfl)
  | initializeObject | duplicateSoundBuffer | release | bufferInitialize | otherSources =>
      exact hm.elim

/-- No commit comes from an operation that does not commit. -/
theorem ne_commit_of_sends (hop : op.target ≠ some q) (hno : op.commits = false)
    (hm : op.Sends q m) (parent : Parent) : m ≠ .commit parent := by
  rintro rfl
  cases op with
  | createSoundBuffer | listener => exact nomatch hm
  | setCooperativeLevel | poll => exact nomatch hm
  | buffer | acquireResources | play => exact hop (congrArg some hm.1.symm)
  | stop | setNotificationPositions =>
      obtain hm | hm := hm
      · exact nomatch hm
      · exact hop (congrArg some hm.1.symm)
  | eaxSet =>
      obtain hm | hm := hm
      · exact hop (congrArg some hm.1.symm)
      · exact absurd hm.1 (ne_true_of_eq_false hno)
  | commitDeferredSettings => exact nomatch hno
  | primary c =>
      cases c with
      | initializePrimary => exact nomatch hm
      | _ => exact hm.elim
  | mix p =>
      cases p with
      | none => exact hm.elim
      | some p => exact hop (congrArg some hm.1.symm)
  | initializeObject | duplicateSoundBuffer | release | bufferInitialize | otherSources =>
      exact hm.elim

/-- A message from elsewhere leaves alone what is the buffer's own. -/
theorem Remote.sameOwn (hm : m.Remote) (hc : m.Changes b b') : b.SameOwn b' := by
  cases m with
  | poll =>
      obtain rfl : b' = b.poll := hc
      exact { Buffer.SameOwn.refl b with }
  | rolloff rolloffFactor =>
      obtain rfl : b' = b.writeRolloff rolloffFactor := hc
      exact b.sameOwn_writeRolloff rolloffFactor
  | commit parent =>
      obtain rfl : b' = b.commit parent := hc
      exact b.sameOwn_commit parent
  | lose =>
      obtain rfl : b' = { b with mBufferLost := true } := hc
      exact { Buffer.SameOwn.refl b with }
  | _ => exact hm.elim

/-- Only a commit changes the 3D parameters from elsewhere. -/
theorem Remote.sameParams (hm : m.Remote) (hno : ∀ parent, m ≠ .commit parent)
    (hc : m.Changes b b') : b.SameParams b' := by
  cases m with
  | poll =>
      obtain rfl : b' = b.poll := hc
      exact ⟨rfl, rfl, rfl⟩
  | rolloff rolloffFactor =>
      obtain rfl : b' = b.writeRolloff rolloffFactor := hc
      unfold Buffer.writeRolloff
      split_ifs
      · exact ⟨rfl, rfl, rfl⟩
      · exact .refl b
  | commit parent => exact absurd rfl (hno parent)
  | lose =>
      obtain rfl : b' = { b with mBufferLost := true } := hc
      exact ⟨rfl, rfl, rfl⟩
  | _ => exact hm.elim

end Message

/-! ## Runs -/

namespace DSound8OAL

variable [Abi] {s s' : DSound8OAL} {C : Op → Prop} {Q : Buffer → Buffer → Prop} {q : Ptr}
  {b : Buffer}

/-- **Run lemma**: in a run whose operations are not addressed to a buffer, the buffer stays, and
is related to what it was as the messages of the operations relate it. -/
theorem related_of_reachable (hrefl : ∀ b, Q b b)
    (htrans : ∀ {b b' b''}, Q b b' → Q b' b'' → Q b b'')
    (hC : ∀ op, C op → op.target ≠ some q)
    (hsends : ∀ op m b b', C op → op.Sends q m → m.Changes b b' → Q b b')
    (h : Reachable DSoundStep IsNew s) (hb : s.getBuffer q = some b)
    (hrun : Reachable (guarded (fun _ op ↦ C op) DSoundStep) (· = s) s') :
    Reachable DSoundStep IsNew s' ∧ ∃ b', s'.getBuffer q = some b' ∧ Q b b' := by
  refine hrun.invariant (P := fun t ↦ Reachable DSoundStep IsNew t ∧
    ∃ b', t.getBuffer q = some b' ∧ Q b b') ?_ ?_
  · rintro t rfl
    exact ⟨h, b, hb, hrefl b⟩
  rintro t op t' ⟨ht, b₁, hb₁, hQ⟩ ⟨hop, hs⟩
  have hne : op ≠ .release q := by
    rintro rfl
    exact hC _ hop rfl
  obtain ⟨b₂, hb₂⟩ := hs.stays (ok_of_reachable ht) hne hb₁
  have hreach := hs.reaches (ok_of_reachable ht) hb₁ hb₂
  refine ⟨ht.step hs, b₂, hb₂, htrans hQ ?_⟩
  refine hreach.head_induction_on (hrefl _) fun hstep _ ih ↦ ?_
  obtain ⟨m, hm, hchanges⟩ := hstep
  exact htrans (hsends op m _ _ hop hm hchanges) ih

end DSound8OAL

open DSound8OAL

/-- **Buffers are apart.**  A step from a reachable state gets to a buffer by the messages of its
operation.  In a run whose operations are not addressed to the buffer, it stays and keeps what is
its own; and its 3D parameters as well, if none of the operations commits. -/
theorem buffers_apart [Abi] {s : DSound8OAL} (h : Reachable DSoundStep IsNew s) {q : Ptr}
    {b : Buffer} (hb : s.getBuffer q = some b) :
    (∀ op s' b', DSoundStep s op s' → s'.getBuffer q = some b' →
      ReflTransGen (op.Reaches q) b b') ∧
    (∀ s', Reachable (guarded (fun _ op ↦ op.target ≠ some q) DSoundStep) (· = s) s' →
      ∃ b', s'.getBuffer q = some b' ∧ b.SameOwn b') ∧
    ∀ s', Reachable (guarded (fun _ op ↦ op.target ≠ some q ∧ op.commits = false) DSoundStep)
        (· = s) s' →
      ∃ b', s'.getBuffer q = some b' ∧ b.SameOwn b' ∧ b.SameParams b' := by
  refine ⟨fun op s' b' hs hb' ↦ hs.reaches (ok_of_reachable h) hb hb', fun s' hrun ↦ ?_,
    fun s' hrun ↦ ?_⟩
  · refine (related_of_reachable Buffer.SameOwn.refl Buffer.SameOwn.trans (fun op hop ↦ hop) ?_
      h hb hrun).2
    intro op m b b' hop hm hc
    exact (Message.remote_of_sends hop hm).sameOwn hc
  · refine (related_of_reachable (Q := fun b b' ↦ b.SameOwn b' ∧ b.SameParams b')
      (fun b ↦ ⟨.refl b, .refl b⟩) (fun h h' ↦ ⟨h.1.trans h'.1, h.2.trans h'.2⟩)
      (fun op hop ↦ hop.1) ?_ h hb hrun).2
    intro op m b b' hop hm hc
    have hremote := Message.remote_of_sends hop.1 hm
    exact ⟨hremote.sameOwn hc,
      hremote.sameParams (Message.ne_commit_of_sends hop.1 hop.2 hm) hc⟩

set_option maxRecDepth 4000 in
/-- The volume of the second of two buffers is set and its position deferred. -/
theorem buffers_apart_two : letI : Abi := ⟨⟨600, by decide⟩⟩
    ∃ (s s' : DSound8OAL) (b b' : Buffer), Reachable DSoundStep IsNew s ∧
      s.getBuffer ⟨4096, 0⟩ = some b ∧ s'.getBuffer ⟨4096, 0⟩ = some b' ∧ b.SameOwn b' ∧
      b.SameParams b' ∧
      ∃ b₁, s'.getBuffer ⟨4096, 1⟩ = some b₁ ∧ b₁.mVolume = -600 ∧ b₁.mDirty .position := by
  let _ : Abi := ⟨⟨600, by decide⟩⟩
  have h0 : Reachable DSoundStep IsNew (DSound8OAL.new true) := .init ⟨true, rfl⟩
  have h1 := h0.step (i := initializeOne) ⟨initializeOne_legal true, _, rfl⟩
  have h2 := h1.step (i := createMono (Caps.ctrl3D ||| Caps.ctrlVolume))
    ⟨createMono_legal _ _, _, rfl⟩
  have h3 := h2.step (i := createMono (Caps.ctrl3D ||| Caps.ctrlVolume))
    ⟨createMono_legal _ _, _, rfl⟩
  have hapart := (buffers_apart h3 (q := ⟨4096, 0⟩) rfl).2.2
  obtain ⟨b', hb', hown, hparams⟩ := hapart _ <| .step
    (i := Op.buffer ⟨4096, 1⟩ (.call3D (.setPosition 1 2 3) ds3dDeferred))
    (.step (i := Op.buffer ⟨4096, 1⟩ (.setVolume (-600))) (.init rfl)
      ⟨⟨nofun, rfl⟩, trivial, _, rfl⟩) ⟨⟨nofun, rfl⟩, trivial, _, rfl⟩
  exact ⟨_, _, _, b', h3, rfl, hb', hown, hparams, _, rfl, rfl, rfl⟩

end Dsoal
