import Dsoal.Object.Steps
import Dsoal.Playback.Methods

/-!
# What holds of every buffer

A property of a single buffer that the constructors establish and that every method of the
buffer keeps (`Buffer.Lasts`) holds of all buffers of an object, the one for write emulation
included, in every reachable state (`each_of_reachable`).
-/

namespace Dsoal

open TransitionSystem

/-- What `Stop` leaves of a buffer with the source `src`. -/
def DSound8OAL.stopped (b : Buffer) (sb : SharedBuffer) (src : Source) : Buffer :=
  { b.pause with mLastPos := Buffer.stopPos sb src.pause }

/-- The property holds of new buffers, and lasts through everything that happens to a buffer,
as long as OpenAL gives its source offsets in `A`. -/
structure Buffer.Lasts (A : SharedBuffer → UInt32 → Prop) (P : Buffer → Prop) : Prop where
  fresh (born : ℕ) (is8 : Bool) : P (Buffer.fresh born is8)
  duplicate {b b' : Buffer} {born : ℕ} {is8 : Bool} (h : P b)
    (hc : Buffer.duplicate born is8 b = some b') : P b'
  /-- `Initialize` of a buffer that has not been played. -/
  attach {b b' : Buffer} {exts : Extensions} {desc : Option BufferDesc} {memory : Bool} (h : P b)
    (hsource : b.mSource = none) (hpos : b.mLastPos = 0)
    (hc : b.attach exts desc memory = .ok b') : P b'
  initLocation {b b' : Buffer} {parent : Parent} {dev dev' : DeviceSources} {hr : HResult}
    (h : P b) (hc : b.initLocation parent dev = some (hr, b', dev')) : P b'
  writeRolloff {b : Buffer} (rolloffFactor : Float32) (h : P b) : P (b.writeRolloff rolloffFactor)
  commit {b : Buffer} (parent : Parent) (h : P b) : P (b.commit parent)
  poll {b : Buffer} (h : P b) : P b.poll
  call {b b' : Buffer} (parent : Parent) (c : BufferCall) {hr : HResult} (h : P b)
    (hc : b.call parent c = some (hr, b')) : P b'
  restore {b : Buffer} (parent : Parent) (isWriteEmu : Bool) (h : P b) :
    P (b.restore parent isWriteEmu).2
  acquireResources {b b' : Buffer} {parent : Parent} {dev dev' : DeviceSources}
    {flags effectsCount : UInt32} {resultCodes : Bool} {hr : HResult} (h : P b)
    (hc : b.acquireResources parent dev flags effectsCount resultCodes = some (hr, b', dev')) :
    P b'
  play {b b' : Buffer} {parent : Parent} {dev dev' : DeviceSources} {priority flags : UInt32}
    {started notify : Bool} {hr : HResult} (h : P b)
    (hc : b.play parent dev priority flags started = some (hr, b', dev', notify)) : P b'
  stop {b : Buffer} {sb : SharedBuffer} {src : Source} (h : P b) (hsb : b.mBuffer = some sb)
    (hsource : b.mSource = some src) : P (DSound8OAL.stopped b sb src)
  notifies {b : Buffer} (newNots : List (PositionNotify EventHandle)) (h : P b) :
    P { b with mNotifies := newNots }
  genSource {b : Buffer} (h : P b) : P b.genSource
  lose {b : Buffer} (h : P b) : P { b with mBufferLost := true }
  mix {b : Buffer} {offset : UInt32} (ended : Bool) (h : P b)
    (hA : ∀ sb, b.mBuffer = some sb → A sb offset) : P (b.mix offset ended)

/-- A duplicate has not been played. -/
theorem Buffer.unplayed_of_duplicate {b b' : Buffer} {born : ℕ} {is8 : Bool}
    (h : Buffer.duplicate born is8 b = some b') : b'.mSource = none ∧ b'.mLastPos = 0 := by
  obtain ⟨sb, -, h⟩ := Option.bind_eq_some_iff.mp h
  cases h
  exact ⟨rfl, rfl⟩

namespace DSound8OAL

variable [Abi] {A : SharedBuffer → UInt32 → Prop} {P : Buffer → Prop} {s s' s₁ : DSound8OAL}
  {p : Ptr} {b b' : Buffer} {hr : HResult} {mem : Memory}

/-- The object has the buffer, in a slot or for write emulation. -/
def Holds (s : DSound8OAL) (b : Buffer) : Prop :=
  (∃ p, s.getBuffer p = some b) ∨ s.mPrimaryBuffer.mWriteEmu = some b

/-- The property holds of all buffers of the object. -/
structure Each (P : Buffer → Prop) (s : DSound8OAL) : Prop where
  pool : PoolOk s.mSecondaryBuffers
  buffers : ∀ b, s.Holds b → P b

namespace Each

theorem secondary (h : s.Each P) (hb : s.getBuffer p = some b) : P b :=
  h.buffers b (.inl ⟨p, hb⟩)

theorem writeEmu (h : s.Each P) (hb : s.mPrimaryBuffer.mWriteEmu = some b) : P b :=
  h.buffers b (.inr hb)

/-! ## Changes of an object -/

/-- **A change of the secondary buffers.** -/
theorem of_buffers (h : s.Each P) (hpool : PoolOk s'.mSecondaryBuffers)
    (hbuffers : ∀ p b, s'.getBuffer p = some b → P b)
    (hemu : s'.mPrimaryBuffer.mWriteEmu = s.mPrimaryBuffer.mWriteEmu) : s'.Each P where
  pool := hpool
  buffers := by
    rintro b (⟨p, hb⟩ | hb)
    · exact hbuffers p b hb
    · exact h.writeEmu (hemu ▸ hb)

/-- **A change of what is outside the secondary buffers.** -/
theorem frame (h : s.Each P) (s' : DSound8OAL)
    (hgs : s'.mSecondaryBuffers = s.mSecondaryBuffers)
    (hemu : ∀ b, s'.mPrimaryBuffer.mWriteEmu = some b → P b) : s'.Each P where
  pool := hgs ▸ h.pool
  buffers := by
    rintro b (⟨p, hb⟩ | hb)
    · unfold getBuffer at hb
      rw [hgs] at hb
      exact h.secondary hb
    · exact hemu b hb

/-- A change of neither. -/
theorem congr (h : s.Each P) (s' : DSound8OAL)
    (hgs : s'.mSecondaryBuffers = s.mSecondaryBuffers)
    (hemu : s'.mPrimaryBuffer.mWriteEmu = s.mPrimaryBuffer.mWriteEmu) : s'.Each P :=
  h.frame s' hgs fun _ hb ↦ h.writeEmu (hemu ▸ hb)

/-- **A change of one buffer.** -/
theorem setBuffer (h : s.Each P) (hp : s.getBuffer p = some b) (hb' : P b') :
    (s.setBuffer p b').Each P := by
  refine h.of_buffers (poolOk_setBuffer h.pool p b') (fun q b₁ hb₁ ↦ ?_) rfl
  rw [getBuffer_setBuffer h.pool hp] at hb₁
  split_ifs at hb₁
  · cases hb₁
    exact hb'
  · exact h.secondary hb₁

/-! ## Walks over the buffers -/

/-- **A loop** over the buffers of a list. -/
theorem forBuffers (h : s.Each P) {f : Buffer → Buffer} (hf : ∀ b, P b → P (f b))
    {es : List Registered} (hc : forBuffers f es s = some s') : s'.Each P := by
  induction es generalizing s with
  | nil =>
      cases hc
      exact h
  | cons e es ih =>
      obtain ⟨b, hb, hc⟩ := Option.bind_eq_some_iff.mp hc
      exact ih (h.setBuffer hb (hf b (h.secondary hb))) hc

theorem setListenerParams (h : s.Each P) (hP : Buffer.Lasts A P)
    {params : DS3DListener} {flags : ListenerFlags}
    (hc : s.setListenerParams params flags = some s') : s'.Each P := by
  unfold DSound8OAL.setListenerParams at hc
  dsimp only at hc
  split_ifs at hc
  · refine Each.forBuffers ?_ (fun b hb ↦ hP.writeRolloff _ hb) hc
    exact h.congr _ rfl rfl
  · cases hc
    exact h.congr _ rfl rfl

theorem commit (h : s.Each P) (hP : Buffer.Lasts A P) (hc : s.commit = some s') : s'.Each P := by
  rw [commit_eq] at hc
  obtain ⟨s₁, hs₁, hc⟩ := Option.bind_eq_some_iff.mp hc
  have hclean : s.clearDirty.Each P := h.congr _ rfl rfl
  exact (hclean.setListenerParams hP hs₁).forBuffers (fun _ hb ↦ hP.commit _ hb) hc

theorem callListener (h : s.Each P) (hP : Buffer.Lasts A P) {c : ListenerCall} {apply : UInt32}
    (hc : s.callListener c apply = some (hr, s')) : s'.Each P := by
  obtain ⟨-, -, rfl⟩ | ⟨F, Q, -, -, ⟨-, n, rfl⟩ | ⟨-, hset⟩⟩ := callListener_cases hc
  · exact h
  · exact h.congr _ rfl rfl
  · exact h.setListenerParams hP hset

end Each

/-- **Polling the buffers of a list** stores the position of those it visits. -/
theorem getBuffer_pollBuffers (h : PoolOk s.mSecondaryBuffers) {es kept : List Registered}
    (hc : pollBuffers es s = some (kept, s')) : PoolOk s'.mSecondaryBuffers ∧
      s'.mPrimaryBuffer = s.mPrimaryBuffer ∧ s'.mShared = s.mShared ∧
      ∀ q b', s'.getBuffer q = some b' →
        ∃ b, s.getBuffer q = some b ∧ (b' = b ∨ b' = b.poll) := by
  induction es generalizing s kept with
  | nil =>
      cases hc
      exact ⟨h, rfl, rfl, fun q b' hb' ↦ ⟨b', hb', .inl rfl⟩⟩
  | cons e es ih =>
      obtain ⟨b, hb, hc⟩ := Option.bind_eq_some_iff.mp hc
      obtain ⟨⟨hit, b₁, again⟩, hu, hc⟩ := Option.bind_eq_some_iff.mp hc
      obtain ⟨⟨kept', s₁⟩, hrec, hc⟩ := Option.bind_eq_some_iff.mp hc
      cases hc
      obtain rfl := Buffer.eq_poll_of_updateNotify hu
      have hset := getBuffer_setBuffer h hb b.poll
      obtain ⟨hpool, hprimary, hshared, hpolled⟩ :=
        ih (s := { s.setBuffer e.ptr b.poll with signalled := s.signalled ++ hit })
          (poolOk_setBuffer h e.ptr b.poll) hrec
      refine ⟨hpool, hprimary, hshared, fun q b' hb' ↦ ?_⟩
      obtain ⟨b₂, hb₂, hof⟩ := hpolled q b' hb'
      change (s.setBuffer e.ptr b.poll).getBuffer q = some b₂ at hb₂
      rw [hset] at hb₂
      split_ifs at hb₂ with hq
      · cases hb₂
        rw [Buffer.poll_poll, or_self] at hof
        exact ⟨b, hq ▸ hb, .inr hof⟩
      · exact ⟨b₂, hb₂, hof⟩

/-- A poll of the registered buffers stores the position of some. -/
theorem getBuffer_triggerNotifies (h : PoolOk s.mSecondaryBuffers)
    (hc : s.triggerNotifies = some s') : PoolOk s'.mSecondaryBuffers ∧
      s'.mPrimaryBuffer = s.mPrimaryBuffer ∧ s'.mShared = s.mShared ∧
      ∀ q b', s'.getBuffer q = some b' →
        ∃ b, s.getBuffer q = some b ∧ (b' = b ∨ b' = b.poll) := by
  obtain ⟨⟨kept, s₁⟩, hpoll, hc⟩ := Option.bind_eq_some_iff.mp hc
  cases hc
  have hpolled := getBuffer_pollBuffers h hpoll
  exact hpolled

/-- **`Stop`** polls the buffer at last, even if it polls other buffers meanwhile. -/
theorem getBuffer_stop (h : PoolOk s.mSecondaryBuffers) (hc : s.stop p = some (hr, s')) :
    (s' = s ∧ ∃ b, s.getBuffer p = some b ∧ b.mSource = none) ∨
    ∃ b src sb, s.getBuffer p = some b ∧ b.mSource = some src ∧ b.mBuffer = some sb ∧
      PoolOk s'.mSecondaryBuffers ∧ s'.mPrimaryBuffer = s.mPrimaryBuffer ∧
      s'.mShared = s.mShared ∧ s'.getBuffer p = some (stopped b sb src) ∧
      ∀ q b', q ≠ p → s'.getBuffer q = some b' →
        ∃ b₀, s.getBuffer q = some b₀ ∧ (b' = b₀ ∨ b' = b₀.poll) := by
  obtain hnone | ⟨b, src, sb, s₁, b₁, hb, hsource, hsb, hs₁, hb₁, rfl⟩ := stop_cases hc
  · exact .inl hnone
  have hpause := getBuffer_setBuffer h hb b.pause
  obtain ⟨hpool, hprimary, hshared, hpolled⟩ : PoolOk s₁.mSecondaryBuffers ∧
      s₁.mPrimaryBuffer = s.mPrimaryBuffer ∧ s₁.mShared = s.mShared ∧
      ∀ q b', s₁.getBuffer q = some b' →
        ∃ b₀, (s.setBuffer p b.pause).getBuffer q = some b₀ ∧ (b' = b₀ ∨ b' = b₀.poll) := by
    rcases hs₁ with ⟨-, rfl⟩ | ⟨-, hflush⟩
    · exact ⟨poolOk_setBuffer h p _, rfl, rfl, fun q b' hb' ↦ ⟨b', hb', .inl rfl⟩⟩
    · obtain ⟨s₂, hs₂, rfl⟩ := Option.map_eq_some_iff.mp hflush
      have hpolled := getBuffer_triggerNotifies (poolOk_setBuffer h p _) hs₂
      exact hpolled
  refine .inr ⟨b, src, sb, hb, hsource, hsb, poolOk_setBuffer hpool p _, hprimary, hshared, ?_,
    fun q b' hq hb' ↦ ?_⟩
  · rw [getBuffer_setBuffer hpool hb₁, if_pos rfl]
    obtain ⟨b₀, hb₀, hof⟩ := hpolled p b₁ hb₁
    rw [hpause, if_pos rfl] at hb₀
    cases hb₀
    rcases hof with rfl | rfl <;> rfl
  · rw [getBuffer_setBuffer hpool hb₁, if_neg hq] at hb'
    obtain ⟨b₀, hb₀, hof⟩ := hpolled q b' hb'
    rw [hpause, if_neg hq] at hb₀
    exact ⟨b₀, hb₀, hof⟩

omit [Abi] in
/-- The property lasts through a poll. -/
theorem of_polled (hP : Buffer.Lasts A P) (hb : P b) (hb' : b' = b ∨ b' = b.poll) : P b' := by
  rcases hb' with rfl | rfl
  · exact hb
  · exact hP.poll hb

namespace Each

/-- **A poll** of the registered buffers. -/
theorem triggerNotifies (h : s.Each P) (hP : Buffer.Lasts A P)
    (hc : s.triggerNotifies = some s') : s'.Each P := by
  obtain ⟨hpool, hprimary, -, hpolled⟩ := getBuffer_triggerNotifies h.pool hc
  refine h.of_buffers hpool (fun q b' hb' ↦ ?_) (by rw [hprimary])
  obtain ⟨b, hb, hof⟩ := hpolled q b' hb'
  exact of_polled hP (h.secondary hb) hof

theorem flushNotify (h : s.Each P) (hP : Buffer.Lasts A P)
    (hc : (s.triggerNotifies.map fun t ↦ t.removeNotifyBuffer p) = some s') : s'.Each P := by
  obtain ⟨s₁, hs₁, rfl⟩ := Option.map_eq_some_iff.mp hc
  exact (h.triggerNotifies hP hs₁).congr _ rfl rfl

/-! ## Calls on a buffer -/

theorem bufferCall (h : s.Each P) (hP : Buffer.Lasts A P) {c : BufferCall}
    (hc : s.bufferCall p c = some (hr, s')) : s'.Each P := by
  obtain ⟨b, hb, hc⟩ := Option.bind_eq_some_iff.mp hc
  obtain ⟨⟨hr₁, b'⟩, hcall, hc⟩ := Option.bind_eq_some_iff.mp hc
  cases hc
  exact h.setBuffer hb (hP.call s.parent c (h.secondary hb) hcall)

theorem acquireResources (h : s.Each P) (hP : Buffer.Lasts A P)
    {flags effectsCount : UInt32} {resultCodes : Bool}
    (hc : s.acquireResources p flags effectsCount resultCodes = some (hr, s')) :
    s'.Each P := by
  obtain ⟨b, hb, hc⟩ := Option.bind_eq_some_iff.mp hc
  obtain ⟨dev, -, hc⟩ := Option.bind_eq_some_iff.mp hc
  obtain ⟨⟨hr₁, b', dev'⟩, hcall, hc⟩ := Option.bind_eq_some_iff.mp hc
  cases hc
  exact (h.setBuffer hb (hP.acquireResources (h.secondary hb) hcall)).congr _ rfl rfl

theorem play (h : s.Each P) (hP : Buffer.Lasts A P) {priority flags : UInt32} {started : Bool}
    (hc : s.play p priority flags started = some (hr, s')) : s'.Each P := by
  obtain ⟨b, hb, hc⟩ := Option.bind_eq_some_iff.mp hc
  obtain ⟨dev, -, hc⟩ := Option.bind_eq_some_iff.mp hc
  obtain ⟨⟨hr₁, b', dev', notify⟩, hcall, hc⟩ := Option.bind_eq_some_iff.mp hc
  cases hc
  have hset := h.setBuffer hb (hP.play (h.secondary hb) hcall)
  split_ifs
  · unfold addNotifyBuffer
    split_ifs
    · exact hset.congr _ rfl rfl
    · exact hset.congr _ rfl rfl
  · exact hset.congr _ rfl rfl

theorem stop (h : s.Each P) (hP : Buffer.Lasts A P)
    (hc : s.stop p = some (hr, s')) : s'.Each P := by
  obtain ⟨rfl, -⟩ | ⟨b, src, sb, hb, hsource, hsb, hpool, hprimary, -, hb', hothers⟩ :=
    getBuffer_stop h.pool hc
  · exact h
  refine h.of_buffers hpool (fun q b₁ hb₁ ↦ ?_) (by rw [hprimary])
  by_cases hq : q = p
  · rw [hq, hb'] at hb₁
    cases hb₁
    exact hP.stop (h.secondary hb) hsb hsource
  · obtain ⟨b₀, hb₀, hof⟩ := hothers q b₁ hq hb₁
    exact of_polled hP (h.secondary hb₀) hof

theorem setNotificationPositions (h : s.Each P) (hP : Buffer.Lasts A P)
    {notifies : Option (List (PositionNotify EventHandle))}
    (hc : s.setNotificationPositions p notifies = some (hr, s')) : s'.Each P := by
  obtain ⟨b, s₁, -, hs₁, hs'⟩ := setNotificationPositions_cases hc
  have h₁ : s₁.Each P := by
    rcases hs₁ with ⟨-, rfl⟩ | ⟨-, hs₁⟩
    · exact h
    · exact h.flushNotify hP hs₁
  rcases hs' with rfl | ⟨b₁, newNots, -, hb₁, rfl⟩
  · exact h₁
  · exact h₁.setBuffer hb₁ (hP.notifies newNots (h₁.secondary hb₁))

theorem eaxSet (h : s.Each P) (hP : Buffer.Lasts A P) {immediate accepted : Bool}
    (hc : s.eaxSet p immediate accepted = some (hr, s')) : s'.Each P := by
  obtain ⟨b, hb, hs'⟩ := eaxSet_cases hc
  have hgen := h.setBuffer hb (hP.genSource (h.secondary hb))
  obtain ⟨-, -, rfl⟩ | ⟨-, -, -, rfl⟩ | ⟨-, -, -, -, hcommit⟩ := hs'
  · exact h
  · exact hgen
  · exact hgen.commit hP hcommit

/-- `Buffer::Initialize` does nothing to a buffer that is initialized. -/
theorem initializeBuffer (h : s.Each P) (hok : s.Ok) {desc : Option BufferDesc}
    {memory : Bool} (hc : s.initializeBuffer p desc memory = some (hr, s')) : s'.Each P := by
  obtain ⟨b, hb, hc⟩ := Option.bind_eq_some_iff.mp hc
  have ha : b.attach s.mExtensions desc memory = .error .alreadyInitialized :=
    if_pos (hok.buffers p b hb).2.1
  rw [ha] at hc
  cases hc
  exact h

/-! ## Creating and destroying buffers -/

/-- **The last `Release` of a buffer.** -/
theorem dispose (h : s.Each P) (hb : s.getBuffer p = some b) (hc : s.dispose p = some s') :
    s'.Each P := by
  obtain ⟨shared, -, rfl⟩ := dispose_eq h.pool hb hc
  have hlive : (lookup p s.mSecondaryBuffers).isSome := Option.isSome_iff_exists.mpr ⟨b, hb⟩
  refine h.of_buffers (h.pool.dispose hlive) (fun q b' hb' ↦ ?_) rfl
  unfold getBuffer at hb'
  rw [h.pool.lookup_dispose hlive] at hb'
  split_ifs at hb'
  exact h.secondary hb'

/-- **Creating a buffer**, which has not been played. -/
theorem initializeNew (h : s.Each P) (hP : Buffer.Lasts A P)
    (hfresh : ∀ base, mem.group = some base → FreshBase base s.mSecondaryBuffers)
    (hb : P b) (hsource : b.mSource = none) (hpos : b.mLastPos = 0)
    (hcon : s.construct b mem = some (p, s₁)) {desc : Option BufferDesc} {memory : Bool}
    (hc : s₁.initializeNew p desc memory = some (hr, s')) : s'.Each P := by
  obtain ⟨gs, rfl, hpool, -, hlook⟩ := construct_eq h.pool hfresh hcon
  have hbp : lookup p gs = some b := (hlook p).trans (if_pos rfl)
  have h₁ : DSound8OAL.Each P
      { s with mSecondaryBuffers := gs, nextBorn := s.nextBorn + 1 } := by
    refine h.of_buffers hpool (fun q b' hb' ↦ ?_) rfl
    change lookup q gs = some b' at hb'
    rw [hlook] at hb'
    split_ifs at hb'
    · cases hb'
      exact hb
    · exact h.secondary hb'
  obtain ⟨s₂, hinit, hs'⟩ := initializeNew_cases hc
  obtain ⟨b₀, hb₀, hinit⟩ := Option.bind_eq_some_iff.mp hinit
  obtain rfl : b = b₀ := Option.some.inj (hbp.symm.trans hb₀)
  obtain ⟨h₂, b₂, hb₂⟩ : s₂.Each P ∧ ∃ b₂, s₂.getBuffer p = some b₂ := by
    cases ha : b.attach s.mExtensions desc memory with
    | error hr₁ =>
        simp only [ha] at hinit
        cases hinit
        exact ⟨h₁, b, hbp⟩
    | ok b₁ =>
        simp only [ha, register_eq] at hinit
        obtain ⟨dev, -, hinit⟩ := Option.bind_eq_some_iff.mp hinit
        obtain ⟨⟨hr₃, b₂, dev'⟩, hloc, hinit⟩ := Option.bind_eq_some_iff.mp hinit
        cases hinit
        have hb₂ := hP.initLocation (hP.attach hb hsource hpos ha) hloc
        have hset := h₁.setBuffer (b := b) hbp hb₂
        refine ⟨hset.congr _ rfl rfl, b₂, ?_⟩
        have hget := getBuffer_setBuffer h₁.pool (b := b) hbp b₂ p
        rw [if_pos rfl] at hget
        exact hget
  obtain ⟨-, rfl⟩ | ⟨-, hdispose⟩ := hs'
  · exact h₂
  · exact h₂.dispose hb₂ hdispose

/-- **`DuplicateSoundBuffer`.** -/
theorem duplicateSoundBuffer (h : s.Each P) (hP : Buffer.Lasts A P)
    (hfresh : ∀ base, mem.group = some base → FreshBase base s.mSecondaryBuffers)
    {original : Option Ptr} {duplicate : Bool}
    (hc : s.duplicateSoundBuffer original duplicate mem = some (hr, s')) : s'.Each P := by
  obtain ⟨rfl, -⟩ | ⟨b, p, s₁, hdups, hcon, hc⟩ := duplicateSoundBuffer_cases hc
  · exact h
  · obtain ⟨q, orig, sb, -, horig, -, -, -, hdup⟩ := hdups.original
    obtain ⟨hsource, hpos⟩ := Buffer.unplayed_of_duplicate hdup
    exact h.initializeNew hP hfresh (hP.duplicate (h.secondary horig) hdup) hsource hpos hcon hc

/-! ## The write-emulation buffer -/

theorem destroyWriteEmu (h : s.Each P) (hc : s.destroyWriteEmu = some s') :
    s'.Each P := by
  obtain ⟨-, rfl⟩ | ⟨emu, shared, -, -, rfl⟩ := destroyWriteEmu_cases hc
  · exact h
  · refine h.frame _ rfl ?_
    rintro b ⟨⟩

/-- **`createWriteEmu`** makes a buffer that has not been played. -/
theorem createWriteEmu (h : s.Each P) (hP : Buffer.Lasts A P) {flags : UInt32}
    (hc : s.createWriteEmu flags mem = some (hr, s')) : s'.Each P := by
  obtain ⟨-, -, rfl⟩ | ⟨-, ⟨-, rfl⟩ | ⟨emu, dev, emu', dev', ha, -, hinit, hs'⟩⟩ :=
    createWriteEmu_cases hc
  · exact h
  · exact h.congr _ rfl rfl
  obtain ⟨-, shared, -, rfl⟩ | ⟨-, s₁, hs₁, rfl⟩ := hs'
  · exact h.congr _ rfl rfl
  · have hemu' := hP.initLocation (hP.attach (hP.fresh _ _) rfl rfl ha) hinit
    have hcounted : DSound8OAL.Each P
        { s with mShared := some dev', nextBorn := s.nextBorn + 1 } := h.congr _ rfl rfl
    refine (hcounted.destroyWriteEmu hs₁).frame _ rfl ?_
    rintro b ⟨⟩
    exact hemu'

/-- A change of the write-emulation buffer by a method. -/
theorem setWriteEmu (h : s.Each P) {emu emu' : Buffer}
    (hemu : s.mPrimaryBuffer.mWriteEmu = some emu) (hkeeps : P emu → P emu')
    (hgs : s'.mSecondaryBuffers = s.mSecondaryBuffers)
    (hemu' : s'.mPrimaryBuffer.mWriteEmu = some emu') : s'.Each P := by
  refine h.frame _ hgs fun b hb ↦ ?_
  obtain rfl : emu' = b := Option.some.inj (hemu'.symm.trans hb)
  exact hkeeps (h.writeEmu hemu)

/-! ## The primary buffer -/

theorem primaryInitialize (h : s.Each P) (hP : Buffer.Lasts A P) {desc : Option BufferDesc}
    (hc : s.primaryInitialize desc mem = some (hr, s')) : s'.Each P := by
  obtain ⟨-, rfl, -⟩ | ⟨d, hr₁, s₁, -, -, hs₁, hs'⟩ := primaryInitialize_cases hc
  · exact h
  have h₁ : s₁.Each P := by
    obtain ⟨-, s₀, hdestroy, hcreate⟩ | ⟨-, -, rfl⟩ := hs₁
    · exact (h.destroyWriteEmu hdestroy).createWriteEmu hP hcreate
    · exact h
  obtain ⟨-, -, rfl⟩ | ⟨-, -, hset⟩ := hs'
  · exact h₁
  · have hreset : (s₁.resetPrimary d.dwFlags).Each P := h₁.congr _ rfl rfl
    exact hreset.setListenerParams hP hset

theorem createPrimary (h : s.Each P) (hP : Buffer.Lasts A P) {desc : BufferDesc}
    (hc : s.createPrimary desc mem = some (hr, s')) : s'.Each P := by
  have hadd : DSound8OAL.Each P { s with mPrimaryBuffer := s.mPrimaryBuffer.addRef.2 } :=
    h.congr _ rfl rfl
  obtain ⟨s₁, -, hinit, hs'⟩ | ⟨-, -, rfl⟩ := createPrimary_cases hc
  · have h₁ := hadd.primaryInitialize hP hinit
    obtain ⟨-, rfl⟩ | ⟨-, rfl⟩ := hs'
    · refine h₁.congr _ rfl ?_
      unfold PrimaryBuffer.release
      dsimp only
      split_ifs <;> rfl
    · exact h₁
  · exact hadd

/-- **`CreateSoundBuffer`.** -/
theorem createSoundBuffer (h : s.Each P) (hP : Buffer.Lasts A P)
    (hfresh : ∀ base, mem.group = some base → FreshBase base s.mSecondaryBuffers)
    {desc : Option BufferDesc} {dsBuffer outer : Bool}
    (hc : s.createSoundBuffer desc dsBuffer outer mem = some (hr, s')) : s'.Each P := by
  obtain ⟨rfl, -⟩ | ⟨desc, -, ⟨-, hc⟩ | ⟨-, -, p, s₁, hcon, hc⟩⟩ := createSoundBuffer_cases hc
  · exact h
  · exact h.createPrimary hP hc
  · exact h.initializeNew hP hfresh (hP.fresh _ _) rfl rfl hcon hc

theorem setFormat (h : s.Each P) (hP : Buffer.Lasts A P) {wfx : Option WaveFormat}
    (hc : s.setFormat wfx mem = some (hr, s')) : s'.Each P := by
  obtain ⟨rfl, -⟩ | ⟨format, -, hs'⟩ := setFormat_cases hc
  · exact h
  have hformat : DSound8OAL.Each P
      { s with mPrimaryBuffer := { s.mPrimaryBuffer with mFormat := format } } :=
    h.congr _ rfl rfl
  obtain ⟨-, rfl⟩ | ⟨-, s₁, hdestroy, hcreate⟩ := hs'
  · exact hformat
  · exact (hformat.destroyWriteEmu hdestroy).createWriteEmu hP hcreate

theorem primaryPlay (h : s.Each P) (hP : Buffer.Lasts A P)
    {priority flags : UInt32} {started : Bool}
    (hc : s.primaryPlay priority flags started = some (hr, s')) : s'.Each P := by
  obtain ⟨-, -, rfl⟩ | ⟨-, -, rfl⟩ | ⟨emu, dev, emu', dev', notify, hemu, -, hplay, rfl⟩ :=
    primaryPlay_cases hc
  · exact h
  · exact h.congr _ rfl rfl
  · exact h.setWriteEmu hemu (fun hb ↦ hP.play hb hplay) rfl rfl

theorem primaryStop (h : s.Each P) (hP : Buffer.Lasts A P)
    (hc : s.primaryStop = some (hr, s')) : s'.Each P := by
  obtain ⟨-, -, rfl⟩ | ⟨emu, sb, stopped, hr₁, emu', hemu, hsb, rfl, hpos, -, rfl⟩ :=
    primaryStop_cases hc
  · exact h.congr _ rfl rfl
  · refine h.setWriteEmu hemu (fun hb ↦ ?_) rfl rfl
    refine hP.call s.parent (.setCurrentPosition 0) ?_ hpos
    cases hsource : emu.mSource with
    | none => exact hb
    | some src => exact hP.stop hb hsb hsource

theorem primarySetPan (h : s.Each P) (hP : Buffer.Lasts A P) {pan : Int32}
    (hc : s.primarySetPan pan = some (hr, s')) : s'.Each P := by
  obtain ⟨-, rfl⟩ | ⟨-, -, rfl⟩ | ⟨emu, emu', hemu, hpan, rfl⟩ := primarySetPan_cases hc
  · exact h
  · exact h.congr _ rfl rfl
  · exact h.setWriteEmu hemu (fun hb ↦ hP.call s.parent (.setPan pan) hb hpan) rfl rfl

theorem primaryRestore (h : s.Each P) (hP : Buffer.Lasts A P) : s.primaryRestore.2.Each P := by
  unfold DSound8OAL.primaryRestore
  cases hemu : s.mPrimaryBuffer.mWriteEmu with
  | none => exact h
  | some emu => exact h.setWriteEmu hemu (hP.restore s.parent true) rfl rfl

/-- **Every call on the primary buffer.** -/
theorem primaryCall (h : s.Each P) (hP : Buffer.Lasts A P) {c : PrimaryCall}
    (hc : s.primaryCall c = some (hr, s')) : s'.Each P := by
  cases c with
  | addRef | listenerAddRef | listenerRelease | propAddRef | propRelease =>
      cases hc
      exact h.congr _ rfl rfl
  | release =>
      cases hc
      refine h.congr _ rfl ?_
      unfold PrimaryBuffer.release
      dsimp only
      split_ifs <;> rfl
  | initializePrimary desc mem => exact h.primaryInitialize hP hc
  | play priority flags started => exact h.primaryPlay hP hc
  | stop => exact h.primaryStop hP hc
  | setFormat wfx mem => exact h.setFormat hP hc
  | setVolume volume =>
      have hs' : (s.primarySetVolume volume).2 = s' := congrArg Prod.snd (Option.some.inj hc)
      rw [← hs']
      unfold DSound8OAL.primarySetVolume
      split_ifs
      · exact h
      · exact h
      · exact h.congr _ rfl rfl
  | setPan pan => exact h.primarySetPan hP hc
  | restore =>
      have hs' : s.primaryRestore.2 = s' := congrArg Prod.snd (Option.some.inj hc)
      rw [← hs']
      exact h.primaryRestore hP

/-! ## The level -/

theorem loseBuffers (h : s.Each P) (hP : Buffer.Lasts A P) {ps : List Ptr}
    (hc : loseBuffers ps s = some (hr, s')) : s'.Each P := by
  refine loseBuffers_induction (fun t q b hb (ht : t.Each P) ↦ ?_) h hc
  exact ht.setBuffer hb (hP.lose (ht.secondary hb))

/-- **`SetCooperativeLevel`.** -/
theorem setCooperativeLevel (h : s.Each P) (hP : Buffer.Lasts A P) {level : UInt32}
    (hc : s.setCooperativeLevel level mem = some (hr, s')) : s'.Each P := by
  obtain ⟨rfl, -⟩ | ⟨s₁, rfl, -, -, hs₁⟩ := setCooperativeLevel_cases hc
  · exact h
  have h₁ : s₁.Each P := by
    obtain ⟨-, henter⟩ | ⟨-, -, hdestroy⟩ | ⟨-, -, rfl⟩ := hs₁
    · obtain ⟨s₂, hr₂, s₃, hdestroy, hlose, hs₁⟩ := enterWritePrimary_cases henter
      have h₃ := (h.destroyWriteEmu hdestroy).loseBuffers hP hlose
      obtain ⟨-, -, rfl⟩ | ⟨-, -, hcreate⟩ | ⟨-, -, -, rfl⟩ := hs₁
      · exact h₃
      · exact h₃.createWriteEmu hP hcreate
      · exact h₃
    · exact h.destroyWriteEmu hdestroy
    · exact h
  split_ifs
  · exact h₁.congr _ rfl rfl
  · exact h₁

/-- **`DSound8OAL::Initialize`.** -/
theorem initializeObject (h : s.Each P)
    {shared : Except HResult (DeviceSources × Extensions)} {allocs : List (Option ℕ × Bool)}
    (hlegal : (Op.initializeObject shared allocs).Legal s) :
    (s.initializeObject shared allocs).2.Each P := by
  unfold DSound8OAL.initializeObject
  split_ifs
  · exact h
  · rcases shared with hr | ⟨dev, exts⟩
    · exact h
    · refine h.of_buffers (h.pool.preallocate hlegal.2) (fun p b hb ↦ ?_) rfl
      change lookup p (preallocate allocs s.mSecondaryBuffers) = some b at hb
      rw [lookup_preallocate] at hb
      exact h.secondary hb

end Each

/-! ## Steps -/

/-- OpenAL mixes a source, to an offset it may give it. -/
def MixesIn (A : SharedBuffer → UInt32 → Prop) (s : DSound8OAL) : Op → Prop
  | .mix none offset _ => ∀ b sb, s.mPrimaryBuffer.mWriteEmu = some b → b.mBuffer = some sb →
    A sb offset
  | .mix (some p) offset _ => ∀ b sb, s.getBuffer p = some b → b.mBuffer = some sb → A sb offset
  | _ => True

omit [Abi] in
theorem mixesIn_of_all [∀ sb n, Decidable (A sb n)] {offset : UInt32} {ended : Bool}
    (h : (s.getBuffer p).all (fun b ↦ b.mBuffer.all fun sb ↦ decide (A sb offset)) = true) :
    s.MixesIn A (.mix (some p) offset ended) := by
  intro b sb hb hsb
  rw [hb, Option.all_some, hsb, Option.all_some] at h
  exact of_decide_eq_true h

theorem Each.mix (h : s.Each P) (hP : Buffer.Lasts A P)
    {source : Option Ptr} {offset : UInt32} {ended : Bool}
    (hA : s.MixesIn A (.mix source offset ended)) (hc : s.mix source offset ended = some s') :
    s'.Each P := by
  cases source with
  | none =>
      obtain ⟨emu, hemu, hc⟩ := Option.bind_eq_some_iff.mp hc
      cases hc
      exact h.setWriteEmu hemu (fun hb ↦ hP.mix ended hb fun sb ↦ hA emu sb hemu) rfl rfl
  | some p =>
      obtain ⟨b, hb, hc⟩ := Option.bind_eq_some_iff.mp hc
      cases hc
      exact h.setBuffer hb (hP.mix ended (h.secondary hb) fun sb ↦ hA b sb hb)

/-- **Step lemma**. -/
theorem Each.step (h : s.Each P) (hP : Buffer.Lasts A P)
    (hok : s.Ok) {op : Op} (hA : s.MixesIn A op)
    (hs : DSoundStep s op s') : s'.Each P := by
  obtain ⟨hlegal, hr, hc⟩ := hs
  cases op with
  | initializeObject shared allocs =>
      have hinit := h.initializeObject hlegal
      rwa [show s.initializeObject shared allocs = (hr, s') from Option.some.inj hc] at hinit
  | createSoundBuffer desc dsBuffer outer mem => exact h.createSoundBuffer hP hlegal hc
  | duplicateSoundBuffer original duplicate mem => exact h.duplicateSoundBuffer hP hlegal hc
  | setCooperativeLevel level mem => exact h.setCooperativeLevel hP hc
  | release p =>
      obtain ⟨b, hb, hc⟩ := Option.bind_eq_some_iff.mp hc
      obtain ⟨s₁, hs₁, hc⟩ := Option.bind_eq_some_iff.mp hc
      cases hc
      exact h.dispose hb hs₁
  | bufferInitialize p desc mem => exact h.initializeBuffer hok hc
  | buffer p c => exact h.bufferCall hP hc
  | acquireResources p flags effectsCount resultCodes => exact h.acquireResources hP hc
  | play p priority flags started => exact h.play hP hc
  | stop p => exact h.stop hP hc
  | setNotificationPositions p notifies => exact h.setNotificationPositions hP hc
  | eaxSet p immediate accepted => exact h.eaxSet hP hc
  | primary c => exact h.primaryCall hP hc
  | listener c apply => exact h.callListener hP hc
  | commitDeferredSettings =>
      obtain ⟨s₁, hs₁, heq⟩ := Option.map_eq_some_iff.mp hc
      cases heq
      exact h.commit hP hs₁
  | poll =>
      obtain ⟨s₁, hs₁, heq⟩ := Option.map_eq_some_iff.mp hc
      cases heq
      simp only [DSound8OAL.poll, Option.ite_none_right_eq_some] at hs₁
      exact h.triggerNotifies hP hs₁.2
  | mix p offset ended =>
      obtain ⟨s₁, hs₁, heq⟩ := Option.map_eq_some_iff.mp hc
      cases heq
      exact h.mix hP hA hs₁
  | otherSources current =>
      cases hc
      exact h.congr _ rfl rfl

/-- **Run lemma**: a property that lasts holds of every buffer, in every run in which OpenAL
gives the sources offsets in `A`. -/
theorem each_of_reachable (hP : Buffer.Lasts A P)
    (h : Reachable (guarded (MixesIn A) DSoundStep) DSound8OAL.IsNew s) : s.Each P := by
  refine Reachable.invariant_of (fun t ht ↦ ok_of_reachable ht.of_guarded) ?_ ?_ h
  · rintro t ⟨is8, rfl⟩
    exact ⟨PoolOk.nil, by rintro b (⟨p, hb⟩ | hb) <;> cases hb⟩
  · intro t op t' hok ht hs
    exact ht.step hP hok hs.1 hs.2

end DSound8OAL

end Dsoal
