import Dsoal.Formats.Emulation
import Dsoal.Object.Creation
import Dsoal.Object.Deferred
import Dsoal.Object.PrimaryFrame
import Dsoal.Object.Registered
import Dsoal.Playback.Starts

/-!
# Which calls have a result

The methods of an object follow the pointer to the device, the pointers to the samples of its
buffers and the pointers in its lists without a test.  In a reachable state all of them are
good, with one exception: `mNotifyBuffers` may hold a pointer to a buffer that is gone.  So a
call has a result if and only if the client passes pointers to live buffers that have the
interface (`Op.Callable`) and, where the call polls the registered buffers (`Op.Polls`), all of
these are live (`exec_isSome_iff`).
-/

namespace Dsoal

open TransitionSystem

namespace Buffer

variable {b : Buffer} {sb : SharedBuffer}

/-- The buffer has the interface of a call. -/
def Offers (b : Buffer) : BufferCall → Prop
  | .call3D .. => b.is3D
  | _ => True

/-- A buffer with storage can be moved. -/
theorem isSome_setLocation (hsb : b.mBuffer = some sb) (parent : Parent) (dev : DeviceSources)
    (want : LocStatus) : (b.setLocation parent dev want).isSome := by
  have hleave : (b.leaveLocation dev).1.mBuffer = some sb := by rw [leaveLocation_eq, hsb]
  unfold setLocation
  split_ifs
  · rfl
  · rfl
  · dsimp only
    split
    · rfl
    · rw [hleave]
      rfl

/-- A buffer with storage can acquire its resources. -/
theorem isSome_acquireResources (hsb : b.mBuffer = some sb) (parent : Parent)
    (dev : DeviceSources) (flags effectsCount : UInt32) (resultCodes : Bool) :
    (b.acquireResources parent dev flags effectsCount resultCodes).isSome := by
  have hdeferred : (b.deferredLocation parent dev flags).isSome := by
    unfold deferredLocation
    dsimp only
    split_ifs
    · rfl
    · rfl
    · exact isSome_setLocation hsb parent dev _
  unfold acquireResources
  split_ifs
  · rfl
  · rfl
  · rw [hsb, Option.bind_eq_bind, Option.bind_some]
    split_ifs
    · exact hdeferred
    · rfl

/-- A buffer with storage answers the calls of its interfaces. -/
theorem isSome_call (hsb : b.mBuffer = some sb) (parent : Parent) (c : BufferCall) :
    (b.call parent c).isSome ↔ b.Offers c := by
  cases c with
  | setVolume volume =>
      simp only [call, setVolume, hsb, Offers, Option.bind_eq_bind, Option.bind_some]
      split_ifs <;> simp
  | setPan pan =>
      simp only [call, setPan, hsb, Offers, Option.bind_eq_bind, Option.bind_some]
      split_ifs <;> simp
  | setFrequency frequency =>
      simp only [call, setFrequency, hsb, Offers, Option.bind_eq_bind, Option.bind_some]
      split_ifs <;> simp
  | setCurrentPosition newPosition =>
      simp only [call, setCurrentPosition, hsb, Offers, Option.bind_eq_bind, Option.bind_some]
      split_ifs <;> simp
  | restore => simp [call, Offers]
  | call3D c apply =>
      simp only [call, Offers]
      split_ifs with h3 <;> simp [h3]

end Buffer

/-- A call that goes on after a part that has a result. -/
theorem isSome_bind_of {α β : Type} {x : Option α} {f : α → Option β} (hx : x.isSome)
    (hf : ∀ a, x = some a → (f a).isSome) : (x >>= f).isSome := by
  obtain ⟨a, rfl⟩ := Option.isSome_iff_exists.mp hx
  exact hf a rfl

namespace DSound8OAL

variable {s s' : DSound8OAL} {p : Ptr} {b : Buffer} {mem : Memory} {hr : HResult}
  {es : List Registered}

/-! ## With a device -/

theorem isSome_shared (h : ¬ s.mShared.isNone) : s.mShared.isSome :=
  Option.isNone_eq_false_iff.mp (eq_false_of_ne_true h)

/-- A source can be given back. -/
theorem isSome_leaveSource (h : s.mShared.isSome) (b : Buffer) : (s.leaveSource b).isSome := by
  unfold leaveSource
  split
  · rfl
  · rw [Option.isSome_map]
    exact h

/-- A live buffer can be initialized. -/
theorem isSome_initializeBuffer (h : s.mShared.isSome) (hb : s.getBuffer p = some b)
    (desc : Option BufferDesc) (memory : Bool) : (s.initializeBuffer p desc memory).isSome := by
  unfold initializeBuffer
  rw [hb, Option.bind_eq_bind, Option.bind_some]
  cases ha : b.attach s.mExtensions desc memory with
  | error hr => rfl
  | ok b₁ =>
      obtain ⟨sb, -, rfl⟩ := Buffer.attach_eq ha
      simp only [register_eq]
      refine isSome_bind_of h fun dev _ ↦ ?_
      exact isSome_bind_of (Buffer.isSome_initLocation _ dev rfl) fun r _ ↦ rfl

/-- The device stays. -/
theorem initializeBuffer_shared (h : s.mShared.isSome) {desc : Option BufferDesc}
    {memory : Bool} (hc : s.initializeBuffer p desc memory = some (hr, s')) :
    s'.mShared.isSome := by
  obtain ⟨b, -, hc⟩ := Option.bind_eq_some_iff.mp hc
  cases ha : b.attach s.mExtensions desc memory with
  | error hr₁ =>
      rw [ha] at hc
      cases hc
      exact h
  | ok b₁ =>
      rw [ha] at hc
      obtain ⟨dev, -, hc⟩ := Option.bind_eq_some_iff.mp hc
      obtain ⟨r, -, hc⟩ := Option.bind_eq_some_iff.mp hc
      cases hc
      rfl

/-- A write-emulation buffer can be created. -/
theorem isSome_createWriteEmu (h : s.mShared.isSome) (flags : UInt32) (mem : Memory) :
    (s.createWriteEmu flags mem).isSome := by
  unfold createWriteEmu
  split_ifs
  · rfl
  dsimp only
  cases ha : (Buffer.fresh s.nextBorn false).attach s.mExtensions
      (some (s.mPrimaryBuffer.emuDesc flags)) mem.samples with
  | error hr => rfl
  | ok emu =>
      obtain ⟨sb, -, rfl⟩ := Buffer.attach_eq ha
      refine isSome_bind_of h fun dev _ ↦ ?_
      refine isSome_bind_of (Buffer.isSome_initLocation _ dev rfl) fun r _ ↦ ?_
      split_ifs
      · exact isSome_bind_of (isSome_leaveSource rfl _) fun s₁ _ ↦ rfl
      · exact isSome_bind_of (isSome_destroyWriteEmu rfl) fun s₁ _ ↦ rfl

/-- The write-emulation buffer can be replaced. -/
theorem isSome_replaceWriteEmu (h : s.mShared.isSome) (flags : DSound8OAL → UInt32)
    (mem : Memory) :
    (s.destroyWriteEmu.bind fun s ↦ s.createWriteEmu (flags s) mem).isSome := by
  refine isSome_bind_of (isSome_destroyWriteEmu h) fun s₁ hs₁ ↦ isSome_createWriteEmu ?_ _ _
  obtain ⟨-, rfl⟩ | ⟨emu, shared, -, hsh, rfl⟩ := destroyWriteEmu_cases hs₁
  · exact h
  · exact hsh.trans h

variable [Abi]

/-! ## The lists -/

/-- The list of 3D buffers can be walked. -/
theorem Linked.isSome_forBuffers (h : s.Linked) (f : Buffer → Buffer) :
    (s.forBuffers f s.m3dBuffers).isSome := by
  obtain ⟨gs, hfor, -⟩ := forBuffers_eq (f := f) h.pool
    (fun e he ↦ by
      obtain ⟨b, hb, -⟩ := h.live e he
      exact ⟨b, hb⟩) h.nodup
  rw [hfor]
  rfl

/-- **Polling a list** has a result if and only if the buffers of the list are live. -/
theorem Ok.isSome_pollBuffers_iff (h : s.Ok) (es : List Registered) :
    (pollBuffers es s).isSome ↔ ∀ e ∈ es, (s.getBuffer e.ptr).isSome := by
  constructor
  · intro hpoll
    have hpool := h.pool
    clear h
    induction es generalizing s with
    | nil => exact fun e he ↦ absurd he List.not_mem_nil
    | cons e es ih =>
        obtain ⟨⟨kept, s'⟩, hpoll⟩ := Option.isSome_iff_exists.mp hpoll
        obtain ⟨b, hb, hpoll⟩ := Option.bind_eq_some_iff.mp hpoll
        obtain ⟨⟨hit, b', again⟩, -, hpoll⟩ := Option.bind_eq_some_iff.mp hpoll
        obtain ⟨r, hrec, -⟩ := Option.bind_eq_some_iff.mp hpoll
        have hrest := ih (s := { s.setBuffer e.ptr b' with signalled := s.signalled ++ hit })
          (Option.isSome_iff_exists.mpr ⟨r, hrec⟩) (poolOk_setBuffer hpool e.ptr b')
        refine List.forall_mem_cons.mpr ⟨by rw [hb]; rfl, fun e' he' ↦ ?_⟩
        have hlive : ((s.setBuffer e.ptr b').getBuffer e'.ptr).isSome := hrest e' he'
        rw [getBuffer_setBuffer hpool hb] at hlive
        split_ifs at hlive with heq
        · rw [heq, hb]
          rfl
        · exact hlive
  · intro hlive
    refine isSome_pollBuffers h.pool (fun e he ↦ Option.isSome_iff_exists.mp (hlive e he)) ?_
    intro q b hb
    obtain ⟨sb, hsb, -⟩ := (h.buffers q b hb).1.storage
    rw [hsb]
    rfl

/-- The buffers registered for polls are live. -/
def Polled (s : DSound8OAL) : Prop := ∀ e ∈ s.mNotifyBuffers, (s.getBuffer e.ptr).isSome

theorem Ok.isSome_triggerNotifies_iff (h : s.Ok) : s.triggerNotifies.isSome ↔ s.Polled := by
  rw [Polled, ← h.isSome_pollBuffers_iff]
  unfold DSound8OAL.triggerNotifies
  cases pollBuffers s.mNotifyBuffers s <;> rfl

/-! ## Secondary buffers -/

/-- A live buffer has samples. -/
theorem Ok.storage (h : s.Ok) (hb : s.getBuffer p = some b) : ∃ sb, b.mBuffer = some sb := by
  obtain ⟨sb, hsb, -⟩ := (h.buffers p b hb).1.storage
  exact ⟨sb, hsb⟩

omit [Abi] in
/-- A call on a buffer has a result if the buffer is live and the rest of the call has one. -/
theorem isSome_getBuffer_bind {α : Type} {f : Buffer → Option α}
    (hf : ∀ b, s.getBuffer p = some b → (f b).isSome) :
    (s.getBuffer p >>= f).isSome ↔ (s.getBuffer p).isSome := by
  cases hb : s.getBuffer p with
  | none => rfl
  | some b => simpa using hf b hb

/-- The destructor of a live buffer can be run. -/
theorem isSome_dispose (h : s.mShared.isSome) (hb : s.getBuffer p = some b) :
    (s.dispose p).isSome := by
  unfold dispose
  split
  · rfl
  · rw [hb, Option.bind_eq_bind, Option.bind_some]
    refine isSome_bind_of ?_ fun s₁ _ ↦ rfl
    exact isSome_bind_of (isSome_leaveSource h b) fun s₁ _ ↦ rfl

theorem Ok.isSome_initializeBuffer_iff (h : s.Ok) (desc : Option BufferDesc) (memory : Bool) :
    (s.initializeBuffer p desc memory).isSome ↔ (s.getBuffer p).isSome := by
  constructor
  · intro hsome
    obtain ⟨r, hr⟩ := Option.isSome_iff_exists.mp hsome
    obtain ⟨b, hb, -⟩ := Option.bind_eq_some_iff.mp hr
    exact Option.isSome_iff_exists.mpr ⟨b, hb⟩
  · intro hsome
    obtain ⟨b, hb⟩ := Option.isSome_iff_exists.mp hsome
    exact isSome_initializeBuffer (h.shared p b hb) hb desc memory

theorem Ok.isSome_bufferCall_iff (h : s.Ok) (c : BufferCall) :
    (s.bufferCall p c).isSome ↔ ∃ b, s.getBuffer p = some b ∧ b.Offers c := by
  unfold DSound8OAL.bufferCall
  cases hb : s.getBuffer p with
  | none => simp
  | some b =>
      obtain ⟨sb, hsb⟩ := h.storage hb
      have hcall := Buffer.isSome_call hsb s.parent c
      cases hc : b.call s.parent c <;> simp_all

theorem Ok.isSome_acquireResources_iff (h : s.Ok) (flags effectsCount : UInt32)
    (resultCodes : Bool) :
    (s.acquireResources p flags effectsCount resultCodes).isSome ↔ (s.getBuffer p).isSome := by
  unfold DSound8OAL.acquireResources
  refine isSome_getBuffer_bind fun b hb ↦ ?_
  obtain ⟨sb, hsb⟩ := h.storage hb
  refine isSome_bind_of (h.shared p b hb) fun dev _ ↦ ?_
  exact isSome_bind_of (Buffer.isSome_acquireResources hsb _ dev _ _ _) fun r _ ↦ rfl

theorem Ok.isSome_play_iff (h : s.Ok) (priority flags : UInt32) (started : Bool) :
    (s.play p priority flags started).isSome ↔ (s.getBuffer p).isSome := by
  unfold DSound8OAL.play
  refine isSome_getBuffer_bind fun b hb ↦ ?_
  obtain ⟨sb, hsb⟩ := h.storage hb
  refine isSome_bind_of (h.shared p b hb) fun dev _ ↦ ?_
  exact isSome_bind_of (Buffer.isSome_play hsb _ dev _ _ _) fun r _ ↦ rfl

/-- A step that keeps the buffers and the list keeps what the list says. -/
theorem Keeps.polled_iff (h : s.Keeps s') (hlist : s'.mNotifyBuffers = s.mNotifyBuffers) :
    s'.Polled ↔ s.Polled := by
  have hlive : ∀ q, (s'.getBuffer q).isSome ↔ (s.getBuffer q).isSome := by
    intro q
    constructor
    · intro hq
      obtain ⟨b', hb'⟩ := Option.isSome_iff_exists.mp hq
      obtain ⟨b, hb, -⟩ := h.buffer_of hb'
      exact Option.isSome_iff_exists.mpr ⟨b, hb⟩
    · intro hq
      obtain ⟨b, hb⟩ := Option.isSome_iff_exists.mp hq
      obtain ⟨b', hb', -⟩ := h.buffer hb
      exact Option.isSome_iff_exists.mpr ⟨b', hb'⟩
  rw [Polled, Polled, hlist]
  exact forall₂_congr fun e _ ↦ hlive e.ptr

/-- The part of `Stop` and `SetNotificationPositions` that polls the registered buffers, if
they have to, and then goes back to the buffer. -/
theorem Ok.isSome_flushNotify_bind_iff (h : s.Ok) (hb : s.getBuffer p = some b)
    {polls : Prop} [Decidable polls] {α : Type} {f : DSound8OAL → Option α}
    (hf : ∀ s', (∃ b', s'.getBuffer p = some b') → (f s').isSome) :
    (if polls then (s.triggerNotifies.map fun s ↦ s.removeNotifyBuffer p) >>= f
      else f s).isSome ↔ (polls → s.Polled) := by
  split_ifs with hpolls
  · rw [← h.isSome_triggerNotifies_iff, forall_prop_of_true hpolls]
    cases hpoll : s.triggerNotifies with
    | none => simp
    | some s₁ =>
        have hk := h.flushNotify (p := p) (by rw [hpoll]; rfl)
        obtain ⟨b', hb', -⟩ := hk.buffer hb
        simpa using hf _ ⟨b', hb'⟩
  · simpa [hpolls] using hf s ⟨b, hb⟩

theorem Ok.isSome_stop_iff (h : s.Ok) : (s.stop p).isSome ↔ ∃ b, s.getBuffer p = some b ∧
    (b.mSource.isSome → b.hasCaps Caps.ctrlPositionNotify → s.Polled) := by
  unfold DSound8OAL.stop
  cases hb : s.getBuffer p with
  | none => simp
  | some b =>
      obtain ⟨sb, hsb⟩ := h.storage hb
      cases hsrc : b.mSource with
      | none => simp [hsrc]
      | some src =>
          have hk := h.setBuffer hb (h.buffers p b hb).1.pause
          have hb' : (s.setBuffer p b.pause).getBuffer p = some b.pause :=
            (getBuffer_setBuffer h.pool hb b.pause p).trans (if_pos rfl)
          simp only [hsb, hsrc, Buffer.hasCaps, Option.bind_eq_bind, Option.bind_some,
            Option.some.injEq, exists_eq_left', Option.any_some, Option.isSome_some, forall_const]
          refine (hk.ok.isSome_flushNotify_bind_iff hb' ?_).trans
            (imp_congr_right fun _ ↦ hk.polled_iff rfl)
          rintro s' ⟨b', hb'⟩
          rw [hb']
          rfl

/-- The notifications of a buffer can be set if it has the interface. -/
theorem Ok.isSome_setNotificationPositions_iff (h : s.Ok)
    (notifies : Option (List (PositionNotify EventHandle))) :
    (s.setNotificationPositions p notifies).isSome ↔ ∃ b, s.getBuffer p = some b ∧
      b.hasCaps Caps.ctrlPositionNotify ∧ (notifies.isSome → b.mSource.isSome →
        isPlaying b.mSource = false → s.isPendingNotify p → s.Polled) := by
  unfold DSound8OAL.setNotificationPositions
  cases hb : s.getBuffer p with
  | none => simp
  | some b =>
      obtain ⟨sb, hsb⟩ := h.storage hb
      cases hcaps : hasFlag sb.mFlags Caps.ctrlPositionNotify with
      | false => simp [hsb, hcaps, Buffer.hasCaps]
      | true =>
          cases notifies with
          | none => simp [hsb, hcaps, Buffer.hasCaps]
          | some notifies =>
              cases hplay : isPlaying b.mSource with
              | true => simp [hsb, hcaps, hplay, Buffer.hasCaps]
              | false =>
                  simp only [hsb, hcaps, hplay, Buffer.hasCaps, Option.bind_eq_bind,
                    Option.bind_some, Option.some.injEq, exists_eq_left', Option.any_some,
                    Option.isSome_some, forall_const, true_and, Bool.not_true, Bool.false_eq_true,
                    if_false, Bool.and_eq_true]
                  refine (h.isSome_flushNotify_bind_iff hb ?_).trans and_imp
                  rintro s' ⟨b', hb'⟩
                  split
                  · rfl
                  · rw [hb']
                    rfl

/-- An EAX property of a live buffer can be set. -/
theorem Ok.isSome_eaxSet_iff (h : s.Ok) (immediate accepted : Bool) :
    (s.eaxSet p immediate accepted).isSome ↔ (s.getBuffer p).isSome := by
  unfold DSound8OAL.eaxSet
  refine isSome_getBuffer_bind fun b hb ↦ ?_
  have hk := h.setBuffer hb (h.buffers p b hb).1.genSource
  obtain ⟨s₁, hs₁, -⟩ := hk.ok.commit
  dsimp only
  rw [hs₁]
  split_ifs <;> rfl

/-! ## The listener -/

/-- The parameters of the listener can be set. -/
theorem Linked.isSome_setListenerParams (h : s.Linked) (params : DS3DListener)
    (flags : ListenerFlags) : (s.setListenerParams params flags).isSome := by
  obtain ⟨s', hs', -⟩ := h.setListenerParams_maps params flags
  rw [hs']
  rfl

omit [Abi] in
/-- A setter of the listener has a result if what it writes has one. -/
theorem isSome_listenerSetter {valid : Bool} {flag : ListenerFlag}
    {store : DS3DListener → DS3DListener} {write : DSound8OAL → Option DSound8OAL}
    (hwrite : ∀ primary, (write { s with mPrimaryBuffer := primary }).isSome) (apply : UInt32) :
    (listenerSetter valid flag store write apply s).isSome := by
  unfold listenerSetter
  split_ifs
  · rfl
  · rfl
  · exact isSome_bind_of (hwrite _) fun s₁ _ ↦ rfl

/-- **Every call of the listener has a result.** -/
theorem Linked.isSome_callListener (h : s.Linked) (c : ListenerCall) (apply : UInt32) :
    (s.callListener c apply).isSome := by
  cases c with
  | setAllParameters listener =>
      simp only [callListener, listenerSetAllParameters]
      cases listener with
      | none => rfl
      | some params =>
          dsimp only
          split_ifs
          · rfl
          · rfl
          · rfl
          · exact isSome_bind_of (h.isSome_setListenerParams params .all) fun s₁ _ ↦ rfl
  | setRolloffFactor x =>
      refine isSome_listenerSetter (fun primary ↦ ?_) apply
      exact Linked.isSome_forBuffers (s := { s with mPrimaryBuffer := primary })
        ⟨h.pool, h.live, h.listed, h.nodup⟩ _
  | setDistanceFactor x => exact isSome_listenerSetter (fun _ ↦ rfl) apply
  | setDopplerFactor x => exact isSome_listenerSetter (fun _ ↦ rfl) apply
  | setOrientation x y z x' y' z' =>
      simp only [callListener, setOrientation]
      exact isSome_listenerSetter (fun _ ↦ rfl) apply
  | setPosition x y z =>
      simp only [callListener, listenerSetPosition]
      exact isSome_listenerSetter (fun _ ↦ rfl) apply
  | setVelocity x y z =>
      simp only [callListener, listenerSetVelocity]
      exact isSome_listenerSetter (fun _ ↦ rfl) apply

/-! ## The primary buffer -/

/-- There is a device, if the level has been set to `DSSCL_WRITEPRIMARY`. -/
def Leveled (s : DSound8OAL) : Prop := s.mPrioLevel = Level.writePrimary → s.mShared.isSome

/-- **`PrimaryBuffer::Initialize` has a result.** -/
theorem Ok.isSome_primaryInitialize (h : s.Ok) (hlevel : s.Leveled) (desc : Option BufferDesc)
    (mem : Memory) : (s.primaryInitialize desc mem).isSome := by
  unfold DSound8OAL.primaryInitialize
  cases desc with
  | none => rfl
  | some desc =>
      dsimp only
      split_ifs with hargs hflags hinit hwrite
      · rfl
      · rfl
      · rfl
      · refine isSome_bind_of (isSome_replaceWriteEmu (hlevel hwrite) (fun _ ↦ desc.dwFlags) mem)
          fun r hr ↦ ?_
        obtain ⟨s₁, hs₁, hr⟩ := Option.bind_eq_some_iff.mp hr
        have hk₁ := (h.destroyWriteEmu hs₁).1
        have hk := (hk₁.ok.createWriteEmu hr).1
        split_ifs
        · rfl
        · refine isSome_bind_of (Linked.isSome_setListenerParams ?_ _ _) fun s₂ _ ↦ rfl
          exact ⟨hk.ok.pool, hk.ok.live, hk.ok.listed, hk.ok.nodup⟩
      · refine isSome_bind_of rfl fun r hr ↦ ?_
        cases hr
        refine isSome_bind_of (Linked.isSome_setListenerParams ?_ _ _) fun s₂ _ ↦ rfl
        exact ⟨h.pool, h.live, h.listed, h.nodup⟩

/-- The write-emulation buffer has samples, and there is a device. -/
theorem Ok.emu (h : s.Ok) {emu : Buffer} (hemu : s.mPrimaryBuffer.mWriteEmu = some emu) :
    s.mShared.isSome ∧ ∃ sb, emu.mBuffer = some sb := by
  obtain ⟨hok, -, hshared⟩ := h.writeEmu emu hemu
  obtain ⟨sb, hsb, -⟩ := hok.storage
  exact ⟨hshared, sb, hsb⟩

/-- **Every call on the primary buffer has a result.** -/
theorem Ok.isSome_primaryCall (h : s.Ok) (hlevel : s.Leveled) (c : PrimaryCall) :
    (s.primaryCall c).isSome := by
  cases c with
  | initializePrimary desc mem => exact h.isSome_primaryInitialize hlevel desc mem
  | play priority flags started =>
      simp only [DSound8OAL.primaryCall, DSound8OAL.primaryPlay]
      split_ifs
      · rfl
      cases hemu : s.mPrimaryBuffer.mWriteEmu with
      | none => rfl
      | some emu =>
          obtain ⟨hshared, sb, hsb⟩ := h.emu hemu
          refine isSome_bind_of hshared fun dev _ ↦ ?_
          exact isSome_bind_of (Buffer.isSome_play hsb _ dev _ _ _) fun r _ ↦ rfl
  | stop =>
      simp only [DSound8OAL.primaryCall, DSound8OAL.primaryStop]
      cases hemu : s.mPrimaryBuffer.mWriteEmu with
      | none => rfl
      | some emu =>
          obtain ⟨-, sb, hsb⟩ := h.emu hemu
          have hseek : ∀ b : Buffer, b.mBuffer = some sb → (b.setCurrentPosition 0).isSome :=
            fun b hb ↦ (Buffer.isSome_call hb s.parent (.setCurrentPosition 0)).mpr trivial
          refine isSome_bind_of (Option.isSome_iff_exists.mpr ⟨sb, hsb⟩) fun sb₁ _ ↦ ?_
          refine isSome_bind_of (hseek _ ?_) fun r _ ↦ rfl
          split <;> exact hsb
  | setFormat wfx mem =>
      simp only [DSound8OAL.primaryCall, DSound8OAL.setFormat]
      cases wfx with
      | none => rfl
      | some wfx =>
          cases hcopy : PrimaryBuffer.copyFormat wfx with
          | none =>
              simp only [hcopy]
              split_ifs <;> rfl
          | some format =>
              simp only [hcopy]
              split_ifs with _ _ hemu
              · rfl
              · rfl
              · obtain ⟨emu, hemu⟩ := Option.isSome_iff_exists.mp hemu
                exact isSome_replaceWriteEmu
                  (s := { s with mPrimaryBuffer := { s.mPrimaryBuffer with mFormat := format } })
                  (h.emu hemu).1 (fun s ↦ s.mPrimaryBuffer.mFlags) mem
              · rfl
  | setPan pan =>
      simp only [DSound8OAL.primaryCall, DSound8OAL.primarySetPan]
      split_ifs
      · rfl
      · rfl
      cases hemu : s.mPrimaryBuffer.mWriteEmu with
      | none => rfl
      | some emu =>
          obtain ⟨-, sb, hsb⟩ := h.emu hemu
          have hpan : (emu.setPan s.parent pan).isSome :=
            (Buffer.isSome_call hsb s.parent (.setPan pan)).mpr trivial
          exact isSome_bind_of hpan fun r _ ↦ rfl
  | addRef => rfl
  | release => rfl
  | listenerAddRef => rfl
  | listenerRelease => rfl
  | propAddRef => rfl
  | propRelease => rfl
  | setVolume volume => rfl
  | restore => rfl

/-- `CreateSoundBuffer` returns the primary buffer, or an error. -/
theorem Ok.isSome_createPrimary (h : s.Ok) (hshared : s.mShared.isSome) (desc : BufferDesc)
    (mem : Memory) : (s.createPrimary desc mem).isSome := by
  have hk : s.Keeps { s with mPrimaryBuffer := s.mPrimaryBuffer.addRef.2 } :=
    h.keeps_listener _ s.alListener rfl rfl
  unfold DSound8OAL.createPrimary
  dsimp only
  split_ifs
  · refine isSome_bind_of (hk.ok.isSome_primaryInitialize (fun _ ↦ hshared) _ mem) fun r _ ↦ ?_
    split_ifs <;> rfl
  · rfl

/-! ## Creation -/

/-- With a device, a buffer that has just been constructed can be initialized, or disposed of
if that fails. -/
theorem isSome_initializeNew (hpool : PoolOk s.mSecondaryBuffers) (h : s.mShared.isSome)
    (hb : s.getBuffer p = some b) (desc : Option BufferDesc) (memory : Bool) :
    (s.initializeNew p desc memory).isSome := by
  refine isSome_bind_of (isSome_initializeBuffer h hb desc memory) fun r hr ↦ ?_
  obtain ⟨hr₁, s₁⟩ := r
  dsimp only
  split_ifs
  · refine isSome_bind_of ?_ fun s₂ _ ↦ rfl
    obtain ⟨-, -, b₁, hb₁, -⟩ := initializeBuffer_storage hpool hr
    exact isSome_dispose (initializeBuffer_shared h hr) hb₁
  · rfl

/-- A buffer can be constructed and initialized if there is room for it. -/
theorem Ok.isSome_create (h : s.Ok) (hshared : s.mShared.isSome)
    (hfresh : ∀ base, mem.group = some base → FreshBase base s.mSecondaryBuffers) {b : Buffer}
    {s₁ : DSound8OAL} (hc : s.construct b mem = some (p, s₁)) (desc : Option BufferDesc) :
    (s₁.initializeNew p desc mem.samples).isSome := by
  obtain ⟨gs, rfl, hpool, -, hlook⟩ := construct_eq h.pool hfresh hc
  exact isSome_initializeNew
    (s := { s with mSecondaryBuffers := gs, nextBorn := s.nextBorn + 1 }) hpool hshared
    ((hlook p).trans (if_pos rfl)) desc _

/-- The call gets to the construction of a secondary buffer. -/
def Constructs (s : DSound8OAL) (bufferDesc : Option BufferDesc) (dsBuffer outer : Bool) : Prop :=
  ∃ desc, s.Accepts bufferDesc dsBuffer outer desc ∧ ¬ hasFlag desc.dwFlags Caps.primaryBuffer ∧
    ¬ (hasFlag desc.dwFlags Caps.ctrl3D ∧ hasFlag desc.dwFlags Caps.ctrlPan ∧ s.mIs8)

/-- **`CreateSoundBuffer`** uses the buffer it has constructed without a test. -/
theorem Ok.isSome_createSoundBuffer_iff (h : s.Ok) (bufferDesc : Option BufferDesc)
    (dsBuffer outer : Bool)
    (hfresh : ∀ base, mem.group = some base → FreshBase base s.mSecondaryBuffers) :
    (s.createSoundBuffer bufferDesc dsBuffer outer mem).isSome ↔
      (s.Constructs bufferDesc dsBuffer outer → s.HasSlot mem) := by
  constructor
  · rintro hsome ⟨desc, hacc, hprimary, hpan⟩
    obtain ⟨⟨hr, s'⟩, hc⟩ := Option.isSome_iff_exists.mp hsome
    obtain ⟨-, -, hreject⟩ | ⟨desc', hacc', ⟨hprimary', -⟩ | ⟨-, -, p, s₁, hcon, -⟩⟩ :=
      createSoundBuffer_cases hc
    · exact absurd (hreject desc hacc).2 hpan
    · obtain rfl : desc = desc' := Option.some.inj (hacc.eq.symm.trans hacc'.eq)
      exact absurd hprimary' hprimary
    · rw [← h.isSome_construct hfresh, hcon]
      rfl
  · intro hslot
    unfold DSound8OAL.createSoundBuffer
    cases bufferDesc with
    | none =>
        dsimp only
        split_ifs <;> rfl
    | some desc =>
        dsimp only
        split_ifs with hptr houter hsize hshared hprimary hpan
        · rfl
        · rfl
        · rfl
        · rfl
        · exact h.isSome_createPrimary (isSome_shared hshared) desc mem
        · rfl
        · have hacc : s.Accepts (some desc) dsBuffer outer desc :=
            ⟨rfl, by simpa using hptr, by simpa using houter, hsize, Bool.eq_false_iff.mpr hshared⟩
          refine isSome_bind_of ((h.isSome_construct hfresh _).mpr
            (hslot ⟨desc, hacc, hprimary, hpan⟩)) fun r hr ↦ ?_
          exact h.isSome_create (isSome_shared hshared) hfresh hr (some desc)

/-- **`DuplicateSoundBuffer`** looks at the buffer it is given once it has a device. -/
theorem Ok.isSome_duplicateSoundBuffer_iff (h : s.Ok) (original : Option Ptr) (duplicate : Bool)
    (hfresh : ∀ base, mem.group = some base → FreshBase base s.mSecondaryBuffers) :
    (s.duplicateSoundBuffer original duplicate mem).isSome ↔
      (s.mShared.isSome → duplicate → ∀ p ∈ original, (s.getBuffer p).isSome) := by
  unfold DSound8OAL.duplicateSoundBuffer
  by_cases hshared : s.mShared.isNone
  · simp [Option.isSome_iff_ne_none, Option.isNone_iff_eq_none.mp hshared]
  rw [if_neg hshared]
  have hsome : s.mShared.isSome := isSome_shared hshared
  cases original with
  | none => simp
  | some p =>
      cases duplicate with
      | false => simp
      | true =>
          simp only [hsome, Bool.not_true, Bool.false_eq_true, if_false, forall_const,
            Option.mem_def, Option.some.injEq, forall_eq']
          refine isSome_getBuffer_bind fun orig horig ↦ ?_
          obtain ⟨sb, hsb⟩ := h.storage horig
          rw [hsb, Option.bind_eq_bind, Option.bind_some]
          split_ifs
          · rfl
          · rfl
          refine isSome_bind_of (by simp [Buffer.duplicate, hsb]) fun b _ ↦ ?_
          cases hcon : s.construct b mem with
          | none => rfl
          | some r => exact h.isSome_create hsome hfresh hcon none

/-- **Entering `DSSCL_WRITEPRIMARY` has a result.** -/
theorem Ok.isSome_enterWritePrimary (h : s.Ok) (hshared : s.mShared.isSome) (mem : Memory) :
    (s.enterWritePrimary mem).isSome := by
  refine isSome_bind_of (isSome_destroyWriteEmu hshared) fun s₁ hs₁ ↦ ?_
  obtain ⟨hk₁, -⟩ := h.destroyWriteEmu hs₁
  have hlive : ∀ p ∈ livePtrs s₁.mSecondaryBuffers, (s₁.getBuffer p).isSome :=
    fun p hp ↦ hk₁.ok.pool.mem_livePtrs.mp hp
  have hwalk : (DSound8OAL.loseBuffers (livePtrs s₁.mSecondaryBuffers) s₁).isSome := by
    refine (isSome_loseBuffers_iff hk₁.ok.pool hlive hk₁.ok.pool.nodup_livePtrs).mpr fun p hp ↦ ?_
    obtain ⟨b, hb⟩ := Option.isSome_iff_exists.mp (hlive p (mem_of_mem_walked hp))
    obtain ⟨sb, hsb⟩ := hk₁.ok.storage hb
    simp [hb, hsb]
  refine isSome_bind_of hwalk fun r hr ↦ ?_
  obtain ⟨hr₂, s₂⟩ := r
  obtain ⟨hk₂, -⟩ := hk₁.ok.loseBuffers hr
  dsimp only
  split_ifs
  · rfl
  · exact isSome_createWriteEmu (by rw [hk₂.shared, hk₁.shared, hshared]) _ _
  · rfl

/-- **`SetCooperativeLevel` has a result.** -/
theorem Ok.isSome_setCooperativeLevel (h : s.Ok) (level : UInt32) (mem : Memory) :
    (s.setCooperativeLevel level mem).isSome := by
  unfold DSound8OAL.setCooperativeLevel
  split_ifs with hshared hrange henter hleave
  · rfl
  · rfl
  · exact isSome_bind_of (h.isSome_enterWritePrimary (isSome_shared hshared) mem) fun r _ ↦ rfl
  · refine isSome_bind_of ?_ fun r _ ↦ rfl
    rw [Option.isSome_map]
    exact isSome_destroyWriteEmu (isSome_shared hshared)
  · rfl

/-! ## The level -/

/-- **Step lemma**: the level is set on an object with a device only, and the device stays. -/
theorem Leveled.step {op : Op} (hlevel : s.Leveled) (h : s.Ok) (hs : DSoundStep s op s') :
    s'.Leveled := by
  have hof : ∀ {t : DSound8OAL}, s.Keeps t → t.Leveled := by
    intro t hk hl
    rw [hk.shared]
    exact hlevel (hk.level ▸ hl)
  obtain ⟨hlegal, hr, hc⟩ := hs
  cases op with
  | initializeObject shared allocs =>
      obtain rfl : (s.initializeObject shared allocs).2 = s' :=
        congrArg Prod.snd (Option.some.inj hc)
      unfold DSound8OAL.initializeObject
      split_ifs
      · exact hlevel
      · rcases shared with _ | ⟨dev, exts⟩
        · exact hlevel
        · exact fun _ ↦ rfl
  | createSoundBuffer bufferDesc dsBuffer outer mem =>
      rcases h.createSoundBuffer hlegal hc with ⟨-, p, b, hb⟩ | ⟨-, hk⟩
      · exact fun _ ↦ hb.ok.shared p b hb.buffer
      · exact hof hk
  | duplicateSoundBuffer original duplicate mem =>
      rcases h.duplicateSoundBuffer hlegal hc with ⟨-, p, b, hb⟩ | ⟨-, hk⟩
      · exact fun _ ↦ hb.ok.shared p b hb.buffer
      · exact hof hk
  | setCooperativeLevel level mem =>
      obtain ⟨rfl, -⟩ | ⟨-, -, hshared, -⟩ := setCooperativeLevel_cases hc
      · exact hlevel
      rcases h.setCooperativeLevel hc with hk | ⟨⟨s₁, hk, rfl⟩, -⟩
      · exact hof hk
      · exact fun _ ↦ hk.shared.trans (Option.isNone_eq_false_iff.mp hshared)
  | release p =>
      obtain ⟨b, hb, hc⟩ := Option.bind_eq_some_iff.mp hc
      obtain ⟨s₁, hs₁, hc⟩ := Option.bind_eq_some_iff.mp hc
      cases hc
      obtain ⟨shared, hshared, rfl⟩ := dispose_eq h.pool hb hs₁
      exact fun _ ↦ hshared.trans (h.shared p b hb)
  | bufferInitialize p desc mem => exact hof (h.initializeBuffer hc)
  | buffer p c => exact hof (h.bufferCall hc)
  | acquireResources p flags effectsCount resultCodes => exact hof (h.acquireResources hc)
  | play p priority flags started => exact hof (h.play hc)
  | stop p => exact hof (h.stop hc)
  | setNotificationPositions p notifies => exact hof (h.setNotificationPositions hc)
  | eaxSet p immediate accepted => exact hof (h.eaxSet hc)
  | primary c => exact hof (h.primaryCall hc)
  | listener c apply => exact hof (h.callListener hc)
  | commitDeferredSettings =>
      obtain ⟨s₁, hs₁, hc⟩ := Option.map_eq_some_iff.mp hc
      cases hc
      obtain ⟨s₂, hs₂, hk⟩ := h.commit
      obtain rfl : s₂ = s' := Option.some.inj (hs₂.symm.trans hs₁)
      exact hof hk
  | poll =>
      obtain ⟨s₁, hs₁, hc⟩ := Option.map_eq_some_iff.mp hc
      cases hc
      exact hof (h.triggerNotifies (Option.ite_none_right_eq_some.mp hs₁).2)
  | mix p offset ended =>
      obtain ⟨s₁, hs₁, hc⟩ := Option.map_eq_some_iff.mp hc
      cases hc
      exact hof (h.mix hs₁)
  | otherSources current =>
      cases hc
      exact hof (h.otherSources current)

/-- **Run lemma**: at the level `DSSCL_WRITEPRIMARY` there is a device. -/
theorem leveled_of_reachable (h : Reachable DSoundStep IsNew s) : s.Leveled := by
  refine Reachable.invariant_of (fun t ht ↦ ok_of_reachable ht) ?_ ?_ h
  · rintro t ⟨is8, rfl⟩ hl
    have h0 : (0 : UInt32) = Level.writePrimary := hl
    exact absurd h0 (by decide)
  · intro t op t' hok hlevel hs
    exact hlevel.step hok hs

end DSound8OAL

/-! ## The steps -/

/-- The client calls a method that is there: the pointers it passes are to live buffers, which
have the interface of the call; the notify thread polls once it has been started, OpenAL mixes a
write-emulation buffer if there is one, and `CreateSoundBuffer` has room for the buffer it
constructs. -/
def Op.Callable (s : DSound8OAL) : Op → Prop
  | .createSoundBuffer bufferDesc dsBuffer outer mem =>
    s.Constructs bufferDesc dsBuffer outer → s.HasSlot mem
  | .duplicateSoundBuffer original duplicate _ =>
    s.mShared.isSome → duplicate → ∀ p ∈ original, (s.getBuffer p).isSome
  | .buffer p c => ∃ b, s.getBuffer p = some b ∧ b.Offers c
  | .setNotificationPositions p _ =>
    ∃ b, s.getBuffer p = some b ∧ b.hasCaps Caps.ctrlPositionNotify
  | .release p | .bufferInitialize p .. | .acquireResources p .. | .play p .. | .stop p
  | .eaxSet p .. | .mix (some p) .. => (s.getBuffer p).isSome
  | .mix none .. => s.mPrimaryBuffer.mWriteEmu.isSome
  | .poll => s.mNotifyThread
  | _ => True

/-- The call polls the buffers that are registered for polls. -/
def Op.Polls (s : DSound8OAL) : Op → Prop
  | .poll => True
  | .stop p => ∃ b, s.getBuffer p = some b ∧ b.mSource.isSome ∧
    b.hasCaps Caps.ctrlPositionNotify
  | .setNotificationPositions p notifies => notifies.isSome ∧ s.isPendingNotify p ∧
    ∃ b, s.getBuffer p = some b ∧ b.mSource.isSome ∧ isPlaying b.mSource = false
  | _ => False

open DSound8OAL

variable [Abi] {s : DSound8OAL}

/-- **Progress**: in a reachable state a call follows no null pointer and no pointer to a buffer
that is gone, and so has a result, if and only if the client calls a method that is there and, if
the call polls the registered buffers, all of these are live.  In the runs in which no buffer is
released while it is registered, the first of the two is enough. -/
theorem exec_isSome_iff (h : Reachable DSoundStep IsNew s) (op : Op) (hlegal : op.Legal s) :
    ((s.exec op).isSome ↔ op.Callable s ∧ (op.Polls s → s.Polled)) ∧
    (Reachable (guarded (fun s op ↦ ¬ s.ReleasesPending op) DSoundStep) IsNew s →
      ((s.exec op).isSome ↔ op.Callable s)) := by
  have hok := ok_of_reachable h
  have hiff : (s.exec op).isSome ↔ op.Callable s ∧ (op.Polls s → s.Polled) := by
    -- all calls but three poll nothing
    have hcall : ∀ {P Q : Prop}, (P ↔ Q) → (P ↔ Q ∧ (False → s.Polled)) :=
      fun h ↦ h.trans (and_iff_left False.elim).symm
    cases op with
    | initializeObject shared allocs => exact hcall (iff_true_intro rfl)
    | createSoundBuffer bufferDesc dsBuffer outer mem =>
        exact hcall (hok.isSome_createSoundBuffer_iff bufferDesc dsBuffer outer hlegal)
    | duplicateSoundBuffer original duplicate mem =>
        exact hcall (hok.isSome_duplicateSoundBuffer_iff original duplicate hlegal)
    | setCooperativeLevel level mem =>
        exact hcall (iff_true_intro (hok.isSome_setCooperativeLevel level mem))
    | release p =>
        refine hcall (isSome_getBuffer_bind fun b hb ↦ ?_)
        exact isSome_bind_of (isSome_dispose (hok.shared p b hb) hb) fun s₁ _ ↦ rfl
    | bufferInitialize p desc mem => exact hcall (hok.isSome_initializeBuffer_iff desc mem.samples)
    | buffer p c => exact hcall (hok.isSome_bufferCall_iff c)
    | acquireResources p flags effectsCount resultCodes =>
        exact hcall (hok.isSome_acquireResources_iff flags effectsCount resultCodes)
    | play p priority flags started => exact hcall (hok.isSome_play_iff priority flags started)
    | stop p =>
        refine hok.isSome_stop_iff.trans ?_
        cases hb : s.getBuffer p <;> simp [Op.Callable, Op.Polls, hb]
    | setNotificationPositions p notifies =>
        refine (hok.isSome_setNotificationPositions_iff notifies).trans ?_
        cases hb : s.getBuffer p with
        | none => simp [Op.Callable, hb]
        | some b =>
            simp only [Op.Callable, Op.Polls, hb, Option.some.injEq, exists_eq_left', and_imp]
            exact and_congr_right fun _ ↦ ⟨fun h hn hp hsrc hplay ↦ h hn hsrc hplay hp,
              fun h hn hsrc hplay hp ↦ h hn hp hsrc hplay⟩
    | eaxSet p immediate accepted => exact hcall (hok.isSome_eaxSet_iff immediate accepted)
    | primary c =>
        exact hcall (iff_true_intro (hok.isSome_primaryCall (leveled_of_reachable h) c))
    | listener c apply => exact hcall (iff_true_intro (hok.isSome_callListener c apply))
    | commitDeferredSettings =>
        obtain ⟨s₁, hs₁, -⟩ := hok.commit
        refine hcall (iff_true_intro ?_)
        rw [exec, hs₁]
        rfl
    | poll =>
        rw [exec, Option.isSome_map, DSound8OAL.poll]
        cases hthread : s.mNotifyThread with
        | false => simp [Op.Callable, hthread]
        | true => simpa [Op.Callable, Op.Polls, hthread] using hok.isSome_triggerNotifies_iff
    | mix p offset ended =>
        rw [exec, Option.isSome_map]
        cases p with
        | none =>
            refine hcall ?_
            cases hemu : s.mPrimaryBuffer.mWriteEmu <;> simp [DSound8OAL.mix, Op.Callable, hemu]
        | some p => exact hcall (isSome_getBuffer_bind fun b _ ↦ rfl)
    | otherSources current => exact hcall (iff_true_intro rfl)
  refine ⟨hiff, fun hrun ↦ hiff.trans (and_iff_left fun _ e he ↦ ?_)⟩
  obtain ⟨b, hb, -⟩ := notifyLive_of_reachable hrun e he
  exact Option.isSome_iff_exists.mpr ⟨b, hb⟩

omit [Abi] in
set_option maxRecDepth 4000 in
/-- A buffer that has been created can be stopped. -/
theorem exec_isSome_iff_one :
    letI : Abi := ⟨⟨600, by decide⟩⟩
    ∃ s, Reachable DSoundStep IsNew s ∧ (s.getBuffer ⟨4096, 0⟩).any (fun b ↦ b.mSource.isSome) ∧
      (s.exec (Op.stop ⟨4096, 0⟩)).isSome := by
  let _ : Abi := ⟨⟨600, by decide⟩⟩
  have h0 : Reachable DSoundStep IsNew (DSound8OAL.new true) := .init ⟨true, rfl⟩
  have h1 := h0.step (i := initializeOne) ⟨initializeOne_legal true, _, rfl⟩
  have h2 := h1.step (i := createMono Caps.locHardware) ⟨createMono_legal _ _, _, rfl⟩
  refine ⟨_, h2, rfl, (exec_isSome_iff h2 (Op.stop ⟨4096, 0⟩) trivial).1.mpr ⟨rfl, ?_⟩⟩
  exact fun _ e he ↦ absurd he List.not_mem_nil

end Dsoal
