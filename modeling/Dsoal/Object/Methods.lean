import Dsoal.Object.Cases
import Dsoal.Object.Invariant
import Dsoal.Object.Listener

/-!
# The methods that keep all buffers

For every method that neither creates nor destroys a buffer, nor changes the
cooperative level: what it does is `Keeps`.
-/

namespace Dsoal

namespace DSound8OAL

variable [Abi] {s s' : DSound8OAL} {p : Ptr} {hr : HResult}

/-! ## The listener -/

/-- Changes of the primary buffer and the listener that leave the rolloff factor and
the write-emulation buffer alone. -/
theorem Ok.keeps_listener (h : s.Ok) (primary : PrimaryBuffer) (l : ListenerAttrs)
    (hroll : primary.mImmediate.flRolloffFactor = s.rolloff)
    (hemu : primary.mWriteEmu = s.mPrimaryBuffer.mWriteEmu) :
    s.Keeps { s with mPrimaryBuffer := primary, alListener := l } :=
  h.frame _ rfl hroll (hemu ▸ h.writeEmu) rfl rfl rfl le_rfl rfl (.refl _)

/-- **`PrimaryBuffer::setParams`** brings the sources of all 3D buffers up to date with
the rolloff factor. -/
theorem Ok.setListenerParams (h : s.Ok) (params : DS3DListener) (flags : ListenerFlags) :
    ∃ s', s.setListenerParams params flags = some s' ∧ s.Keeps s' := by
  unfold DSound8OAL.setListenerParams
  by_cases hr : flags .rolloffFactor
  · simp only [hr, if_true]
    have hroll : (PrimaryBuffer.copyParams flags params s.mPrimaryBuffer.mImmediate).flRolloffFactor
        = params.flRolloffFactor := by
      simp [PrimaryBuffer.copyParams, hr]
    have hf : ∀ b : Buffer, b.Ok s.mExtensions s.rolloff → b.is3D →
        b.Keeps s.mExtensions
          (PrimaryBuffer.copyParams flags params s.mPrimaryBuffer.mImmediate).flRolloffFactor
          s.mPrioLevel (b.writeRolloff params.flRolloffFactor) := by
      intro b hb h3
      rw [hroll]
      exact hb.writeRolloff h3
    obtain ⟨gs, hfor, hk⟩ := h.forBuffers
      { s with
        mPrimaryBuffer := { s.mPrimaryBuffer with
          mImmediate := PrimaryBuffer.copyParams flags params s.mPrimaryBuffer.mImmediate }
        alListener := PrimaryBuffer.writeParams s.mExtensions params flags s.alListener }
      rfl hf rfl rfl rfl rfl rfl rfl rfl
    exact ⟨_, hfor, hk⟩
  · simp only [hr]
    refine ⟨_, rfl, h.keeps_listener _ _ ?_ rfl⟩
    simp [PrimaryBuffer.copyParams, hr]

/-- **`CommitDeferredSettings`** succeeds, and brings the sources of all 3D buffers up to
date with what has been pending. -/
theorem Ok.commit (h : s.Ok) : ∃ s', s.commit = some s' ∧ s.Keeps s' := by
  rw [commit_eq]
  have hclean : s.Keeps s.clearDirty := h.keeps_listener _ s.alListener rfl rfl
  obtain ⟨s₁, hs₁, hk₁⟩ := hclean.ok.setListenerParams s.mPrimaryBuffer.mDeferred
    s.mPrimaryBuffer.mDirty
  rw [hs₁, Option.bind_some]
  have hf : ∀ b : Buffer, b.Ok s₁.parent.mExtensions s₁.parent.rolloffFactor → b.is3D →
      b.Keeps s₁.parent.mExtensions s₁.parent.rolloffFactor s₁.mPrioLevel (b.commit s₁.parent) :=
    fun b hb h3 ↦ hb.commit h3
  obtain ⟨gs, hfor, hk⟩ := hk₁.ok.forBuffers s₁ rfl hf rfl rfl rfl rfl rfl rfl rfl
  exact ⟨_, hfor, hclean.trans (hk₁.trans hk)⟩

theorem Ok.deferListener (h : s.Ok) (flags : ListenerFlags) (store : DS3DListener → DS3DListener) :
    s.Keeps (s.deferListener flags store) :=
  h.keeps_listener _ s.alListener rfl rfl

/-- **Every call of `IDirectSound3DListener`.** -/
theorem Ok.callListener {c : ListenerCall} {apply : UInt32} (h : s.Ok)
    (hc : s.callListener c apply = some (hr, s')) : s.Keeps s' := by
  obtain ⟨-, -, rfl⟩ | ⟨F, P, -, -, ⟨-, n, rfl⟩ | ⟨-, hset⟩⟩ := callListener_cases hc
  · exact h.refl
  · exact h.deferListener _ _
  · obtain ⟨s₁, hs₁, hk⟩ := h.setListenerParams P F
    obtain rfl : s₁ = s' := Option.some.inj (hs₁.symm.trans hset)
    exact hk

/-! ## Secondary buffers -/

theorem Ok.keeps_shared (h : s.Ok) {dev : DeviceSources} (hdev : s.mShared = some dev)
    (dev' : DeviceSources) : s.Keeps { s with mShared := some dev' } :=
  h.frame _ rfl rfl h.writeEmu rfl rfl rfl le_rfl (by simp [hdev]) (.refl _)

/-- A buffer is changed together with the source counters. -/
theorem Ok.setBuffer_shared (h : s.Ok) {b b' : Buffer} (hp : s.getBuffer p = some b)
    (hk : b.Keeps s.mExtensions s.rolloff s.mPrioLevel b') {dev : DeviceSources}
    (hdev : s.mShared = some dev) (dev' : DeviceSources) :
    s.Keeps { s.setBuffer p b' with mShared := some dev' } := by
  have hset := h.setBuffer hp hk
  have hdev' : (s.setBuffer p b').mShared = some dev := hdev
  exact hset.trans (hset.ok.keeps_shared hdev' dev')

/-- **A poll** of the registered buffers. -/
theorem Ok.triggerNotifies (h : s.Ok) (hc : s.triggerNotifies = some s') : s.Keeps s' := by
  obtain ⟨⟨kept, s₁⟩, hpoll, hc⟩ := Option.bind_eq_some_iff.mp hc
  cases hc
  obtain ⟨gs, sig, rfl, hpool, hlook, hsub⟩ := pollBuffers_eq h.pool hpoll
  refine h.of_rel hpool (fun q ↦ ?_) h.writeEmu rfl rfl rfl le_rfl rfl hsub
  obtain ⟨n, hn⟩ := hlook q
  change Option.Rel _ _ (lookup q gs)
  rw [hn]
  cases hb : s.getBuffer q with
  | none => exact .none
  | some b =>
      obtain ⟨hok, -⟩ := h.buffers q b hb
      exact .some (hok.keeps_source n rfl hok.lost)

theorem Ok.removeNotifyBuffer (h : s.Ok) (p : Ptr) : s.Keeps (s.removeNotifyBuffer p) :=
  h.frame _ rfl rfl h.writeEmu rfl rfl rfl le_rfl rfl List.filter_sublist

theorem Ok.bufferCall {c : BufferCall} (h : s.Ok) (hc : s.bufferCall p c = some (hr, s')) :
    s.Keeps s' := by
  obtain ⟨b, hb, hc⟩ := Option.bind_eq_some_iff.mp hc
  obtain ⟨⟨hr₁, b'⟩, hcall, hc⟩ := Option.bind_eq_some_iff.mp hc
  cases hc
  exact h.setBuffer hb ((h.buffers p b hb).1.call hcall)

theorem Ok.acquireResources {flags effectsCount : UInt32} {resultCodes : Bool} (h : s.Ok)
    (hc : s.acquireResources p flags effectsCount resultCodes = some (hr, s')) : s.Keeps s' := by
  obtain ⟨b, hb, hc⟩ := Option.bind_eq_some_iff.mp hc
  obtain ⟨dev, hdev, hc⟩ := Option.bind_eq_some_iff.mp hc
  obtain ⟨⟨hr₁, b', dev'⟩, hcall, hc⟩ := Option.bind_eq_some_iff.mp hc
  cases hc
  exact h.setBuffer_shared hb ((h.buffers p b hb).1.acquireResources hcall) hdev dev'

/-- Registering a live buffer for polls. -/
theorem Ok.addNotifyBuffer (h : s.Ok) {b : Buffer} (hp : s.getBuffer p = some b) :
    s.Keeps (s.addNotifyBuffer p b) := by
  unfold DSound8OAL.addNotifyBuffer
  split_ifs with hn
  · exact h.refl
  have hnew : p ∉ s.mNotifyBuffers.map Registered.ptr := by
    simpa [isPendingNotify] using hn
  exact {
    ok := {
      toLinked := ⟨h.pool, h.live, h.listed, h.nodup⟩
      buffers := h.buffers
      writeEmu := h.writeEmu
      shared := h.shared
      nodupNotify := by
        show ((s.mNotifyBuffers ++ [(⟨p, b.born⟩ : Registered)]).map Registered.ptr).Nodup
        rw [List.map_append, List.map_singleton]
        exact List.Nodup.append h.nodupNotify (List.nodup_singleton p) (by simpa using hnew) }
    buffers := h.refl.buffers
    level := rfl
    extensions := rfl
    shared := rfl
    notify := by
      intro e he
      rcases List.mem_append.mp he with he | he
      · exact .inl he
      · obtain rfl : e = ⟨p, b.born⟩ := by simpa using he
        exact .inr ⟨b, hp, rfl⟩ }

theorem Ok.play {priority flags : UInt32} {started : Bool} (h : s.Ok)
    (hc : s.play p priority flags started = some (hr, s')) : s.Keeps s' := by
  obtain ⟨b, hb, hc⟩ := Option.bind_eq_some_iff.mp hc
  obtain ⟨dev, hdev, hc⟩ := Option.bind_eq_some_iff.mp hc
  obtain ⟨⟨hr₁, b', dev', notify⟩, hcall, hc⟩ := Option.bind_eq_some_iff.mp hc
  cases hc
  have hk := h.setBuffer_shared hb ((h.buffers p b hb).1.play hcall) hdev dev'
  split_ifs
  · have hb' : (s.setBuffer p b').getBuffer p = some b' := by
      rw [getBuffer_setBuffer h.pool hb, if_pos rfl]
    exact hk.trans (hk.ok.addNotifyBuffer hb')
  · exact hk

/-- The part of `Stop` and `SetNotificationPositions` that ends the polling of a buffer. -/
theorem Ok.flushNotify (h : s.Ok)
    (hc : (s.triggerNotifies.map fun s ↦ s.removeNotifyBuffer p) = some s') : s.Keeps s' := by
  obtain ⟨s₁, hs₁, rfl⟩ := Option.map_eq_some_iff.mp hc
  have hk := h.triggerNotifies hs₁
  exact hk.trans (hk.ok.removeNotifyBuffer p)

theorem Ok.stop (h : s.Ok) (hc : s.stop p = some (hr, s')) : s.Keeps s' := by
  obtain ⟨rfl, -⟩ | ⟨b, src, sb, s₁, b₁, hb, -, -, hs₁, hb₁, rfl⟩ := stop_cases hc
  · exact h.refl
  have hpause := h.setBuffer hb (h.buffers p b hb).1.pause
  have hk₁ : s.Keeps s₁ := by
    rcases hs₁ with ⟨-, rfl⟩ | ⟨-, hs₁⟩
    · exact hpause
    · exact hpause.trans (hpause.ok.flushNotify hs₁)
  obtain ⟨hok, -⟩ := hk₁.ok.buffers p b₁ hb₁
  exact hk₁.trans (hk₁.ok.setBuffer hb₁ (hok.keeps_source _ rfl hok.lost))

theorem Ok.setNotificationPositions {notifies : Option (List (PositionNotify EventHandle))}
    (h : s.Ok) (hc : s.setNotificationPositions p notifies = some (hr, s')) : s.Keeps s' := by
  obtain ⟨b, s₁, -, hs₁, hs'⟩ := setNotificationPositions_cases hc
  have hk₁ : s.Keeps s₁ := by
    rcases hs₁ with ⟨-, rfl⟩ | ⟨-, hs₁⟩
    · exact h.refl
    · exact h.flushNotify hs₁
  rcases hs' with rfl | ⟨b₁, newNots, -, hb₁, rfl⟩
  · exact hk₁
  obtain ⟨hok, -⟩ := hk₁.ok.buffers p b₁ hb₁
  refine hk₁.trans (hk₁.ok.setBuffer hb₁ ⟨?_, rfl, rfl, rfl, fun _ hl ↦ hl⟩)
  exact hok.congr rfl rfl rfl rfl rfl hok.deferredCones rfl hok.lost rfl

theorem Ok.eaxSet {immediate accepted : Bool} (h : s.Ok)
    (hc : s.eaxSet p immediate accepted = some (hr, s')) : s.Keeps s' := by
  obtain ⟨b, hb, hs'⟩ := eaxSet_cases hc
  have hgen := h.setBuffer hb (h.buffers p b hb).1.genSource
  obtain ⟨-, -, rfl⟩ | ⟨-, -, -, rfl⟩ | ⟨-, -, -, -, hcommit⟩ := hs'
  · exact h.refl
  · exact hgen
  · obtain ⟨s₁, hs₁, hk⟩ := hgen.ok.commit
    obtain rfl : s₁ = s' := Option.some.inj (hs₁.symm.trans hcommit)
    exact hgen.trans hk

/-! ## The write-emulation buffer -/

omit [Abi] in
/-- Returning a source changes nothing but the counters of the device. -/
theorem leaveSource_eq {b : Buffer} (hc : s.leaveSource b = some s') :
    ∃ shared, s' = { s with mShared := shared } ∧ shared.isSome = s.mShared.isSome := by
  unfold leaveSource at hc
  split at hc
  · cases hc
    exact ⟨_, rfl, rfl⟩
  · obtain ⟨dev, hdev, rfl⟩ := Option.map_eq_some_iff.mp hc
    exact ⟨_, rfl, by simp [hdev]⟩

omit [Abi] in
/-- What `destroyWriteEmu` does. -/
theorem destroyWriteEmu_cases (hc : s.destroyWriteEmu = some s') :
    s.mPrimaryBuffer.mWriteEmu = none ∧ s' = s ∨
      ∃ emu shared, s.mPrimaryBuffer.mWriteEmu = some emu ∧ shared.isSome = s.mShared.isSome ∧
        s' = { s with
          mShared := shared, mPrimaryBuffer := { s.mPrimaryBuffer with mWriteEmu := none } } := by
  unfold DSound8OAL.destroyWriteEmu at hc
  cases hemu : s.mPrimaryBuffer.mWriteEmu with
  | none =>
      rw [hemu] at hc
      cases hc
      exact .inl ⟨rfl, rfl⟩
  | some emu =>
      rw [hemu] at hc
      obtain ⟨s₁, hs₁, hc⟩ := Option.bind_eq_some_iff.mp hc
      cases hc
      obtain ⟨shared, rfl, hsh⟩ := leaveSource_eq hs₁
      exact .inr ⟨emu, shared, rfl, hsh, rfl⟩

theorem Ok.destroyWriteEmu (h : s.Ok) (hc : s.destroyWriteEmu = some s') :
    s.Keeps s' ∧ s'.mSecondaryBuffers = s.mSecondaryBuffers ∧ s'.rolloff = s.rolloff := by
  obtain ⟨-, rfl⟩ | ⟨emu, shared, -, hsh, rfl⟩ := destroyWriteEmu_cases hc
  · exact ⟨h.refl, rfl, rfl⟩
  · refine ⟨h.frame _ rfl rfl ?_ rfl rfl rfl le_rfl hsh (.refl _), rfl, rfl⟩
    intro b hb
    cases hb

omit [Abi] in
/-- The description of the write-emulation buffer asks for no capability but a pan. -/
theorem hasFlag_emuDesc (primary : PrimaryBuffer) (flags : UInt32) {mask : UInt32}
    (hhw : Caps.locHardware &&& mask = 0) (hpan : Caps.ctrlPan &&& mask = 0) :
    hasFlag (primary.emuDesc flags).dwFlags mask = false := by
  have h : (Caps.locHardware ||| flags &&& Caps.ctrlPan) &&& mask = 0 := by
    rw [← UInt32.toNat_inj] at hhw hpan ⊢
    simp only [UInt32.toNat_and, UInt32.toNat_or, UInt32.toNat_zero] at hhw hpan ⊢
    simp [Nat.and_or_distrib_right, hhw, Nat.and_assoc, hpan]
  simp [hasFlag, PrimaryBuffer.emuDesc, h]

omit [Abi] in
/-- What `createWriteEmu` does: there is no memory, the new buffer has no storage, there is no
source for it, or it takes the place of the old one. -/
theorem createWriteEmu_cases {flags : UInt32} {mem : Memory}
    (hc : s.createWriteEmu flags mem = some (hr, s')) :
    mem.emu = false ∧ hr ≠ .ok ∧ s' = s ∨
      mem.emu = true ∧ ((Buffer.fresh s.nextBorn false).attach s.mExtensions
          (some (s.mPrimaryBuffer.emuDesc flags)) mem.samples = .error hr ∧
        s' = { s with nextBorn := s.nextBorn + 1 } ∨
      ∃ emu dev emu' dev', (Buffer.fresh s.nextBorn false).attach s.mExtensions
          (some (s.mPrimaryBuffer.emuDesc flags)) mem.samples = .ok emu ∧
        s.mShared = some dev ∧ emu.initLocation s.parent dev = some (hr, emu', dev') ∧
        (hr ≠ .ok ∧ (∃ shared, shared.isSome ∧
            s' = { s with nextBorn := s.nextBorn + 1, mShared := shared }) ∨
          hr = .ok ∧ ∃ s₁,
            destroyWriteEmu { s with nextBorn := s.nextBorn + 1, mShared := some dev' } = some s₁ ∧
            s' = { s₁ with
              mPrimaryBuffer := { s₁.mPrimaryBuffer with mWriteEmu := some emu' } })) := by
  unfold DSound8OAL.createWriteEmu at hc
  split at hc
  · rename_i hmem
    cases hc
    exact .inl ⟨by simpa using hmem, nofun, rfl⟩
  rename_i hmem
  refine .inr ⟨by simpa using hmem, ?_⟩
  dsimp only at hc
  cases ha : (Buffer.fresh s.nextBorn false).attach s.mExtensions
      (some (s.mPrimaryBuffer.emuDesc flags)) mem.samples with
  | error hr₁ =>
      rw [ha] at hc
      cases hc
      exact .inl ⟨rfl, rfl⟩
  | ok emu =>
      rw [ha] at hc
      obtain ⟨dev, hdev, hc⟩ := Option.bind_eq_some_iff.mp hc
      obtain ⟨⟨hr₁, emu', dev'⟩, hinit, hc⟩ := Option.bind_eq_some_iff.mp hc
      dsimp only at hc
      split at hc
      · rename_i hfail
        obtain ⟨s₁, hs₁, hc⟩ := Option.bind_eq_some_iff.mp hc
        cases hc
        obtain ⟨shared, rfl, hsh⟩ := leaveSource_eq hs₁
        exact .inr ⟨emu, dev, emu', dev', rfl, hdev, hinit,
          .inl ⟨by simpa using hfail, shared, hsh, rfl⟩⟩
      · rename_i hok
        obtain ⟨s₁, hs₁, hc⟩ := Option.bind_eq_some_iff.mp hc
        cases hc
        exact .inr ⟨emu, dev, emu', dev', rfl, hdev, hinit, .inr ⟨by simpa using hok, s₁, hs₁, rfl⟩⟩

/-- **`createWriteEmu`** changes no secondary buffer. -/
theorem Ok.createWriteEmu {flags : UInt32} {mem : Memory} (h : s.Ok)
    (hc : s.createWriteEmu flags mem = some (hr, s')) :
    s.Keeps s' ∧ s'.mSecondaryBuffers = s.mSecondaryBuffers := by
  have hborn : s.Keeps { s with nextBorn := s.nextBorn + 1 } :=
    h.frame _ rfl rfl h.writeEmu rfl rfl rfl (Nat.le_succ _) rfl (.refl _)
  obtain ⟨-, -, rfl⟩ | ⟨-, ⟨-, rfl⟩ | ⟨emu, dev, emu', dev', ha, hdev, hinit, hs'⟩⟩ :=
    createWriteEmu_cases hc
  · exact ⟨h.refl, rfl⟩
  · exact ⟨hborn, rfl⟩
  obtain ⟨-, shared, hsh, rfl⟩ | ⟨-, s₁, hs₁, rfl⟩ := hs'
  · have hsome : shared.isSome = s.mShared.isSome := by rw [hsh, hdev, Option.isSome_some]
    exact ⟨h.frame _ rfl rfl h.writeEmu rfl rfl rfl (Nat.le_succ _) hsome (.refl _), rfl⟩
  · have hdev' : ({ s with nextBorn := s.nextBorn + 1 } : DSound8OAL).mShared = some dev := hdev
    have hshared := hborn.trans (hborn.ok.keeps_shared hdev' dev')
    obtain ⟨hok, hloc, -⟩ : emu.Ok s.mExtensions s.rolloff ∧ emu.mLocStatus = .none ∧ _ :=
      (Buffer.blank_fresh s.nextBorn false).attach ha
    have hok' := hok.initLocation hloc hinit
    have h3 : emu'.is3D = false := by
      obtain ⟨sb, hsb, hflags⟩ := Buffer.attach_flags ha
      rw [Buffer.is3D, Buffer.hasCaps, hok'.2.2.1, hsb]
      show hasFlag sb.mFlags Caps.ctrl3D = false
      rw [hflags]
      exact hasFlag_emuDesc _ _ (by decide) (by decide)
    obtain ⟨hk₁, hgs₁, hroll₁⟩ := hshared.ok.destroyWriteEmu hs₁
    refine ⟨(hshared.trans hk₁).trans ?_, hgs₁⟩
    refine hk₁.ok.frame _ rfl rfl ?_ rfl rfl rfl le_rfl rfl (.refl _)
    intro b hb
    cases hb
    rw [hk₁.extensions, hroll₁, hk₁.shared]
    exact ⟨hok'.1.congr rfl rfl rfl rfl rfl hok'.1.deferredCones rfl hok'.1.lost rfl, h3, rfl⟩

/-! ## The primary buffer -/

/-- A change of the write-emulation buffer. -/
theorem Ok.setWriteEmu (h : s.Ok) {emu emu' : Buffer}
    (hemu : s.mPrimaryBuffer.mWriteEmu = some emu) (hok : emu'.Ok s.mExtensions s.rolloff)
    (h3 : emu'.is3D = emu.is3D) (primary : PrimaryBuffer)
    (hroll : primary.mImmediate.flRolloffFactor = s.rolloff)
    (hemu' : primary.mWriteEmu = some emu') : s.Keeps { s with mPrimaryBuffer := primary } := by
  refine h.frame _ rfl hroll ?_ rfl rfl rfl le_rfl rfl (.refl _)
  intro b hb
  change primary.mWriteEmu = some b at hb
  obtain rfl : emu' = b := Option.some.inj (hemu'.symm.trans hb)
  obtain ⟨-, hemu3, hsh⟩ := h.writeEmu emu hemu
  exact ⟨hok, h3.trans hemu3, hsh⟩

theorem Ok.primaryPlay {priority flags : UInt32} {started : Bool} (h : s.Ok)
    (hc : s.primaryPlay priority flags started = some (hr, s')) : s.Keeps s' := by
  obtain ⟨-, -, rfl⟩ | ⟨-, -, rfl⟩ | ⟨emu, dev, emu', dev', notify, hemu, hdev, hplay, rfl⟩ :=
    primaryPlay_cases hc
  · exact h.refl
  · exact h.keeps_listener _ s.alListener rfl rfl
  · have hok : emu.Ok s.parent.mExtensions s.parent.rolloffFactor := (h.writeEmu emu hemu).1
    obtain ⟨hok', hpers⟩ := hok.play (l := 0) hplay
    have hk := h.keeps_shared hdev dev'
    exact hk.trans (hk.ok.setWriteEmu hemu hok' hpers.is3D _ rfl rfl)

theorem Ok.primaryStop (h : s.Ok) (hc : s.primaryStop = some (hr, s')) : s.Keeps s' := by
  obtain ⟨-, -, rfl⟩ | ⟨emu, sb, stopped, hr₁, emu', hemu, -, hstopped, hpos, -, rfl⟩ :=
    primaryStop_cases hc
  · exact h.keeps_listener _ s.alListener rfl rfl
  · obtain ⟨hok, -⟩ := h.writeEmu emu hemu
    have hstop : emu.Keeps s.mExtensions s.rolloff 0 stopped := by
      rw [hstopped]
      cases emu.mSource with
      | none => exact hok.keeps
      | some src =>
          obtain ⟨hok', hpers⟩ := hok.pause (l := 0)
          obtain ⟨hok'', hpers'⟩ := hok'.keeps_source (l := 0) _ rfl hok'.lost
          exact ⟨hok'', hpers.trans hpers'⟩
    obtain ⟨hok', hpers⟩ := hstop.1.setCurrentPosition (l := 0) hpos
    exact h.setWriteEmu hemu hok' (hpers.is3D.trans hstop.2.is3D) _ rfl rfl

/-- The part of `PrimaryBuffer::Initialize` that sets the parameters. -/
theorem Ok.resetListener (h : s.Ok) (flags : UInt32)
    (hc : (s.resetPrimary flags).setListenerParams PrimaryBuffer.defaultParams .all = some s') :
    s.Keeps s' := by
  -- every parameter but the size is overwritten, so that it can be reset afterwards as well
  have hk := h.keeps_listener { s.mPrimaryBuffer with
    mFlags := (flags &&& ~~~Caps.locSoftware) ||| Caps.locHardware
    mImmediate := { s.mPrimaryBuffer.mImmediate with dwSize := sizeofDS3DListener }
    mDeferred := PrimaryBuffer.defaultParams
    mDirty := .none } s.alListener rfl rfl
  obtain ⟨s₁, hs₁, hk₁⟩ := hk.ok.setListenerParams PrimaryBuffer.defaultParams .all
  obtain rfl : s₁ = s' := Option.some.inj (hs₁.symm.trans hc)
  exact hk.trans hk₁

theorem Ok.primaryInitialize {desc : Option BufferDesc} {mem : Memory} (h : s.Ok)
    (hc : s.primaryInitialize desc mem = some (hr, s')) : s.Keeps s' := by
  obtain ⟨-, rfl, -⟩ | ⟨d, hr₁, s₁, -, -, hs₁, hs'⟩ := primaryInitialize_cases hc
  · exact h.refl
  have hk₁ : s.Keeps s₁ := by
    obtain ⟨-, s₀, hdestroy, hcreate⟩ | ⟨-, -, rfl⟩ := hs₁
    · obtain ⟨hd, -⟩ := h.destroyWriteEmu hdestroy
      exact hd.trans (hd.ok.createWriteEmu hcreate).1
    · exact h.refl
  obtain ⟨-, -, rfl⟩ | ⟨-, -, hset⟩ := hs'
  · exact hk₁
  · exact hk₁.trans (hk₁.ok.resetListener _ hset)

theorem Ok.setFormat {wfx : Option WaveFormat} {mem : Memory} (h : s.Ok)
    (hc : s.setFormat wfx mem = some (hr, s')) : s.Keeps s' := by
  obtain ⟨rfl, -⟩ | ⟨format, -, hs'⟩ := setFormat_cases hc
  · exact h.refl
  have hk : s.Keeps { s with mPrimaryBuffer := { s.mPrimaryBuffer with mFormat := format } } :=
    h.keeps_listener _ s.alListener rfl rfl
  obtain ⟨-, rfl⟩ | ⟨-, s₁, hdestroy, hcreate⟩ := hs'
  · exact hk
  · have hd := (hk.ok.destroyWriteEmu hdestroy).1
    exact hk.trans (hd.trans (hd.ok.createWriteEmu hcreate).1)

theorem Ok.primarySetVolume (h : s.Ok) (volume : Int32) :
    s.Keeps (s.primarySetVolume volume).2 := by
  unfold DSound8OAL.primarySetVolume
  split_ifs
  · exact h.refl
  · exact h.refl
  · exact h.keeps_listener _ _ rfl rfl

theorem Ok.primarySetPan {pan : Int32} (h : s.Ok) (hc : s.primarySetPan pan = some (hr, s')) :
    s.Keeps s' := by
  obtain ⟨-, rfl⟩ | ⟨-, -, rfl⟩ | ⟨emu, emu', hemu, hpan, rfl⟩ := primarySetPan_cases hc
  · exact h.refl
  · exact h.keeps_listener _ s.alListener rfl rfl
  · have hok : emu.Ok s.parent.mExtensions s.parent.rolloffFactor := (h.writeEmu emu hemu).1
    obtain ⟨hok', hpers⟩ := hok.setPan (l := 0) hpan
    exact h.setWriteEmu hemu hok' hpers.is3D _ rfl rfl

theorem Ok.primaryRestore (h : s.Ok) : s.Keeps s.primaryRestore.2 := by
  unfold DSound8OAL.primaryRestore
  cases hemu : s.mPrimaryBuffer.mWriteEmu with
  | none => exact h.refl
  | some emu =>
      obtain ⟨hok, -⟩ := h.writeEmu emu hemu
      have hrestore : (emu.restore s.parent true).2 = { emu with mBufferLost := false } := by
        simp [Buffer.restore]
      refine h.setWriteEmu hemu ?_ ?_ _ rfl rfl
      · rw [hrestore]
        exact hok.congr rfl rfl rfl rfl rfl hok.deferredCones rfl nofun rfl
      · rw [hrestore]
        rfl

/-- **Every call on the primary buffer.** -/
theorem Ok.primaryCall {c : PrimaryCall} (h : s.Ok) (hc : s.primaryCall c = some (hr, s')) :
    s.Keeps s' := by
  cases c with
  | addRef =>
      cases hc
      exact h.keeps_listener _ s.alListener rfl rfl
  | release =>
      cases hc
      refine h.keeps_listener _ s.alListener ?_ ?_
      all_goals
        unfold PrimaryBuffer.release
        split_ifs <;> rfl
  | listenerAddRef =>
      cases hc
      exact h.keeps_listener _ s.alListener rfl rfl
  | listenerRelease =>
      cases hc
      exact h.keeps_listener _ s.alListener rfl rfl
  | propAddRef =>
      cases hc
      exact h.keeps_listener _ s.alListener rfl rfl
  | propRelease =>
      cases hc
      exact h.keeps_listener _ s.alListener rfl rfl
  | initializePrimary desc mem => exact h.primaryInitialize hc
  | play priority flags started => exact h.primaryPlay hc
  | stop => exact h.primaryStop hc
  | setFormat wfx mem => exact h.setFormat hc
  | setVolume volume =>
      have hk := h.primarySetVolume volume
      rwa [show s.primarySetVolume volume = (hr, s') from Option.some.inj hc] at hk
  | setPan pan => exact h.primarySetPan hc
  | restore =>
      have hk := h.primaryRestore
      rwa [show s.primaryRestore = (hr, s') from Option.some.inj hc] at hk

end DSound8OAL

end Dsoal
