import Dsoal.Object.PrimaryRefs

/-!
# What leaves the context alone

Of the OpenAL context an object writes the listener, besides its sources and buffers, and only
the methods of the primary buffer, the methods of the listener and a commit do so.  Every other
step is a `SameContext`: it leaves the listener as it is, and it neither changes the extensions
nor whether the object is initialized.
-/

namespace Dsoal

/-- A call on the primary buffer that may change the listener of the context. -/
def PrimaryCall.WritesContext : PrimaryCall → Prop
  | .initializePrimary _ _ | .setVolume _ => True
  | _ => False

/-- An operation that may change the listener of the context, or its extensions. -/
def Op.WritesContext : Op → Prop
  | .initializeObject _ _ | .createSoundBuffer _ _ _ _ | .eaxSet _ _ _ | .listener _ _
  | .commitDeferredSettings => True
  | .primary c => c.WritesContext
  | _ => False

namespace DSound8OAL

variable {s s' s'' : DSound8OAL} {b : Buffer} {p : Ptr} {hr : HResult}
  {desc : Option BufferDesc} {mem : Memory} {flags : UInt32}

/-- A step that leaves the listener of the context alone. -/
structure SameContext (s s' : DSound8OAL) : Prop where
  listener : s'.alListener = s.alListener
  extensions : s'.mExtensions = s.mExtensions
  shared : s'.mShared.isSome = s.mShared.isSome

namespace SameContext

theorem refl (s : DSound8OAL) : s.SameContext s := ⟨rfl, rfl, rfl⟩

theorem trans (h : s.SameContext s') (h' : s'.SameContext s'') : s.SameContext s'' where
  listener := h'.listener.trans h.listener
  extensions := h'.extensions.trans h.extensions
  shared := h'.shared.trans h.shared

theorem setBuffer (s : DSound8OAL) (p : Ptr) (b : Buffer) : s.SameContext (s.setBuffer p b) :=
  ⟨rfl, rfl, rfl⟩

/-- A change of the primary buffer. -/
theorem setPrimary (s : DSound8OAL) (primary : PrimaryBuffer) :
    s.SameContext { s with mPrimaryBuffer := primary } := ⟨rfl, rfl, rfl⟩

/-! ## Polls and loops -/

theorem triggerNotifies (hc : s.triggerNotifies = some s') : s.SameContext s' := by
  obtain ⟨gs, sig, kept, -, rfl⟩ := eq_of_triggerNotifies hc
  exact ⟨rfl, rfl, rfl⟩

/-- `triggerNotifies` and `removeNotifyBuffer`. -/
theorem flushNotify (hc : (s.triggerNotifies.map fun s ↦ s.removeNotifyBuffer p) = some s') :
    s.SameContext s' := by
  obtain ⟨s₁, htrig, rfl⟩ := Option.map_eq_some_iff.mp hc
  exact (triggerNotifies htrig).trans ⟨rfl, rfl, rfl⟩

theorem forBuffers {f : Buffer → Buffer} {es : List Registered}
    (hc : s.forBuffers f es = some s') : s.SameContext s' := by
  obtain ⟨gs, rfl⟩ := eq_of_forBuffers hc
  exact ⟨rfl, rfl, rfl⟩

theorem loseBuffers {ps : List Ptr} (hc : s.loseBuffers ps = some (hr, s')) :
    s.SameContext s' := by
  obtain ⟨gs, rfl⟩ := eq_of_loseBuffers hc
  exact ⟨rfl, rfl, rfl⟩

theorem leaveSource (hc : s.leaveSource b = some s') : s.SameContext s' := by
  obtain ⟨shared, rfl, hshared⟩ := leaveSource_eq hc
  exact ⟨rfl, rfl, hshared⟩

/-! ## Secondary buffers -/

theorem construct (hc : s.construct b mem = some (p, s')) : s.SameContext s' := by
  obtain ⟨⟨q, gs⟩, -, hc⟩ := Option.bind_eq_some_iff.mp hc
  cases hc
  exact ⟨rfl, rfl, rfl⟩

theorem initializeBuffer {memory : Bool}
    (hc : s.initializeBuffer p desc memory = some (hr, s')) : s.SameContext s' := by
  obtain ⟨b, -, hc⟩ := Option.bind_eq_some_iff.mp hc
  cases ha : b.attach s.mExtensions desc memory with
  | error hr₁ =>
      rw [ha] at hc
      cases hc
      exact .refl s
  | ok b₁ =>
      rw [ha] at hc
      have hadd : s.SameContext (if b₁.is3D then s.add3dBuffer p b₁ else s) := by
        split_ifs
        · exact ⟨rfl, rfl, rfl⟩
        · exact .refl s
      obtain ⟨dev, hdev, hc⟩ := Option.bind_eq_some_iff.mp hc
      obtain ⟨⟨hr₁, b₂, dev'⟩, -, hc⟩ := Option.bind_eq_some_iff.mp hc
      cases hc
      exact hadd.trans ⟨rfl, rfl, (Option.isSome_of_eq_some hdev).symm⟩

theorem dispose [Abi] (hc : s.dispose p = some s') : s.SameContext s' := by
  unfold DSound8OAL.dispose at hc
  split at hc
  · cases hc
    exact .refl s
  · obtain ⟨b, -, hc⟩ := Option.bind_eq_some_iff.mp hc
    obtain ⟨s₁, hdestroy, hc⟩ := Option.bind_eq_some_iff.mp hc
    obtain ⟨s₂, hleave, hd⟩ := Option.bind_eq_some_iff.mp hdestroy
    cases hd
    cases hc
    refine (leaveSource hleave).trans ?_
    split_ifs
    · exact ⟨rfl, rfl, rfl⟩
    · exact ⟨rfl, rfl, rfl⟩

theorem initializeNew [Abi] {memory : Bool}
    (hc : s.initializeNew p desc memory = some (hr, s')) : s.SameContext s' := by
  obtain ⟨s₁, hinit, ⟨-, rfl⟩ | ⟨-, hdispose⟩⟩ := initializeNew_cases hc
  · exact initializeBuffer hinit
  · exact (initializeBuffer hinit).trans (dispose hdispose)

theorem duplicateSoundBuffer [Abi] {original : Option Ptr} {duplicate : Bool}
    (hc : s.duplicateSoundBuffer original duplicate mem = some (hr, s')) : s.SameContext s' := by
  obtain ⟨rfl, -⟩ | ⟨b, p, s₁, -, hcon, hc⟩ := duplicateSoundBuffer_cases hc
  · exact .refl _
  · exact (construct hcon).trans (initializeNew hc)

theorem bufferCall {c : BufferCall} (hc : s.bufferCall p c = some (hr, s')) :
    s.SameContext s' := by
  obtain ⟨b, -, hc⟩ := Option.bind_eq_some_iff.mp hc
  obtain ⟨⟨hr₁, b'⟩, -, hc⟩ := Option.bind_eq_some_iff.mp hc
  cases hc
  exact .setBuffer s p b'

theorem acquireResources {effectsCount : UInt32} {resultCodes : Bool}
    (hc : s.acquireResources p flags effectsCount resultCodes = some (hr, s')) :
    s.SameContext s' := by
  obtain ⟨b, -, hc⟩ := Option.bind_eq_some_iff.mp hc
  obtain ⟨dev, hdev, hc⟩ := Option.bind_eq_some_iff.mp hc
  obtain ⟨⟨hr₁, b', dev'⟩, -, hc⟩ := Option.bind_eq_some_iff.mp hc
  cases hc
  exact ⟨rfl, rfl, (Option.isSome_of_eq_some hdev).symm⟩

theorem addNotifyBuffer (s : DSound8OAL) (p : Ptr) (b : Buffer) :
    s.SameContext (s.addNotifyBuffer p b) := by
  unfold DSound8OAL.addNotifyBuffer
  split_ifs
  · exact .refl s
  · exact ⟨rfl, rfl, rfl⟩

theorem play {priority : UInt32} {started : Bool}
    (hc : s.play p priority flags started = some (hr, s')) : s.SameContext s' := by
  obtain ⟨b, -, hc⟩ := Option.bind_eq_some_iff.mp hc
  obtain ⟨dev, hdev, hc⟩ := Option.bind_eq_some_iff.mp hc
  obtain ⟨⟨hr₁, b', dev', notify⟩, -, hc⟩ := Option.bind_eq_some_iff.mp hc
  cases hc
  have hset : s.SameContext { s.setBuffer p b' with mShared := some dev' } :=
    ⟨rfl, rfl, (Option.isSome_of_eq_some hdev).symm⟩
  split_ifs
  · exact hset.trans (.addNotifyBuffer _ p b')
  · exact hset

theorem stop (hc : s.stop p = some (hr, s')) : s.SameContext s' := by
  obtain ⟨rfl, -⟩ | ⟨b, src, sb, s₁, b₁, -, -, -, hs₁, -, rfl⟩ := stop_cases hc
  · exact .refl _
  have h₁ : s.SameContext s₁ := by
    obtain ⟨-, rfl⟩ | ⟨-, hflush⟩ := hs₁
    · exact .setBuffer s p _
    · exact (setBuffer s p _).trans (flushNotify hflush)
  exact h₁.trans (.setBuffer s₁ p _)

theorem setNotificationPositions {notifies : Option (List (PositionNotify EventHandle))}
    (hc : s.setNotificationPositions p notifies = some (hr, s')) : s.SameContext s' := by
  obtain ⟨b, s₁, -, hs₁, hs'⟩ := setNotificationPositions_cases hc
  have h₁ : s.SameContext s₁ := by
    obtain ⟨-, rfl⟩ | ⟨-, hflush⟩ := hs₁
    · exact .refl _
    · exact flushNotify hflush
  obtain rfl | ⟨b₁, newNots, -, -, rfl⟩ := hs'
  · exact h₁
  · exact h₁.trans (.setBuffer s₁ p _)

/-! ## The write-emulation buffer -/

theorem destroyWriteEmu (hc : s.destroyWriteEmu = some s') : s.SameContext s' := by
  obtain ⟨-, rfl⟩ | ⟨emu, shared, -, hshared, rfl⟩ := destroyWriteEmu_cases hc
  · exact .refl _
  · exact ⟨rfl, rfl, hshared⟩

theorem createWriteEmu (hc : s.createWriteEmu flags mem = some (hr, s')) :
    s.SameContext s' := by
  obtain ⟨-, -, rfl⟩ | ⟨-, ⟨-, rfl⟩ | ⟨emu, dev, emu', dev', -, hdev, -, hs'⟩⟩ :=
    createWriteEmu_cases hc
  · exact .refl _
  · exact ⟨rfl, rfl, rfl⟩
  have hsome : true = s.mShared.isSome := (Option.isSome_of_eq_some hdev).symm
  obtain ⟨-, shared, hshared, rfl⟩ | ⟨-, s₁, hs₁, rfl⟩ := hs'
  · exact ⟨rfl, rfl, hshared.trans hsome⟩
  · have hborn : s.SameContext { s with nextBorn := s.nextBorn + 1, mShared := some dev' } :=
      ⟨rfl, rfl, hsome⟩
    exact hborn.trans ((destroyWriteEmu hs₁).trans (.setPrimary s₁ _))

theorem enterWritePrimary (hc : s.enterWritePrimary mem = some (hr, s')) : s.SameContext s' := by
  obtain ⟨s₁, hr₂, s₂, hdestroy, hlose, hs₂⟩ := enterWritePrimary_cases hc
  have h₂ : s.SameContext s₂ := (destroyWriteEmu hdestroy).trans (loseBuffers hlose)
  obtain ⟨-, -, rfl⟩ | ⟨-, -, hcreate⟩ | ⟨-, -, -, rfl⟩ := hs₂
  · exact h₂
  · exact h₂.trans (createWriteEmu hcreate)
  · exact h₂

theorem setCooperativeLevel {level : UInt32}
    (hc : s.setCooperativeLevel level mem = some (hr, s')) : s.SameContext s' := by
  obtain ⟨rfl, -⟩ | ⟨s₁, rfl, -, -, hs₁⟩ := setCooperativeLevel_cases hc
  · exact .refl _
  have h₁ : s.SameContext s₁ := by
    obtain ⟨-, henter⟩ | ⟨-, -, hdestroy⟩ | ⟨-, -, rfl⟩ := hs₁
    · exact enterWritePrimary henter
    · exact destroyWriteEmu hdestroy
    · exact .refl _
  split_ifs
  · exact h₁.trans ⟨rfl, rfl, rfl⟩
  · exact h₁

theorem setFormat {wfx : Option WaveFormat} (hc : s.setFormat wfx mem = some (hr, s')) :
    s.SameContext s' := by
  obtain ⟨rfl, -⟩ | ⟨format, -, ⟨-, rfl⟩ | ⟨-, s₁, hdestroy, hcreate⟩⟩ := setFormat_cases hc
  · exact .refl _
  · exact .setPrimary s _
  · exact (setPrimary s _).trans ((destroyWriteEmu hdestroy).trans (createWriteEmu hcreate))

end SameContext

/-! ## Steps -/

theorem SameContext.primaryCall {c : PrimaryCall} (h : ¬ c.WritesContext)
    (hc : s.primaryCall c = some (hr, s')) : s.SameContext s' := by
  cases c with
  | play priority flags started =>
      obtain ⟨-, -, rfl⟩ | ⟨-, -, rfl⟩ | ⟨emu, dev, emu', dev', notify, -, hdev, -, rfl⟩ :=
        primaryPlay_cases hc
      · exact .refl _
      · exact .setPrimary s _
      · exact ⟨rfl, rfl, (Option.isSome_of_eq_some hdev).symm⟩
  | stop =>
      obtain ⟨-, -, rfl⟩ | ⟨-, -, -, -, -, -, -, -, -, -, rfl⟩ := primaryStop_cases hc
      · exact .setPrimary s _
      · exact .setPrimary s _
  | setFormat wfx mem => exact .setFormat hc
  | setPan pan =>
      obtain ⟨-, rfl⟩ | ⟨-, -, rfl⟩ | ⟨-, -, -, -, rfl⟩ := primarySetPan_cases hc
      · exact .refl _
      · exact .setPrimary s _
      · exact .setPrimary s _
  | restore =>
      rw [← show s.primaryRestore.2 = s' from congrArg Prod.snd (Option.some.inj hc)]
      unfold primaryRestore
      split
      · exact .refl s
      · exact .setPrimary s _
  | initializePrimary | setVolume => exact absurd trivial h
  | _ =>
      cases hc
      exact .setPrimary s _

/-- **Every other operation** leaves the context alone. -/
theorem SameContext.exec [Abi] {op : Op} (h : ¬ op.WritesContext)
    (hc : s.exec op = some (hr, s')) : s.SameContext s' := by
  cases op with
  | duplicateSoundBuffer original duplicate mem => exact .duplicateSoundBuffer hc
  | setCooperativeLevel level mem => exact .setCooperativeLevel hc
  | release p =>
      obtain ⟨b, -, hc⟩ := Option.bind_eq_some_iff.mp hc
      obtain ⟨s₁, hdispose, hc⟩ := Option.bind_eq_some_iff.mp hc
      cases hc
      exact .dispose hdispose
  | bufferInitialize p desc mem => exact .initializeBuffer hc
  | buffer p c => exact .bufferCall hc
  | acquireResources p flags effectsCount resultCodes => exact .acquireResources hc
  | play p priority flags started => exact .play hc
  | stop p => exact .stop hc
  | setNotificationPositions p notifies => exact .setNotificationPositions hc
  | primary c => exact .primaryCall h hc
  | poll =>
      obtain ⟨s₁, hpoll, hc⟩ := Option.map_eq_some_iff.mp hc
      cases hc
      exact .triggerNotifies (Option.ite_none_right_eq_some.mp hpoll).2
  | mix q offset ended =>
      obtain ⟨s₁, hmix, hc⟩ := Option.map_eq_some_iff.mp hc
      cases hc
      cases q with
      | none =>
          obtain ⟨emu, -, hc⟩ := Option.bind_eq_some_iff.mp hmix
          cases hc
          exact .setPrimary s _
      | some q =>
          obtain ⟨b, -, hc⟩ := Option.bind_eq_some_iff.mp hmix
          cases hc
          exact .setBuffer s q _
  | otherSources current =>
      cases hc
      exact ⟨rfl, rfl, Option.isSome_map⟩
  | _ => exact absurd trivial h

end DSound8OAL

end Dsoal
