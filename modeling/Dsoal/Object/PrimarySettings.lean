import Dsoal.Core.FormatBytes
import Dsoal.Object.ContextFrame
import Dsoal.Object.Settings

/-!
# The settings of the primary buffer and of the listener

The primary buffer is a member of its object, which applications create and release any number
of times, and its settings outlive them.  `PrimarySettings` says what these are for, as
`Settings` does for a secondary buffer: each setter replaces a value, or with `DS3D_DEFERRED`
adds to what the next commit will do, and the first reference to an uninitialized buffer makes
the listener's parameters the default ones.  It knows nothing of the write-emulation buffer, of
the sources, of the memory and of the other buffers.

The object refines this machine (`primary_settings_refined`), and once the primary buffer is
initialized the listener of the OpenAL context has its parameters (`listener_shown`).
-/

namespace Dsoal

open TransitionSystem

/-! ## The machine -/

/-- What a call of `IDirectSound3DListener` does to the parameters if it is accepted. -/
def ListenerCall.assigns : ListenerCall → DS3DListener → DS3DListener
  | .setAllParameters none, P => P
  | .setAllParameters (some params), P => { params with dwSize := P.dwSize }
  | .setDistanceFactor distanceFactor, P => { P with flDistanceFactor := distanceFactor }
  | .setDopplerFactor dopplerFactor, P => { P with flDopplerFactor := dopplerFactor }
  | .setOrientation xFront yFront zFront xTop yTop zTop, P =>
    { P with vOrientFront := ⟨xFront, yFront, zFront⟩, vOrientTop := ⟨xTop, yTop, zTop⟩ }
  | .setPosition x y z, P => { P with vPosition := ⟨x, y, z⟩ }
  | .setRolloffFactor rolloffFactor, P => { P with flRolloffFactor := rolloffFactor }
  | .setVelocity x y z, P => { P with vVelocity := ⟨x, y, z⟩ }

/-- The settings of the primary buffer of an object. -/
structure PrimarySettings where
  /-- The object is initialized. -/
  ready : Bool := false
  level : UInt32 := 0
  total : UInt32 := 0
  held : UInt32 := 0
  flags : UInt32 := 0
  volume : Int32 := 0
  /-- The gain of the listener. -/
  gain : Float32 := 1
  pan : Int32 := 0
  format : WaveFormat := ({} : PrimaryBuffer).mFormat
  playing : Bool := false
  params : DS3DListener := ⟨0, .zero, .zero, .zero, .zero, 0, 0, 0⟩
  /-- What the next commit makes of the parameters. -/
  pending : DS3DListener → DS3DListener := id

namespace PrimarySettings

/-- A reference is taken. -/
def addRef (st : PrimarySettings) : PrimarySettings :=
  { st with
    total := st.total + 1
    held := st.held + 1
    flags := if st.total = 0 then 0 else st.flags }

/-- A reference is given back. -/
def release (st : PrimarySettings) : PrimarySettings :=
  if st.held = 0 then st else { st with total := st.total - 1, held := st.held - 1 }

/-- The buffer is initialized. -/
def reset (st : PrimarySettings) (flags : UInt32) : PrimarySettings :=
  { st with
    flags := (flags &&& ~~~Caps.locSoftware) ||| Caps.locHardware
    params := PrimaryBuffer.defaultParams
    pending := id }

/-- The buffer is created: the first reference initializes it, unless it is initialized. -/
def create (st : PrimarySettings) (flags : UInt32) (hr : HResult) : PrimarySettings :=
  if st.held + 1 = 1 ∧ st.addRef.flags = 0 then
    if hr = .ok then st.addRef.reset flags else st.addRef.release
  else st.addRef

/-- The format `SetFormat` stores at a level, whether or not it then succeeds. -/
def newFormat (level : UInt32) (wfx : Option WaveFormat) : Option WaveFormat := do
  let wfx ← wfx
  if level < Level.priority then none
  else if wfx.wFormatTag = formatExtensible ∧ wfx.cbSize < extExtraSize then none
  else PrimaryBuffer.copyFormat wfx

/-- A call on the primary buffer that returns `hr`. -/
def call (st : PrimarySettings) (hr : HResult) : PrimaryCall → PrimarySettings
  | .addRef => st.addRef
  | .release => st.release
  | .listenerAddRef | .propAddRef => { st with total := st.total + 1 }
  | .listenerRelease | .propRelease => { st with total := st.total - 1 }
  | .initializePrimary none _ => st
  | .initializePrimary (some desc) _ => if hr = .ok then st.reset desc.dwFlags else st
  | .play _ _ _ => if hr = .ok then { st with playing := true } else st
  | .stop => { st with playing := false }
  | .setFormat wfx _ => { st with format := (newFormat st.level wfx).getD st.format }
  | .setVolume volume =>
    if hr = .ok then { st with volume := volume, gain := mBToGain volume } else st
  | .setPan pan => if hr = .ok then { st with pan := pan } else st
  | .restore => st

/-- A call on the listener that is accepted. -/
def listener (st : PrimarySettings) (c : ListenerCall) (apply : UInt32) : PrimarySettings :=
  if apply = ds3dDeferred then { st with pending := c.assigns ∘ st.pending }
  else { st with params := c.assigns st.params }

/-- A commit. -/
def commit (st : PrimarySettings) : PrimarySettings :=
  { st with params := st.pending st.params, pending := id }

/-- What an operation does to the settings, given what it returns. -/
def after (st : PrimarySettings) (i : Answer) : PrimarySettings :=
  match i.1 with
  | .initializeObject (.ok _) _ => { st with ready := true }
  | .createSoundBuffer (some desc) dsBuffer outer _ =>
    if dsBuffer ∧ !outer ∧ ¬ desc.dwSize < sizeofBufferDesc1 ∧ st.ready ∧
        hasFlag desc.dwFlags Caps.primaryBuffer then
      st.create desc.dwFlags i.2
    else st
  | .setCooperativeLevel level _ => if i.2 = .ok then { st with level := level } else st
  | .eaxSet _ immediate _ => if i.2 = .ok ∧ immediate then st.commit else st
  | .primary c => st.call i.2 c
  | .listener c apply => if i.2 = .ok then st.listener c apply else st
  | .commitDeferredSettings => st.commit
  | _ => st

end PrimarySettings

/-! ## The settings of an object -/

namespace PrimaryBuffer

/-- The setters as functions on the parameters. -/
theorem assigns_eq_copyParams {c : ListenerCall} {F : ListenerFlags} {P : DS3DListener}
    (hu : c.update = some (F, P)) : c.assigns = copyParams F P := by
  funext Q
  cases c with
  | setAllParameters listener =>
      cases listener with
      | none => cases hu
      | some params =>
          obtain ⟨-, hu⟩ := Option.ite_none_left_eq_some.mp hu
          cases hu
          rfl
  | setOrientation | setPosition | setVelocity =>
      cases hu
      rfl
  | _ =>
      obtain ⟨-, hu⟩ := Option.ite_none_right_eq_some.mp hu
      cases hu
      rfl

end PrimaryBuffer

namespace DSound8OAL

variable {s s' : DSound8OAL} {hr : HResult} {mem : Memory}

/-- The settings of the primary buffer of an object. -/
def primarySettings (s : DSound8OAL) : PrimarySettings where
  ready := s.mShared.isSome
  level := s.mPrioLevel
  total := s.mPrimaryBuffer.mTotalRef
  held := s.mPrimaryBuffer.mDsRef
  flags := s.mPrimaryBuffer.mFlags
  volume := s.mPrimaryBuffer.mVolume
  gain := s.alListener.gain
  pan := s.mPrimaryBuffer.mPan
  format := s.mPrimaryBuffer.mFormat
  playing := s.mPrimaryBuffer.mPlaying
  params := s.mPrimaryBuffer.mImmediate
  pending := PrimaryBuffer.copyParams s.mPrimaryBuffer.mDirty s.mPrimaryBuffer.mDeferred

/-- A step that leaves the context alone, and of the primary buffer changes no more than the
write-emulation buffer. -/
theorem SameContext.settings (h : s.SameContext s')
    (hprimary : s'.mPrimaryBuffer =
      { s.mPrimaryBuffer with mWriteEmu := s'.mPrimaryBuffer.mWriteEmu })
    (hlevel : s'.mPrioLevel = s.mPrioLevel) : s'.primarySettings = s.primarySettings := by
  unfold primarySettings
  rw [h.shared, h.listener, hlevel, hprimary]

theorem SamePrimary.settings (hp : s.SamePrimary s') (h : s.SameContext s') :
    s'.primarySettings = s.primarySettings :=
  h.settings (by rw [hp.primary]) hp.level

/-! ## Steps of the primary buffer -/

theorem primarySettings_destroyWriteEmu (hc : s.destroyWriteEmu = some s') :
    s'.primarySettings = s.primarySettings := by
  obtain ⟨hprimary, hlevel, -⟩ := destroyWriteEmu_eq hc
  exact (SameContext.destroyWriteEmu hc).settings (by rw [hprimary]) hlevel

theorem primarySettings_createWriteEmu {flags : UInt32} (hnone : s.mPrimaryBuffer.mWriteEmu = none)
    (hc : s.createWriteEmu flags mem = some (hr, s')) :
    s'.primarySettings = s.primarySettings := by
  obtain ⟨⟨hprimary, hlevel, -⟩, -⟩ := createWriteEmu_spec hnone hc
  exact (SameContext.createWriteEmu hc).settings hprimary hlevel

/-- The write-emulation buffer is created again. -/
theorem primarySettings_renewWriteEmu {flags : UInt32} {s₁ : DSound8OAL}
    (hdestroy : s.destroyWriteEmu = some s₁)
    (hcreate : s₁.createWriteEmu flags mem = some (hr, s')) :
    s'.primarySettings = s.primarySettings :=
  (primarySettings_createWriteEmu (destroyWriteEmu_refs hdestroy).1 hcreate).trans
    (primarySettings_destroyWriteEmu hdestroy)

/-- Parameters that are set. -/
theorem primarySettings_setListenerParams {P : DS3DListener} {F : ListenerFlags}
    (hc : s.setListenerParams P F = some s') : s'.primarySettings =
      { s.primarySettings with
        params := PrimaryBuffer.copyParams F P s.primarySettings.params } := by
  obtain ⟨gs, rfl⟩ := eq_of_setListenerParams hc
  unfold primarySettings
  rw [PrimaryBuffer.writeParams_eq]

/-- **`Initialize`** of the primary buffer. -/
theorem primarySettings_initialize {desc : Option BufferDesc}
    (hc : s.primaryInitialize desc mem = some (hr, s')) :
    s'.primarySettings = s.primarySettings.call hr (.initializePrimary desc mem) := by
  obtain ⟨hfail, rfl, -⟩ | ⟨d, hr₁, s₁, rfl, -, hs₁, hs'⟩ := primaryInitialize_cases hc
  · cases desc with
    | none => rfl
    | some d => exact (if_neg hfail).symm
  have h₁ : s₁.primarySettings = s.primarySettings := by
    obtain ⟨-, s₀, hdestroy, hcreate⟩ | ⟨-, -, rfl⟩ := hs₁
    · exact primarySettings_renewWriteEmu hdestroy hcreate
    · rfl
  obtain ⟨hfail, -, rfl⟩ | ⟨rfl, -, hset⟩ := hs'
  · exact h₁.trans (if_neg hfail).symm
  · have hreset : (s₁.resetPrimary d.dwFlags).primarySettings =
        s₁.primarySettings.reset d.dwFlags := rfl
    rw [primarySettings_setListenerParams hset, hreset, h₁]
    rfl

/-- **`CreateSoundBuffer`** of the primary buffer. -/
theorem primarySettings_create {desc : BufferDesc}
    (hc : s.createPrimary desc mem = some (hr, s')) :
    s'.primarySettings = s.primarySettings.create desc.dwFlags hr := by
  obtain ⟨s₁, hfirst, hinit, hs'⟩ | ⟨hnot, -, rfl⟩ := createPrimary_cases hc
  · refine Eq.trans ?_ (if_pos hfirst).symm
    have h₁ := primarySettings_initialize hinit
    obtain ⟨hfail, rfl⟩ | ⟨rfl, rfl⟩ := hs'
    · rw [if_neg hfail]
      have hrelease : primarySettings { s₁ with mPrimaryBuffer := s₁.mPrimaryBuffer.release } =
          s₁.primarySettings.release := by
        unfold PrimaryBuffer.release PrimarySettings.release primarySettings
        dsimp only
        split_ifs <;> rfl
      rw [hrelease, h₁]
      exact congrArg PrimarySettings.release (if_neg hfail)
    · rw [if_pos rfl, h₁]
      rfl
  · exact (if_neg hnot).symm

/-- **A call on the primary buffer.** -/
theorem primarySettings_call {c : PrimaryCall} (hc : s.primaryCall c = some (hr, s')) :
    s'.primarySettings = s.primarySettings.call hr c := by
  cases c with
  | release =>
      cases hc
      unfold PrimarySettings.call PrimarySettings.release PrimaryBuffer.release primarySettings
      dsimp only
      split_ifs <;> rfl
  | initializePrimary desc mem => exact primarySettings_initialize hc
  | play priority flags started =>
      obtain ⟨-, rfl, rfl⟩ | ⟨-, rfl, rfl⟩ | ⟨emu, dev, emu', dev', notify, -, hdev, -, rfl⟩ :=
        primaryPlay_cases hc
      · rfl
      · rfl
      · unfold PrimarySettings.call primarySettings
        rw [hdev]
        simp only [HResult.succeeded_eq_true]
        split_ifs <;> rfl
  | stop =>
      obtain ⟨-, -, rfl⟩ | ⟨-, -, -, -, -, -, -, -, -, -, rfl⟩ := primaryStop_cases hc
      · rfl
      · rfl
  | setFormat wfx mem =>
      have hformat : s.primarySettings.call hr (.setFormat wfx mem) =
          { s.primarySettings with
            format := (s.newFormat wfx).getD s.primarySettings.format } := rfl
      rw [hformat]
      obtain ⟨rfl, hnone⟩ | ⟨format, hsome, hs'⟩ := setFormat_cases hc
      · rw [hnone]
        rfl
      · rw [hsome]
        obtain ⟨-, rfl⟩ | ⟨-, s₁, hdestroy, hcreate⟩ := hs'
        · rfl
        · rw [primarySettings_renewWriteEmu hdestroy hcreate]
          rfl
  | setVolume volume =>
      have hc : s.primarySetVolume volume = (hr, s') := Option.some.inj hc
      unfold primarySetVolume at hc
      split_ifs at hc
      all_goals
        cases hc
        rfl
  | setPan pan =>
      obtain ⟨hfail, rfl⟩ | ⟨-, rfl, rfl⟩ | ⟨emu, emu', -, -, rfl⟩ := primarySetPan_cases hc
      · exact (if_neg hfail).symm
      · rfl
      · unfold PrimarySettings.call primarySettings
        simp only [HResult.succeeded_eq_true]
        split_ifs <;> rfl
  | restore =>
      rw [← show s.primaryRestore.2 = s' from congrArg Prod.snd (Option.some.inj hc)]
      unfold primaryRestore
      split <;> rfl
  | _ =>
      cases hc
      rfl

/-! ## The other steps -/

/-- **A call on the listener.** -/
theorem primarySettings_listener {c : ListenerCall} {apply : UInt32}
    (hc : s.callListener c apply = some (hr, s')) : s'.primarySettings =
      if hr = .ok then s.primarySettings.listener c apply else s.primarySettings := by
  obtain ⟨-, rfl, rfl⟩ | ⟨F, P, hu, rfl, happly⟩ := callListener_cases hc
  · rfl
  unfold PrimarySettings.listener
  rw [PrimaryBuffer.assigns_eq_copyParams hu]
  obtain ⟨hdeferred, n, rfl⟩ | ⟨himmediate, hset⟩ := happly
  · rw [if_pos rfl, if_pos hdeferred]
    have hpending : PrimaryBuffer.copyParams (s.mPrimaryBuffer.mDirty.union F)
          { PrimaryBuffer.copyParams F P s.mPrimaryBuffer.mDeferred with dwSize := n } =
        PrimaryBuffer.copyParams F P ∘ s.primarySettings.pending := by
      funext Q
      exact (PrimaryBuffer.copyParams_copyParams F s.mPrimaryBuffer.mDirty P
        s.mPrimaryBuffer.mDeferred Q).symm
    rw [← hpending]
    rfl
  · rw [if_pos rfl, if_neg himmediate]
    exact primarySettings_setListenerParams hset

/-- **A commit.** -/
theorem primarySettings_commit (hc : s.commit = some s') :
    s'.primarySettings = s.primarySettings.commit := by
  rw [commit_eq] at hc
  obtain ⟨s₁, hset, hfor⟩ := Option.bind_eq_some_iff.mp hc
  rw [SamePrimary.settings (.forBuffers hfor) (.forBuffers hfor),
    primarySettings_setListenerParams hset]
  rfl

/-- `Prop::Set` of an EAX property. -/
theorem primarySettings_eaxSet {p : Ptr} {immediate accepted : Bool}
    (hc : s.eaxSet p immediate accepted = some (hr, s')) : s'.primarySettings =
      if hr = .ok ∧ immediate then s.primarySettings.commit else s.primarySettings := by
  obtain ⟨b, -, hs'⟩ := eaxSet_cases hc
  have hgen : (s.setBuffer p b.genSource).primarySettings = s.primarySettings := rfl
  obtain ⟨-, rfl, rfl⟩ | ⟨-, -, hnot, rfl⟩ | ⟨-, -, himmediate, rfl, hcommit⟩ := hs'
  · rfl
  · rw [if_neg hnot, hgen]
  · rw [primarySettings_commit hcommit, hgen, if_pos ⟨rfl, himmediate⟩]

theorem primarySettings_enterWritePrimary (hc : s.enterWritePrimary mem = some (hr, s')) :
    s'.primarySettings = s.primarySettings := by
  obtain ⟨s₁, hr₂, s₂, hdestroy, hlose, hs₂⟩ := enterWritePrimary_cases hc
  have h₁ := primarySettings_destroyWriteEmu hdestroy
  have h₂ : s₂.primarySettings = s₁.primarySettings := by
    obtain ⟨gs, rfl⟩ := eq_of_loseBuffers hlose
    rfl
  obtain ⟨-, -, rfl⟩ | ⟨-, -, hcreate⟩ | ⟨-, -, -, rfl⟩ := hs₂
  · exact h₂.trans h₁
  · have hnone : s₂.mPrimaryBuffer.mWriteEmu = none := by
      rw [loseBuffers_primary hlose]
      exact (destroyWriteEmu_refs hdestroy).1
    exact (primarySettings_createWriteEmu hnone hcreate).trans (h₂.trans h₁)
  · exact h₂.trans h₁

/-- A level that is accepted. -/
theorem primarySettings_setCooperativeLevel {level : UInt32}
    (hc : s.setCooperativeLevel level mem = some (hr, s')) : s'.primarySettings =
      if hr = .ok then { s.primarySettings with level := level } else s.primarySettings := by
  obtain ⟨rfl, hfail, -⟩ | ⟨s₁, rfl, -, -, hs₁⟩ := setCooperativeLevel_cases hc
  · exact (if_neg hfail).symm
  have h₁ : s₁.primarySettings = s.primarySettings := by
    obtain ⟨-, henter⟩ | ⟨-, -, hdestroy⟩ | ⟨-, -, rfl⟩ := hs₁
    · exact primarySettings_enterWritePrimary henter
    · exact primarySettings_destroyWriteEmu hdestroy
    · rfl
  rw [← h₁]
  simp only [HResult.succeeded_eq_true]
  split_ifs <;> rfl

/-- **`CreateSoundBuffer`.** -/
theorem primarySettings_createSoundBuffer [Abi] {desc : Option BufferDesc} {dsBuffer outer : Bool}
    (hc : s.createSoundBuffer desc dsBuffer outer mem = some (hr, s')) :
    s'.primarySettings =
      s.primarySettings.after (.createSoundBuffer desc dsBuffer outer mem, hr) := by
  obtain ⟨rfl, -, hnot⟩ | ⟨d, haccepts, ⟨hprimary, hcreate⟩ | ⟨hprimary, -, p, s₁, hcon, hinit⟩⟩ :=
    createSoundBuffer_cases hc
  · cases desc with
    | none => rfl
    | some d =>
        refine (if_neg ?_).symm
        rintro ⟨hptr, houter, hsize, hready, hprimary⟩
        have haccepts : s'.Accepts (some d) dsBuffer outer d :=
          ⟨rfl, hptr, by simpa using houter, hsize, Option.isNone_eq_false_iff.mpr hready⟩
        exact (hnot d haccepts).1 hprimary
  · obtain rfl := haccepts.eq
    refine (primarySettings_create hcreate).trans (if_pos ?_).symm
    exact ⟨haccepts.dsBuffer, by simp [haccepts.outer], haccepts.size,
      Option.isNone_eq_false_iff.mp haccepts.shared, hprimary⟩
  · obtain rfl := haccepts.eq
    refine Eq.trans ?_ (if_neg fun h ↦ hprimary h.2.2.2.2).symm
    exact ((SamePrimary.construct hcon).trans (.initializeNew hinit)).settings
      ((SameContext.construct hcon).trans (.initializeNew hinit))

/-- **The object refines the machine of the primary buffer**, step by step. -/
theorem primarySettings_exec [Abi] {op : Op} (hc : s.exec op = some (hr, s')) :
    s'.primarySettings = s.primarySettings.after (op, hr) := by
  have hother : ¬ TouchesPrimary op → ¬ op.WritesContext →
      s'.primarySettings = s.primarySettings :=
    fun hp hctx ↦ (SamePrimary.exec hp hc).settings (.exec hctx hc)
  cases op with
  | initializeObject shared allocs =>
      rw [← show (s.initializeObject shared allocs).2 = s' from congrArg Prod.snd
        (Option.some.inj hc)]
      unfold initializeObject
      cases shared with
      | error hr =>
          split_ifs <;> rfl
      | ok shared =>
          split_ifs with hready
          · unfold PrimarySettings.after primarySettings
            dsimp only
            rw [hready]
          · rfl
  | createSoundBuffer desc dsBuffer outer mem => exact primarySettings_createSoundBuffer hc
  | setCooperativeLevel level mem => exact primarySettings_setCooperativeLevel hc
  | eaxSet p immediate accepted => exact primarySettings_eaxSet hc
  | primary c => exact primarySettings_call hc
  | listener c apply => exact primarySettings_listener hc
  | commitDeferredSettings =>
      obtain ⟨s₁, hs₁, heq⟩ := Option.map_eq_some_iff.mp hc
      cases heq
      exact primarySettings_commit hs₁
  | mix p offset ended =>
      cases p with
      | none =>
          obtain ⟨s₁, hmix, heq⟩ := Option.map_eq_some_iff.mp hc
          cases heq
          obtain ⟨emu, -, hc⟩ := Option.bind_eq_some_iff.mp hmix
          cases hc
          rfl
      | some p => exact hother id id
  | _ => exact hother id id

end DSound8OAL

/-! ## What is read -/

namespace PrimarySettings

/-- What a setting is read as that needs the flag `caps`. -/
def control {α : Type} (st : PrimarySettings) (caps : UInt32) (value : α) : Except HResult α :=
  if hasFlag st.flags caps then .ok value else .error .controlUnavail

/-- The status, while a secondary buffer plays or not. -/
def status (st : PrimarySettings) (secondary : Bool) : UInt32 :=
  if st.playing ∨ st.level < Level.writePrimary ∧ secondary then
    let loc : UInt32 := if hasFlag st.flags Caps.locDefer then Status.locHardware else 0
    Status.playing ||| Status.looping ||| loc
  else 0

end PrimarySettings

namespace DSound8OAL

variable {s s' : DSound8OAL} {hr : HResult} {mem : Memory}

/-- What is read of the primary buffer and of the listener is in the settings; the status is that
of the secondary buffers too. -/
structure PrimaryReads (s : DSound8OAL) (st : PrimarySettings) : Prop where
  volume : s.mPrimaryBuffer.getVolume true = st.control Caps.ctrlVolume st.volume
  pan : s.mPrimaryBuffer.getPan true = st.control Caps.ctrlPan st.pan
  frequency : s.mPrimaryBuffer.getFrequency true =
    st.control Caps.ctrlFrequency st.format.nSamplesPerSec
  format : ∀ wfx sizeAllocated sizeWritten,
    s.mPrimaryBuffer.mFormat.getFormat wfx sizeAllocated sizeWritten =
      st.format.getFormat wfx sizeAllocated sizeWritten
  status : ∀ secondary : Bool,
    (secondary ↔ ∃ p b, s.getBuffer p = some b ∧ isPlaying b.mSource) →
      s.primaryGetStatus true = .ok (st.status secondary)
  param : ∀ {α : Type} (value : DS3DListener → α),
    s.mPrimaryBuffer.param true value = .ok (value st.params)
  allParameters : ∀ dwSize, sizeofDS3DListener ≤ dwSize →
    s.mPrimaryBuffer.getAllParameters (some dwSize) = .ok { st.params with dwSize := dwSize }

/-- The walk of `GetStatus` finds a buffer that plays if there is one. -/
theorem anyPlaying_iff [Abi] (hpool : PoolOk s.mSecondaryBuffers) :
    s.anyPlaying ↔ ∃ p b, s.getBuffer p = some b ∧ isPlaying b.mSource := by
  unfold anyPlaying
  rw [List.any_eq_true]
  constructor
  · rintro ⟨p, -, hp⟩
    obtain ⟨b, hb, hplaying⟩ := (Option.any_eq_true _ _).mp hp
    exact ⟨p, b, hb, hplaying⟩
  · rintro ⟨p, b, hb, hplaying⟩
    exact ⟨p, hpool.mem_livePtrs.mpr (Option.isSome_of_eq_some hb),
      (Option.any_eq_true _ _).mpr ⟨b, hb, hplaying⟩⟩

theorem primaryReads [Abi] (hpool : PoolOk s.mSecondaryBuffers) :
    s.PrimaryReads s.primarySettings := by
  have hcontrol : ∀ {α : Type} (caps : UInt32) (value : α),
      s.mPrimaryBuffer.control true caps value = s.primarySettings.control caps value := by
    intro α caps value
    have hread : s.mPrimaryBuffer.control true caps value =
        if !hasFlag s.primarySettings.flags caps then .error .controlUnavail else .ok value := rfl
    rw [hread, PrimarySettings.control]
    cases hasFlag s.primarySettings.flags caps <;> rfl
  refine ⟨hcontrol _ _, hcontrol _ _, hcontrol _ _, fun _ _ _ ↦ rfl, fun secondary hsecondary ↦ ?_,
    fun value ↦ rfl, fun dwSize hsize ↦ if_neg (UInt32.not_lt.mpr hsize)⟩
  obtain rfl : s.anyPlaying = secondary :=
    Bool.eq_iff_iff.mpr ((anyPlaying_iff hpool).trans hsecondary.symm)
  have hread : s.primaryGetStatus true = .ok (if s.mPrimaryBuffer.mPlaying ||
      decide (s.mPrioLevel < Level.writePrimary) && s.anyPlaying then
        Status.playing ||| Status.looping |||
          if hasFlag s.mPrimaryBuffer.mFlags Caps.locDefer then Status.locHardware else 0
      else 0) := rfl
  rw [hread]
  simp only [Bool.or_eq_true, Bool.and_eq_true, decide_eq_true_eq]
  rfl

end DSound8OAL

open DSound8OAL

/-- **The object refines the machine of the primary buffer**: each operation does to what is read
of it and of the listener what the machine does, whatever else it does, and in each run they
follow the operations and what they returned. -/
theorem primary_settings_refined [Abi] {s : DSound8OAL} (h : Reachable DSoundStep IsNew s) :
    (s.IsNew → s.primarySettings = {}) ∧
    (∀ i s', Answers s i s' → s'.primarySettings = s.primarySettings.after i) ∧
    ∀ is s', Run Answers s is s' →
      s'.PrimaryReads (is.foldl PrimarySettings.after s.primarySettings) := by
  refine ⟨?_, fun i s' hs ↦ primarySettings_exec hs.2, fun is s' hrun ↦ ?_⟩
  · rintro ⟨is8, rfl⟩
    rfl
  · have hfollows := hrun.follows
      (R := fun t st ↦ Reachable DSoundStep IsNew t ∧ t.primarySettings = st) (C := fun _ ↦ True)
      (fun t i t' st ht _ hs ↦ ⟨ht.1.step ⟨hs.1, _, hs.2⟩, ht.2 ▸ primarySettings_exec hs.2⟩)
      (fun _ _ ↦ trivial) ⟨h, rfl⟩
    rw [← hfollows.2]
    exact primaryReads (ok_of_reachable hfollows.1).pool

set_option maxRecDepth 4000 in
/-- The primary buffer is created, and the listener is moved. -/
theorem primary_settings_refined_moved : letI : Abi := ⟨⟨600, by decide⟩⟩
    ∃ s s' : DSound8OAL, Reachable DSoundStep IsNew s ∧
      s'.mPrimaryBuffer.getVolume true = .error .controlUnavail ∧
      s'.mPrimaryBuffer.getPosition true = .ok ⟨1, 2, 3⟩ := by
  let _ : Abi := ⟨⟨600, by decide⟩⟩
  have h0 : Reachable DSoundStep IsNew (DSound8OAL.new true) := .init ⟨true, rfl⟩
  have h1 := h0.step (i := initializeOne) ⟨initializeOne_legal true, _, rfl⟩
  have hreads := (primary_settings_refined h1).2.2 _ _
    (.cons (i := (createPrimary, HResult.ok)) ⟨createPrimary_legal _, rfl⟩
      (.cons (i := (Op.listener (.setPosition 1 2 3) 0, HResult.ok)) ⟨trivial, rfl⟩ (.nil _)))
  exact ⟨_, _, h1, hreads.volume, hreads.param _⟩

/-! ## The listener of the context -/

/-- The listener of a context with the extensions `exts` has the parameters `params`; in OpenAL
the z axis points the other way. -/
structure ListenerAttrs.Shows (exts : Extensions) (params : DS3DListener) (l : ListenerAttrs) :
    Prop where
  position : l.position = params.vPosition.flipZ
  velocity : l.velocity = params.vVelocity.flipZ
  orientFront : l.orientFront = params.vOrientFront.flipZ
  orientTop : l.orientTop = params.vOrientTop.flipZ
  speedOfSound : l.speedOfSound = 343.3 / params.flDistanceFactor
  metersPerUnit : exts.efx → l.metersPerUnit = params.flDistanceFactor
  dopplerFactor : l.dopplerFactor = params.flDopplerFactor

namespace PrimaryBuffer

variable {exts : Extensions} {P Q : DS3DListener} {F : ListenerFlags} {l : ListenerAttrs}

/-- Parameters that are copied and written. -/
theorem shows_writeParams (h : l.Shows exts Q) :
    (writeParams exts P F l).Shows exts (copyParams F P Q) := by
  rw [writeParams_eq]
  unfold copyParams
  refine ⟨?_, ?_, ?_, ?_, ?_, fun hefx ↦ ?_, ?_⟩
  · exact h.position ▸ (apply_ite D3DVector.flipZ _ _ _).symm
  · exact h.velocity ▸ (apply_ite D3DVector.flipZ _ _ _).symm
  · exact h.orientFront ▸ (apply_ite D3DVector.flipZ _ _ _).symm
  · exact h.orientTop ▸ (apply_ite D3DVector.flipZ _ _ _).symm
  · exact h.speedOfSound ▸ (apply_ite (343.3 / ·) _ _ _).symm
  · rw [hefx, Bool.and_true, h.metersPerUnit hefx]
  · rw [h.dopplerFactor]

/-- All parameters are written. -/
theorem shows_writeParams_all : (writeParams exts P .all l).Shows exts (copyParams .all P Q) := by
  rw [writeParams_eq]
  exact ⟨rfl, rfl, rfl, rfl, rfl, fun hefx ↦ by rw [hefx]; rfl, rfl⟩

end PrimaryBuffer

/-- Other operations leave the parameters alone. -/
theorem PrimarySettings.params_after {op : Op} (h : ¬ op.WritesContext) (st : PrimarySettings)
    (hr : HResult) : (st.after (op, hr)).params = st.params := by
  cases op with
  | primary c =>
      cases c with
      | release =>
          unfold after call release
          dsimp only
          split_ifs <;> rfl
      | play | setPan =>
          unfold after call
          dsimp only
          split_ifs <;> rfl
      | initializePrimary | setVolume => exact absurd trivial h
      | _ => rfl
  | setCooperativeLevel =>
      unfold after
      dsimp only
      split_ifs <;> rfl
  | initializeObject | createSoundBuffer | eaxSet | listener | commitDeferredSettings =>
      exact absurd trivial h
  | _ => rfl

namespace DSound8OAL

variable {s s' : DSound8OAL} {hr : HResult} {mem : Memory}

/-- The listener of the context has the parameters of the primary buffer of an object that is
initialized. -/
structure ListenerShown (s : DSound8OAL) : Prop where
  shared : s.mShared.isSome
  shows : s.alListener.Shows s.mExtensions s.mPrimaryBuffer.mImmediate

/-- A call that initializes the primary buffer if it succeeds. -/
def InitializesPrimary (s : DSound8OAL) : Op → Prop
  | .primary (.initializePrimary _ _) => True
  | .createSoundBuffer desc dsBuffer outer _ => s.CreatesPrimary desc dsBuffer outer ∧
      s.mPrimaryBuffer.addRef.1 = 1 ∧ s.mPrimaryBuffer.addRef.2.mFlags = 0
  | _ => False

/-- **`Initialize`** of the primary buffer writes all parameters, or changes none. -/
theorem primaryInitialize_shown {desc : Option BufferDesc}
    (hc : s.primaryInitialize desc mem = some (hr, s')) :
    hr = .ok ∧ s'.mShared.isSome = s.mShared.isSome ∧
        s'.alListener.Shows s'.mExtensions s'.mPrimaryBuffer.mImmediate ∨
      hr ≠ .ok ∧ s.SameContext s' ∧ s.SettingsKept s' := by
  obtain ⟨hfail, rfl, -⟩ | ⟨d, hr₁, s₁, -, -, hs₁, hs'⟩ := primaryInitialize_cases hc
  · exact .inr ⟨hfail, .refl _, .refl _⟩
  have h₁ : s.SameContext s₁ ∧ s.SettingsKept s₁ := by
    obtain ⟨-, s₀, hdestroy, hcreate⟩ | ⟨-, -, rfl⟩ := hs₁
    · obtain ⟨hnone, hkept⟩ := destroyWriteEmu_refs hdestroy
      exact ⟨(SameContext.destroyWriteEmu hdestroy).trans (.createWriteEmu hcreate),
        hkept.trans (createWriteEmu_refs hnone hcreate)⟩
    · exact ⟨.refl _, .refl _⟩
  obtain ⟨hfail, -, rfl⟩ | ⟨hok, -, hset⟩ := hs'
  · exact .inr ⟨hfail, h₁⟩
  · obtain ⟨gs, rfl⟩ := eq_of_setListenerParams hset
    exact .inl ⟨hok, h₁.1.shared, PrimaryBuffer.shows_writeParams_all⟩

namespace ListenerShown

/-- A step that leaves the context and the parameters alone. -/
theorem of_same (h : s.ListenerShown) (hctx : s.SameContext s')
    (hparams : s'.mPrimaryBuffer.mImmediate = s.mPrimaryBuffer.mImmediate) :
    s'.ListenerShown where
  shared := hctx.shared.trans h.shared
  shows := by
    rw [hctx.listener, hctx.extensions, hparams]
    exact h.shows

theorem setListenerParams (h : s.ListenerShown) {P : DS3DListener} {F : ListenerFlags}
    (hc : s.setListenerParams P F = some s') : s'.ListenerShown := by
  obtain ⟨gs, rfl⟩ := eq_of_setListenerParams hc
  exact ⟨h.shared, PrimaryBuffer.shows_writeParams h.shows⟩

theorem callListener (h : s.ListenerShown) {c : ListenerCall} {apply : UInt32}
    (hc : s.callListener c apply = some (hr, s')) : s'.ListenerShown := by
  obtain ⟨-, -, rfl⟩ | ⟨F, P, -, -, ⟨-, n, rfl⟩ | ⟨-, hset⟩⟩ := callListener_cases hc
  · exact h
  · exact ⟨h.shared, h.shows⟩
  · exact h.setListenerParams hset

theorem commit (h : s.ListenerShown) (hc : s.commit = some s') : s'.ListenerShown := by
  rw [commit_eq] at hc
  obtain ⟨s₁, hset, hfor⟩ := Option.bind_eq_some_iff.mp hc
  have hclear : s.clearDirty.ListenerShown := ⟨h.shared, h.shows⟩
  exact (hclear.setListenerParams hset).of_same (.forBuffers hfor)
    (SamePrimary.forBuffers hfor).settingsKept.immediate

theorem eaxSet (h : s.ListenerShown) {p : Ptr} {immediate accepted : Bool}
    (hc : s.eaxSet p immediate accepted = some (hr, s')) : s'.ListenerShown := by
  obtain ⟨b, -, hs'⟩ := eaxSet_cases hc
  have hgen : (s.setBuffer p b.genSource).ListenerShown := ⟨h.shared, h.shows⟩
  obtain ⟨-, -, rfl⟩ | ⟨-, -, -, rfl⟩ | ⟨-, -, -, -, hcommit⟩ := hs'
  · exact h
  · exact hgen
  · exact hgen.commit hcommit

theorem primaryInitialize (h : s.ListenerShown) {desc : Option BufferDesc}
    (hc : s.primaryInitialize desc mem = some (hr, s')) : s'.ListenerShown := by
  obtain ⟨-, hshared, hshows⟩ | ⟨-, hctx, hkept⟩ := primaryInitialize_shown hc
  · exact ⟨hshared.trans h.shared, hshows⟩
  · exact h.of_same hctx hkept.immediate

theorem createPrimary (h : s.ListenerShown) {desc : BufferDesc}
    (hc : s.createPrimary desc mem = some (hr, s')) : s'.ListenerShown := by
  have hadd : ListenerShown { s with mPrimaryBuffer := s.mPrimaryBuffer.addRef.2 } :=
    ⟨h.shared, h.shows⟩
  obtain ⟨s₁, -, hinit, hs'⟩ | ⟨-, -, rfl⟩ := createPrimary_cases hc
  · have h₁ := hadd.primaryInitialize hinit
    obtain ⟨-, rfl⟩ | ⟨-, rfl⟩ := hs'
    · refine h₁.of_same (.setPrimary s₁ _) ?_
      unfold PrimaryBuffer.release
      split_ifs <;> rfl
    · exact h₁
  · exact hadd

theorem createSoundBuffer [Abi] (h : s.ListenerShown) {desc : Option BufferDesc}
    {dsBuffer outer : Bool}
    (hc : s.createSoundBuffer desc dsBuffer outer mem = some (hr, s')) : s'.ListenerShown := by
  obtain ⟨rfl, -⟩ | ⟨d, -, ⟨-, hcreate⟩ | ⟨-, -, p, s₁, hcon, hinit⟩⟩ :=
    createSoundBuffer_cases hc
  · exact h
  · exact h.createPrimary hcreate
  · exact h.of_same ((SameContext.construct hcon).trans (.initializeNew hinit))
      ((SamePrimary.construct hcon).trans (.initializeNew hinit)).settingsKept.immediate

/-- **Step lemma.** -/
theorem exec [Abi] (h : s.ListenerShown) {op : Op} (hc : s.exec op = some (hr, s')) :
    s'.ListenerShown := by
  by_cases hctx : op.WritesContext
  · cases op with
    | initializeObject shared allocs =>
        -- It is initialized, and has been told its extensions.
        have hagain : s.initializeObject shared allocs = (.alreadyInitialized, s) := if_pos h.shared
        cases hagain.symm.trans (Option.some.inj hc)
        exact h
    | createSoundBuffer desc dsBuffer outer mem => exact h.createSoundBuffer hc
    | eaxSet p immediate accepted => exact h.eaxSet hc
    | listener c apply => exact h.callListener hc
    | commitDeferredSettings =>
        obtain ⟨s₁, hs₁, heq⟩ := Option.map_eq_some_iff.mp hc
        cases heq
        exact h.commit hs₁
    | primary c =>
        cases c with
        | initializePrimary desc mem => exact h.primaryInitialize hc
        | setVolume volume =>
            rw [← show (s.primarySetVolume volume).2 = s' from congrArg Prod.snd
              (Option.some.inj hc)]
            unfold primarySetVolume
            split_ifs
            · exact h
            · exact h
            · exact ⟨h.shared, { h.shows with }⟩
        | _ => exact hctx.elim
    | _ => exact hctx.elim
  · have hparams := PrimarySettings.params_after hctx s.primarySettings hr
    rw [← primarySettings_exec hc] at hparams
    exact h.of_same (.exec hctx hc) hparams

end ListenerShown

/-- A call that initializes the primary buffer makes the listener show its parameters. -/
theorem InitializesPrimary.shown [Abi] {op : Op} (h : s.InitializesPrimary op)
    (hshared : s.mShared.isSome) (hc : s.exec op = some (.ok, s')) : s'.ListenerShown := by
  have hinit : ∀ {t : DSound8OAL} {desc mem}, t.mShared.isSome →
      t.primaryInitialize desc mem = some (.ok, s') → s'.ListenerShown := by
    intro t desc mem ht hc
    obtain ⟨-, heq, hshows⟩ | ⟨hfail, -⟩ := primaryInitialize_shown hc
    · exact ⟨heq.trans ht, hshows⟩
    · exact absurd rfl hfail
  cases op with
  | primary c =>
      cases c with
      | initializePrimary desc mem => exact hinit hshared hc
      | _ => exact h.elim
  | createSoundBuffer desc dsBuffer outer mem =>
      obtain ⟨hcreates, hfirst⟩ := h
      obtain ⟨d, haccepts, hprimary⟩ := createsPrimary_iff.mp hcreates
      obtain ⟨-, hfail, -⟩ | ⟨d', haccepts', ⟨-, hcreate⟩ | ⟨hnot, -⟩⟩ := createSoundBuffer_cases hc
      · exact absurd rfl hfail
      · obtain ⟨s₁, -, hs₁, ⟨hfail, -⟩ | ⟨-, rfl⟩⟩ | ⟨hnot, -⟩ := createPrimary_cases hcreate
        · exact absurd rfl hfail
        · exact hinit (t := { s with mPrimaryBuffer := s.mPrimaryBuffer.addRef.2 }) hshared hs₁
        · exact absurd hfirst hnot
      · obtain rfl : d = d' := Option.some.inj (haccepts.eq.symm.trans haccepts'.eq)
        exact absurd hprimary hnot
  | _ => exact h.elim

end DSound8OAL

/-- **The listener of the context follows the operations.**  It belongs to all objects on the
device.  From a call that initializes the primary buffer of one of them on, and as long as no
other object writes to it, it has the parameters that are read of the primary buffer, and the
gain that goes with the volume. -/
theorem listener_shown [Abi] {t t' s : DSound8OAL} {op : Op} {is : List Answer}
    (hshared : t.mShared.isSome) (hinit : t.InitializesPrimary op) (hs : Answers t (op, .ok) t')
    (hrun : Run Answers t' is s) :
    let st := is.foldl PrimarySettings.after t'.primarySettings
    s.alListener.Shows s.mExtensions st.params ∧ s.alListener.gain = st.gain := by
  obtain ⟨hsettings, hshown⟩ := hrun.follows
    (R := fun u st ↦ u.primarySettings = st ∧ u.ListenerShown) (C := fun _ ↦ True)
    (fun u i u' st hu _ hs ↦ ⟨hu.1 ▸ primarySettings_exec hs.2, hu.2.exec hs.2⟩)
    (fun _ _ ↦ trivial) ⟨rfl, hinit.shown hshared hs.2⟩
  rw [← hsettings]
  exact ⟨hshown.shows, rfl⟩

set_option maxRecDepth 4000 in
/-- The primary buffer is created, and the listener is moved. -/
theorem listener_shown_moved : letI : Abi := ⟨⟨600, by decide⟩⟩
    ∃ s : DSound8OAL, s.alListener.position = ⟨1, 2, -3⟩ := by
  let _ : Abi := ⟨⟨600, by decide⟩⟩
  obtain ⟨hshows, -⟩ := listener_shown (t := ((DSound8OAL.new true).exec initializeOne).elim
      (.new true) Prod.snd) rfl
    (show DSound8OAL.InitializesPrimary _ createPrimary from
      ⟨⟨rfl, rfl, rfl, _, rfl, by decide, by decide⟩, rfl, rfl⟩) ⟨createPrimary_legal _, rfl⟩
    (.cons (i := (Op.listener (.setPosition 1 2 3) 0, HResult.ok)) ⟨trivial, rfl⟩ (.nil _))
  exact ⟨_, hshows.position⟩

end Dsoal
