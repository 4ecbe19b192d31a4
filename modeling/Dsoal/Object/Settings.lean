import Dsoal.Lib.Histories
import Dsoal.Core.Getters
import Dsoal.Object.Deferred
import Dsoal.Object.Messages

/-!
# The settings of the buffers

What an application can set of a buffer, and read: its volume, pan, frequency and 3D parameters.
`Settings` says what these are for: each setter replaces a value, or with `DS3D_DEFERRED` adds to
what the next commit will do, and everything else leaves them alone.  It knows no dirty flags and
no deferred copy of the parameters; what is pending is a function.

The object refines this machine (`settings_refined`).  What is read of a buffer is a fold over
the operations since, of which only a few matter.
-/

namespace Dsoal

open TransitionSystem Relation

/-- The storage has the sampling rate of the description. -/
theorem SharedBuffer.rate_of_create {desc : BufferDesc} {format : WaveFormat} {exts : Extensions}
    {memory : Bool} {sb : SharedBuffer} (h : SharedBuffer.create desc format exts memory = .ok sb) :
    sb.mWfxFormat.nSamplesPerSec = format.nSamplesPerSec := by
  simp only [SharedBuffer.create] at h
  split_ifs at h
  split at h
  · cases h
  · rename_i hconvert
    split_ifs at h
    obtain rfl := Except.ok.inj h
    exact (convertAny_keeps hconvert).1

/-! ## The machine -/

/-- What a call of `IDirectSound3DBuffer` does to the parameters if it is accepted. -/
def Buffer3DCall.assigns : Buffer3DCall → DS3DBuffer → DS3DBuffer
  | .setAllParameters none, P => P
  | .setAllParameters (some params), P => { params with dwSize := P.dwSize }
  | .setConeAngles insideConeAngle outsideConeAngle, P =>
    { P with dwInsideConeAngle := insideConeAngle, dwOutsideConeAngle := outsideConeAngle }
  | .setConeOrientation x y z, P => { P with vConeOrientation := ⟨x, y, z⟩ }
  | .setConeOutsideVolume coneOutsideVolume, P => { P with lConeOutsideVolume := coneOutsideVolume }
  | .setMaxDistance maxDistance, P => { P with flMaxDistance := maxDistance }
  | .setMinDistance minDistance, P => { P with flMinDistance := minDistance }
  | .setMode mode, P => { P with dwMode := mode }
  | .setPosition x y z, P => { P with vPosition := ⟨x, y, z⟩ }
  | .setVelocity x y z, P => { P with vVelocity := ⟨x, y, z⟩ }

/-- The settings of a buffer with the flags `flags` and the sampling rate `rate`. -/
structure Settings where
  flags : UInt32
  rate : UInt32
  volume : Int32
  pan : Int32
  frequency : UInt32
  params : DS3DBuffer
  /-- What the next commit makes of the parameters. -/
  pending : DS3DBuffer → DS3DBuffer

namespace Settings

/-- The settings of a new buffer. -/
def new (flags rate : UInt32) : Settings where
  flags := flags
  rate := rate
  volume := 0
  pan := 0
  frequency := rate
  params := Buffer.defaultParams
  pending := id

/-- The settings of a duplicate: the volume and what is pending are not copied. -/
def duplicate (st : Settings) : Settings :=
  { new st.flags st.rate with
    pan := if hasFlag st.flags Caps.ctrlPan then st.pan else 0
    frequency := if hasFlag st.flags Caps.ctrlFrequency then st.frequency else st.rate
    params := if hasFlag st.flags Caps.ctrl3D then st.params else Buffer.defaultParams }

/-- A call that is accepted. -/
def call (st : Settings) : BufferCall → Settings
  | .setVolume volume => { st with volume := volume }
  | .setPan pan => { st with pan := pan }
  | .setFrequency frequency => { st with frequency := if frequency ≠ 0 then frequency else st.rate }
  | .call3D c apply =>
    if apply = ds3dDeferred then { st with pending := c.assigns ∘ st.pending }
    else { st with params := c.assigns st.params }
  | .setCurrentPosition _ | .restore => st

/-- A commit. -/
def commit (st : Settings) : Settings := { st with params := st.pending st.params, pending := id }

end Settings

/-- The settings of all buffers. -/
abbrev SettingsTable := Ptr → Option Settings

/-- What an operation that returns `hr` does to the settings. -/
def Op.Settles (op : Op) (hr : HResult) (S S' : SettingsTable) : Prop :=
  match op with
  | .createSoundBuffer (some desc) _ _ _ =>
    if hr = .ok ∧ hasFlag desc.dwFlags Caps.primaryBuffer = false then
      ∃ p format, S p = none ∧ desc.lpwfxFormat = some format ∧
        S' = Function.update S p (some (.new desc.dwFlags format.nSamplesPerSec))
    else S' = S
  | .duplicateSoundBuffer (some q) _ _ =>
    if hr = .ok then
      ∃ p st, S p = none ∧ S q = some st ∧ S' = Function.update S p (some st.duplicate)
    else S' = S
  | .release p => S' = Function.update S p none
  | .buffer p c => S' = if hr = .ok then Function.update S p ((S p).map (·.call c)) else S
  | .eaxSet _ immediate _ =>
    S' = if hr = .ok ∧ immediate then fun p ↦ (S p).map .commit else S
  | .commitDeferredSettings => S' = fun p ↦ (S p).map .commit
  | _ => S' = S

/-- A call that fails sets nothing; a release and `CommitDeferredSettings` do not fail. -/
theorem Op.settles_of_failed {op : Op} {hr : HResult} (hfail : hr ≠ .ok)
    (hrelease : ∀ p, op ≠ .release p) (hcommit : op ≠ .commitDeferredSettings)
    (S : SettingsTable) : op.Settles hr S S := by
  unfold Op.Settles
  split
  · rw [if_neg fun hand ↦ hfail hand.1]
  · rw [if_neg hfail]
  · exact absurd rfl (hrelease _)
  · rw [if_neg hfail]
  · rw [if_neg fun hand ↦ hfail hand.1]
  · exact absurd rfl hcommit
  · rfl

/-! ## The settings of a buffer -/

namespace Buffer

variable {b b' : Buffer} {parent : Parent} {hr : HResult}

/-- The settings of a buffer with the storage `sb`.  A commit does nothing to a buffer that is
not 3D. -/
def settingsOn (b : Buffer) (sb : SharedBuffer) : Settings where
  flags := sb.mFlags
  rate := sb.mWfxFormat.nSamplesPerSec
  volume := b.mVolume
  pan := b.mPan
  frequency := b.mFrequency
  params := b.mImmediate
  pending := if hasFlag sb.mFlags Caps.ctrl3D then copyParams b.mDirty b.mDeferred else id

/-- The settings of a buffer. -/
def settings (b : Buffer) : Option Settings := b.mBuffer.map b.settingsOn

/-- A change of the settings, with the storage as it is. -/
theorem settings_eq_map (hstorage : b'.mBuffer = b.mBuffer) {f : Settings → Settings}
    (hf : ∀ sb, b.mBuffer = some sb → b'.settingsOn sb = f (b.settingsOn sb)) :
    b'.settings = b.settings.map f := by
  unfold settings
  rw [hstorage]
  cases hsb : b.mBuffer with
  | none => rfl
  | some sb => exact congrArg some (hf sb hsb)

/-- `b'` has the settings of the buffer, and the same storage. -/
structure SameControls (b b' : Buffer) : Prop extends b.SameParams b' where
  storage : b'.mBuffer = b.mBuffer
  volume : b'.mVolume = b.mVolume
  pan : b'.mPan = b.mPan
  frequency : b'.mFrequency = b.mFrequency

namespace SameControls

theorem refl (b : Buffer) : b.SameControls b := ⟨.refl b, rfl, rfl, rfl, rfl⟩

theorem trans {b'' : Buffer} (h : b.SameControls b') (h' : b'.SameControls b'') :
    b.SameControls b'' where
  toSameParams := h.toSameParams.trans h'.toSameParams
  storage := h'.storage.trans h.storage
  volume := h'.volume.trans h.volume
  pan := h'.pan.trans h.pan
  frequency := h'.frequency.trans h.frequency

theorem of_reflTransGen (h : ReflTransGen SameControls b b') : b.SameControls b' := by
  induction h with
  | refl => exact .refl b
  | tail _ hstep ih => exact ih.trans hstep

theorem settings (h : b.SameControls b') : b'.settings = b.settings := by
  refine (settings_eq_map (f := id) h.storage fun sb _ ↦ ?_).trans Option.map_id'
  unfold settingsOn
  rw [h.volume, h.pan, h.frequency, h.immediate, h.deferred, h.dirty]
  rfl

theorem of_own (h : b.SameOwn b') (hparams : b.SameParams b') : b.SameControls b' :=
  ⟨hparams, h.storage, h.volume, h.pan, h.frequency⟩

/-- A change of the source, the location and the last position. -/
theorem of_playback {src : Option Source} {loc : LocStatus} {lastPos : UInt32} :
    b.SameControls { b with mSource := src, mLocStatus := loc, mLastPos := lastPos } :=
  ⟨⟨rfl, rfl, rfl⟩, rfl, rfl, rfl, rfl⟩

end SameControls

/-! ## What the methods do to the settings -/

theorem sameControls_deferredLocation {dev dev' : DeviceSources} {flags : UInt32}
    (hc : b.deferredLocation parent dev flags = some (hr, b', dev')) : b.SameControls b' := by
  obtain ⟨src, loc, rfl⟩ := deferredLocation_eq hc
  exact .of_playback

theorem sameControls_play {dev dev' : DeviceSources} {priority flags : UInt32}
    {started notify : Bool}
    (hc : b.play parent dev priority flags started = some (hr, b', dev', notify)) :
    b.SameControls b' := by
  obtain ⟨rfl, -⟩ | ⟨sb, b₁, -, -, hloc, hstart⟩ := play_asks hc
  · exact .refl b'
  have h₁ : b.SameControls b₁ := by
    obtain rfl | ⟨hr₁, hloc⟩ := hloc
    · exact .refl b₁
    · exact sameControls_deferredLocation hloc
  obtain ⟨rfl, -⟩ | hstart := hstart
  · exact h₁
  · obtain ⟨src, lastPos, -, rfl⟩ := start_eq hstart
    exact h₁.trans .of_playback

theorem sameControls_follow (F : ListenerFlags) (P : DS3DListener) (b : Buffer) :
    b.SameControls (b.follow F P) := by
  unfold follow
  split_ifs
  · rw [writeRolloff_eq]
    exact ⟨⟨rfl, rfl, rfl⟩, rfl, rfl, rfl, rfl⟩
  · exact .refl b

/-- The setters as functions on the parameters. -/
theorem assigns_eq_copyParams {c : Buffer3DCall} {F : BufferFlags} {P : DS3DBuffer}
    (hu : c.update = some (F, P)) : c.assigns = copyParams F P := by
  funext Q
  cases c with
  | setAllParameters ds3dBuffer =>
      cases ds3dBuffer with
      | none => cases hu
      | some params =>
          obtain ⟨-, hu⟩ := Option.ite_none_left_eq_some.mp hu
          cases hu
          rfl
  | setConeOrientation | setPosition | setVelocity =>
      cases hu
      rfl
  | _ =>
      obtain ⟨-, hu⟩ := Option.ite_none_right_eq_some.mp hu
      cases hu
      rfl

/-- What is pending after a call that is deferred. -/
theorem copyParams_defer (F : BufferFlags) (P : DS3DBuffer) (n : UInt32) (b : Buffer) :
    copyParams (b.defer F P n).mDirty (b.defer F P n).mDeferred =
      copyParams F P ∘ copyParams b.mDirty b.mDeferred := by
  funext Q
  exact (copyParams_copyParams F b.mDirty P b.mDeferred Q).symm

/-- **A setter** of `IDirectSound3DBuffer`. -/
theorem settings_call3D {c : Buffer3DCall} {apply : UInt32} (h3 : b.is3D)
    (hc : b.call3D parent c apply = (hr, b')) :
    b'.settings = if hr = .ok then b.settings.map (·.call (.call3D c apply)) else b.settings := by
  have hperforms := performs_call3D parent c apply b
  rw [hc] at hperforms
  unfold Performs at hperforms
  split at hperforms
  · cases hperforms
    rfl
  rename_i F P hu
  obtain ⟨n, hn⟩ := hperforms
  cases hn
  rw [if_pos rfl]
  have hassigns := assigns_eq_copyParams hu
  split_ifs with happly
  · refine settings_eq_map (by rfl) fun sb hsb ↦ ?_
    have hflag : hasFlag sb.mFlags Caps.ctrl3D := by
      rw [is3D, hasCaps, hsb] at h3
      exact h3
    simp only [settingsOn, Settings.call, if_pos happly, if_pos hflag, copyParams_defer, hassigns]
    rfl
  · refine settings_eq_map (by rfl) fun sb hsb ↦ ?_
    simp only [settingsOn, Settings.call, if_neg happly, hassigns]
    rfl

/-- **A call on a buffer.** -/
theorem settings_of_call {c : BufferCall} (hc : b.call parent c = some (hr, b')) :
    b'.settings = if hr = .ok then b.settings.map (·.call c) else b.settings := by
  cases c with
  | setVolume volume =>
      obtain ⟨hfail, rfl⟩ | ⟨sb, -, rfl, rfl⟩ := setVolume_cases hc
      · exact (if_neg hfail).symm
      · rw [if_pos rfl]
        exact settings_eq_map (by rfl) fun _ _ ↦ by rfl
  | setPan pan =>
      obtain ⟨hfail, rfl⟩ | ⟨sb, -, rfl, hpan⟩ := setPan_cases hc
      · exact (if_neg hfail).symm
      · rw [if_pos rfl]
        obtain ⟨-, -, rfl⟩ | ⟨-, rfl⟩ := hpan
        · exact settings_eq_map (by rfl) fun _ _ ↦ by rfl
        · exact settings_eq_map (by rfl) fun _ _ ↦ by rfl
  | setFrequency frequency =>
      obtain ⟨hfail, rfl⟩ | ⟨sb, hsb, rfl, rfl⟩ := setFrequency_cases hc
      · exact (if_neg hfail).symm
      · rw [if_pos rfl]
        refine settings_eq_map (by rfl) fun sb' hsb' ↦ ?_
        obtain rfl : sb = sb' := Option.some.inj (hsb.symm.trans hsb')
        rfl
  | setCurrentPosition newPosition =>
      obtain ⟨sb, -, hc⟩ := Option.bind_eq_some_iff.mp hc
      split_ifs at hc
      · cases hc
        rfl
      · cases hc
        rw [if_pos rfl]
        exact settings_eq_map (by rfl) fun _ _ ↦ by rfl
  | restore =>
      have hrestore : b.restore parent false = (hr, b') := Option.some.inj hc
      unfold Buffer.restore at hrestore
      split_ifs at hrestore
      · cases hrestore
        rfl
      · cases hrestore
        rw [if_pos rfl]
        exact settings_eq_map (by rfl) fun _ _ ↦ by rfl
  | call3D c apply =>
      obtain ⟨h3, hc⟩ := Option.ite_none_right_eq_some.mp hc
      exact settings_call3D h3 (Option.some.inj hc)

/-- **A commit** of a 3D buffer. -/
theorem settings_commit (h3 : b.is3D) (parent : Parent) :
    (b.commit parent).settings = b.settings.map .commit := by
  rw [commit_eq]
  refine settings_eq_map (by rfl) fun sb hsb ↦ ?_
  have hflag : hasFlag sb.mFlags Caps.ctrl3D := by
    rw [is3D, hasCaps, hsb] at h3
    exact h3
  have hnone : copyParams .none b.mDeferred = id := funext fun Q ↦ copyParams_none _ Q
  simp only [settingsOn, Settings.commit, if_pos hflag, setParams, writeSource, hnone]

/-- A commit changes no setting of another buffer. -/
theorem map_commit_settings (h3 : b.is3D = false) : b.settings.map .commit = b.settings := by
  refine (settings_eq_map (f := .commit) rfl fun sb hsb ↦ ?_).symm
  have hflag : ¬ hasFlag sb.mFlags Caps.ctrl3D := by
    rw [is3D, hasCaps, hsb] at h3
    exact ne_true_of_eq_false h3
  simp only [settingsOn, Settings.commit, if_neg hflag, id]

/-! ## New buffers -/

/-- **Initializing** a buffer. -/
theorem settings_attach {exts : Extensions} {desc : Option BufferDesc} {memory : Bool}
    {b₁ : Buffer} {dev dev' : DeviceSources} (ha : b.attach exts desc memory = .ok b₁)
    (hc : b₁.initLocation parent dev = some (hr, b', dev')) :
    ∃ sb, b.storage exts desc memory = .ok sb ∧ b'.settings = some { b.settingsOn sb with
      frequency := if b.mFrequency = 0 then sb.mWfxFormat.nSamplesPerSec else b.mFrequency } := by
  obtain ⟨-, sb, hs, rfl⟩ := attach_cases ha
  obtain ⟨-, src, loc, rfl⟩ := initLocation_eq hc
  exact ⟨sb, hs, rfl⟩

/-- Nothing is pending in a buffer without dirty flags. -/
theorem pending_none (P : DS3DBuffer) (flag : Bool) :
    (if flag then copyParams .none P else id) = id := by
  split_ifs
  · exact funext fun Q ↦ copyParams_none P Q
  · rfl

/-- A new buffer. -/
theorem settings_fresh {born : ℕ} {is8 : Bool} {exts : Extensions} {desc : BufferDesc}
    {memory : Bool} {b₁ : Buffer} {dev dev' : DeviceSources}
    (ha : (fresh born is8).attach exts (some desc) memory = .ok b₁)
    (hc : b₁.initLocation parent dev = some (hr, b', dev')) :
    ∃ format, desc.lpwfxFormat = some format ∧
      b'.settings = some (.new desc.dwFlags format.nSamplesPerSec) := by
  obtain ⟨sb, hs, hsettings⟩ := settings_attach ha hc
  obtain hnone | ⟨-, d, format, hd, hformat, hcreate⟩ := storage_cases hs
  · cases hnone
  cases hd
  refine ⟨format, hformat, hsettings.trans (congrArg some ?_)⟩
  rw [← (SharedBuffer.create_ok hcreate).1, ← SharedBuffer.rate_of_create hcreate]
  simp only [settingsOn, Settings.new, fresh, pending_none, if_true]

/-- A duplicate. -/
theorem settings_duplicate {orig : Buffer} (hfreq : orig.mFrequency ≠ 0) {born : ℕ} {is8 : Bool}
    (hdup : Buffer.duplicate born is8 orig = some b) {exts : Extensions}
    {desc : Option BufferDesc} {memory : Bool} {b₁ : Buffer} {dev dev' : DeviceSources}
    (ha : b.attach exts desc memory = .ok b₁)
    (hc : b₁.initLocation parent dev = some (hr, b', dev')) :
    b'.settings = orig.settings.map .duplicate := by
  obtain ⟨sb₀, hsb₀, hdup⟩ := Option.bind_eq_some_iff.mp hdup
  cases hdup
  obtain ⟨sb, hs, hsettings⟩ := settings_attach ha hc
  obtain hsb | ⟨hnone, -⟩ := storage_cases hs
  swap
  · cases hnone
  cases hsb
  rw [hsettings, settings, hsb₀]
  refine congrArg some ?_
  simp only [settingsOn, Settings.duplicate, Settings.new, fresh, pending_none]
  congr 1
  by_cases hflag : hasFlag sb₀.mFlags Caps.ctrlFrequency
  · simp only [if_pos hflag, if_neg hfreq]
    exact (if_pos hflag).symm
  · simp only [if_neg hflag, if_true]
    exact (if_neg hflag).symm

end Buffer

/-! ## The settings of an object -/

/-- The message changes no setting. -/
def Message.Quiet : Message → Prop
  | .commit _ | .call .. => False
  | _ => True

theorem Message.Quiet.sameControls {m : Message} {b b' : Buffer} (hm : m.Quiet)
    (hc : m.Changes b b') : b.SameControls b' := by
  have hremote : m.Remote → b.SameControls b' := fun h ↦
    .of_own (h.sameOwn hc) (h.sameParams (by rintro parent rfl; exact hm) hc)
  cases m with
  | poll | rolloff | lose => exact hremote trivial
  | commit | call => exact hm.elim
  | acquireResources =>
      obtain ⟨hr, dev', hc⟩ := hc
      obtain rfl | hc := Buffer.acquireResources_asks hc
      · exact .refl b'
      · exact Buffer.sameControls_deferredLocation hc
  | play =>
      obtain ⟨hr, dev', notify, hc⟩ := hc
      exact Buffer.sameControls_play hc
  | stop =>
      obtain ⟨sb, src, -, -, rfl⟩ := hc
      exact .of_playback
  | notifies | genSource | mix =>
      cases hc
      exact ⟨⟨rfl, rfl, rfl⟩, rfl, rfl, rfl, rfl⟩

namespace DSound8OAL

variable [Abi] {R : Ptr → Buffer → Buffer → Prop} {s s' : DSound8OAL} {op : Op} {p q : Ptr}
  {b b' : Buffer} {hr : HResult}

/-- The settings of the buffers of an object. -/
def settings (s : DSound8OAL) : SettingsTable := fun p ↦ (s.getBuffer p).bind Buffer.settings

omit [Abi] in
theorem settings_of_getBuffer (hb : s.getBuffer p = some b) : s.settings p = b.settings := by
  unfold settings
  rw [hb]
  rfl

theorem settings_of_moves (hm : Moves R s s') (hR : ∀ q b b', R q b b' → b.SameControls b')
    (hstays : ∀ q b, s.getBuffer q = some b → ∃ b', s'.getBuffer q = some b') :
    s'.settings = s.settings := by
  funext q
  unfold settings
  cases hb : s.getBuffer q with
  | none =>
      cases hb' : s'.getBuffer q with
      | none => rfl
      | some b' =>
          obtain ⟨b, hb₁, -⟩ := hm.buffers q b' hb'
          exact nomatch hb.symm.trans hb₁
  | some b =>
      obtain ⟨b', hb'⟩ := hstays q b hb
      obtain ⟨b₁, hb₁, hreach⟩ := hm.buffers q b' hb'
      obtain rfl : b = b₁ := Option.some.inj (hb.symm.trans hb₁)
      rw [hb']
      exact (Buffer.SameControls.of_reflTransGen (ReflTransGen.mono (hR q) _ _ hreach)).settings

omit [Abi] in
/-- A change of one buffer. -/
theorem settings_update (h : ∀ q, s'.getBuffer q = if q = p then some b else s.getBuffer q) :
    s'.settings = Function.update s.settings p b.settings := by
  funext q
  unfold settings
  rw [h q]
  by_cases hq : q = p
  · rw [if_pos hq, hq, Function.update_self]
    rfl
  · rw [if_neg hq, Function.update_of_ne hq]

/-- **A step without a setter or a commit.** -/
theorem settings_of_quiet (h : s.Ok) (hs : DSoundStep s op s') (hop : op.resizes = false)
    (hquiet : ∀ q m, op.Sends q m → m.Quiet) : s'.settings = s.settings := by
  refine settings_of_moves (hs.moves h hop) (fun q b b' ⟨m, hm, hc⟩ ↦ ?_) fun q b hb ↦ ?_
  · exact (hquiet q m hm).sameControls hc
  · refine hs.stays h ?_ hb
    rintro rfl
    exact nomatch hop

/-! ## Steps -/

/-- A call on a buffer. -/
theorem settles_bufferCall (h : s.Ok) {c : BufferCall} (hc : s.bufferCall p c = some (hr, s')) :
    s'.settings =
      if hr = .ok then Function.update s.settings p ((s.settings p).map (·.call c))
      else s.settings := by
  obtain ⟨b, hb, hc⟩ := Option.bind_eq_some_iff.mp hc
  obtain ⟨⟨hr₁, b'⟩, hcall, hc⟩ := Option.bind_eq_some_iff.mp hc
  cases hc
  rw [settings_update (getBuffer_setBuffer h.pool hb b'), Buffer.settings_of_call hcall,
    ← settings_of_getBuffer hb]
  split_ifs with hok
  · rfl
  · rw [Function.update_eq_self]

/-- A commit. -/
theorem settles_commit (h : s.Ok) (hc : s.commit = some s') :
    s'.settings = fun p ↦ (s.settings p).map .commit := by
  obtain ⟨s₁, hs₁, -, hmaps⟩ := h.commit_maps
  obtain rfl : s₁ = s' := Option.some.inj (hs₁.symm.trans hc)
  funext q
  unfold settings
  rw [hmaps.buffers q]
  cases s.getBuffer q with
  | none => rfl
  | some b =>
      change (Buffer.on3D s.commitBuffer b).settings = b.settings.map .commit
      unfold Buffer.on3D
      split_ifs with h3
      · have hfollow :=
          Buffer.sameControls_follow s.mPrimaryBuffer.mDirty s.mPrimaryBuffer.mDeferred b
        have h3' := (is3D_follow s.mPrimaryBuffer.mDirty s.mPrimaryBuffer.mDeferred b).trans h3
        unfold commitBuffer
        rw [Buffer.settings_commit h3', hfollow.settings]
      · exact (Buffer.map_commit_settings (Bool.eq_false_iff.mpr h3)).symm

/-- `Prop::Set` of an EAX property. -/
theorem settles_eaxSet (h : s.Ok) {immediate accepted : Bool}
    (hc : s.eaxSet p immediate accepted = some (hr, s')) :
    s'.settings = if hr = .ok ∧ immediate then fun q ↦ (s.settings q).map .commit
      else s.settings := by
  obtain ⟨b, hb, hs'⟩ := eaxSet_cases hc
  have hgen : (s.setBuffer p b.genSource).settings = s.settings := by
    have hsame : b.SameControls b.genSource := ⟨⟨rfl, rfl, rfl⟩, rfl, rfl, rfl, rfl⟩
    rw [settings_update (getBuffer_setBuffer h.pool hb _), hsame.settings,
      ← settings_of_getBuffer hb, Function.update_eq_self]
  obtain ⟨-, rfl, rfl⟩ | ⟨-, -, hnot, rfl⟩ | ⟨-, -, himmediate, rfl, hcommit⟩ := hs'
  · rfl
  · rw [if_neg hnot, hgen]
  · have hok := (h.setBuffer hb (h.buffers p b hb).1.genSource).ok
    rw [settles_commit hok hcommit, hgen, if_pos ⟨rfl, himmediate⟩]

/-- Creating a buffer, with settings as `Q` says if it succeeds. -/
theorem settles_initializeNew (h : s.Ok) {mem : Memory} {s₁ : DSound8OAL}
    (hfresh : ∀ base, mem.group = some base → FreshBase base s.mSecondaryBuffers)
    (hcon : s.construct b mem = some (p, s₁)) {desc : Option BufferDesc} {memory : Bool}
    (hc : s₁.initializeNew p desc memory = some (hr, s')) {Q : Settings → Prop}
    (hst : ∀ b₁ b₂ parent dev dev', b.attach s.mExtensions desc memory = .ok b₁ →
      b₁.initLocation parent dev = some (hr, b₂, dev') → ∃ x, b₂.settings = some x ∧ Q x) :
    hr = .ok ∧ (∃ x, Q x ∧ s.settings p = none ∧
        s'.settings = Function.update s.settings p (some x)) ∨
      hr ≠ .ok ∧ s'.settings = s.settings := by
  obtain ⟨hfree, ⟨hok, b₁, b₂, parent, dev, dev', ha, hloc, hget⟩ | ⟨hfail, hget⟩⟩ :=
    getBuffer_initializeNew h.pool hfresh hcon hc
  · obtain ⟨x, hx, hstx⟩ := hst b₁ b₂ parent dev dev' ha hloc
    refine .inl ⟨hok, x, hstx, ?_, hx ▸ settings_update hget⟩
    unfold settings
    rw [hfree]
    rfl
  · refine .inr ⟨hfail, ?_⟩
    unfold settings
    simp only [hget]

/-- `CreateSoundBuffer`. -/
theorem settles_createSoundBuffer (h : s.Ok) {mem : Memory}
    (hfresh : ∀ base, mem.group = some base → FreshBase base s.mSecondaryBuffers)
    {desc : Option BufferDesc} {dsBuffer outer : Bool}
    (hc : s.createSoundBuffer desc dsBuffer outer mem = some (hr, s')) :
    (Op.createSoundBuffer desc dsBuffer outer mem).Settles hr s.settings s'.settings := by
  have hs : DSoundStep s (.createSoundBuffer desc dsBuffer outer mem) s' := ⟨hfresh, hr, hc⟩
  obtain ⟨rfl, hfail, -⟩ | ⟨d, haccepts, ⟨hprimary, hcreate⟩ | ⟨hprimary, -, p, s₁, hcon, hinit⟩⟩ :=
    createSoundBuffer_cases hc
  · exact Op.settles_of_failed hfail (by nofun) (by nofun) _
  · obtain rfl := haccepts.eq
    unfold Op.Settles
    dsimp only
    rw [if_neg fun hand ↦ Bool.false_ne_true (hand.2.symm.trans hprimary)]
    -- The rolloff factor of the primary buffer goes to all buffers.
    have hmoves := (Moves.refl (R := fun _ ↦ Buffer.SameControls) h.pool).createPrimary
      (fun q b rolloffFactor ↦ Message.Quiet.sameControls (m := .rolloff rolloffFactor)
        trivial rfl) hcreate
    exact settings_of_moves hmoves (fun q b b' hsame ↦ hsame) fun q b hb ↦ hs.stays h nofun hb
  · obtain rfl := haccepts.eq
    obtain ⟨hok, x, ⟨format, hformat, rfl⟩, hfree, hS⟩ | ⟨hfail, hS⟩ :=
      settles_initializeNew h hfresh hcon hinit
        (Q := fun x ↦ ∃ format, d.lpwfxFormat = some format ∧
          x = .new d.dwFlags format.nSamplesPerSec)
        (fun b₁ b₂ parent dev dev' ha hloc ↦
          have ⟨format, hformat, hx⟩ := Buffer.settings_fresh ha hloc
          ⟨_, hx, format, hformat, rfl⟩)
    · unfold Op.Settles
      dsimp only
      rw [if_pos ⟨hok, Bool.eq_false_iff.mpr hprimary⟩]
      exact ⟨p, format, hfree, hformat, hS⟩
    · rw [hS]
      exact Op.settles_of_failed hfail (by nofun) (by nofun) _

/-- `DuplicateSoundBuffer`. -/
theorem settles_duplicateSoundBuffer (h : s.Ok) {mem : Memory}
    (hfresh : ∀ base, mem.group = some base → FreshBase base s.mSecondaryBuffers)
    {original : Option Ptr} {duplicate : Bool}
    (hc : s.duplicateSoundBuffer original duplicate mem = some (hr, s')) :
    (Op.duplicateSoundBuffer original duplicate mem).Settles hr s.settings s'.settings := by
  obtain ⟨rfl, hfail, -⟩ | ⟨b, p, s₁, hdups, hcon, hinit⟩ := duplicateSoundBuffer_cases hc
  · exact Op.settles_of_failed hfail (by nofun) (by nofun) _
  obtain ⟨q, orig, sb, rfl, horig, hsb, -, -, hdup⟩ := hdups.original
  have hq : s.settings q = some (orig.settingsOn sb) :=
    (settings_of_getBuffer horig).trans (congrArg (Option.map _) hsb)
  have hfreq : orig.mFrequency ≠ 0 := (h.buffers q orig horig).1.frequency
  obtain ⟨hok, x, hx, hfree, hS⟩ | ⟨hfail, hS⟩ :=
    settles_initializeNew h hfresh hcon hinit (Q := fun x ↦ x = (orig.settingsOn sb).duplicate)
      (fun b₁ b₂ parent dev dev' ha hloc ↦ ⟨_, by
        rw [Buffer.settings_duplicate hfreq hdup ha hloc, Buffer.settings, hsb]
        rfl, rfl⟩)
  · unfold Op.Settles
    dsimp only
    rw [if_pos hok]
    exact ⟨p, _, hfree, hq, hx ▸ hS⟩
  · rw [hS]
    exact Op.settles_of_failed hfail (by nofun) (by nofun) _

/-- **The object refines the machine of settings**, step by step. -/
theorem settles (h : s.Ok) (hlegal : op.Legal s) (hc : s.exec op = some (hr, s')) :
    op.Settles hr s.settings s'.settings := by
  have hs : DSoundStep s op s' := ⟨hlegal, hr, hc⟩
  cases op with
  | createSoundBuffer desc dsBuffer outer mem => exact settles_createSoundBuffer h hlegal hc
  | duplicateSoundBuffer original duplicate mem => exact settles_duplicateSoundBuffer h hlegal hc
  | release p =>
      obtain ⟨b, hb, hc⟩ := Option.bind_eq_some_iff.mp hc
      obtain ⟨s₁, hs₁, hc⟩ := Option.bind_eq_some_iff.mp hc
      cases hc
      funext q
      unfold settings
      rw [getBuffer_dispose h.pool hb hs₁ q]
      by_cases hq : q = p
      · rw [if_pos hq, hq, Function.update_self]
        rfl
      · rw [if_neg hq, Function.update_of_ne hq]
  | buffer p c => exact settles_bufferCall h hc
  | eaxSet p immediate accepted => exact settles_eaxSet h hc
  | commitDeferredSettings =>
      obtain ⟨s₁, hs₁, heq⟩ := Option.map_eq_some_iff.mp hc
      cases heq
      exact settles_commit h hs₁
  | initializeObject | bufferInitialize | otherSources =>
      exact settings_of_quiet h hs rfl fun q m hm ↦ hm.elim
  | setCooperativeLevel | poll =>
      refine settings_of_quiet h hs rfl fun q m hm ↦ ?_
      cases hm
      trivial
  | acquireResources | play =>
      refine settings_of_quiet h hs rfl fun q m hm ↦ ?_
      obtain ⟨-, parent, dev, rfl⟩ := hm
      trivial
  | stop p =>
      refine settings_of_quiet h hs rfl fun q m hm ↦ ?_
      obtain rfl | ⟨-, rfl⟩ := hm
      all_goals trivial
  | setNotificationPositions =>
      refine settings_of_quiet h hs rfl fun q m hm ↦ ?_
      obtain rfl | ⟨-, newNots, rfl⟩ := hm
      all_goals trivial
  | listener =>
      refine settings_of_quiet h hs rfl fun q m hm ↦ ?_
      obtain ⟨rolloffFactor, rfl⟩ := hm
      trivial
  | primary c =>
      refine settings_of_quiet h hs rfl fun q m hm ↦ ?_
      cases c with
      | initializePrimary =>
          obtain ⟨rolloffFactor, rfl⟩ := hm
          trivial
      | _ => exact hm.elim
  | mix p =>
      refine settings_of_quiet h hs rfl fun q m hm ↦ ?_
      cases p with
      | none => exact hm.elim
      | some p =>
          obtain ⟨-, rfl⟩ := hm
          trivial

end DSound8OAL

/-! ## Runs -/

/-- An operation and what it returns. -/
abbrev Answer := Op × HResult

/-- One step, with what it returns. -/
def Answers [Abi] (s : DSound8OAL) (i : Answer) (s' : DSound8OAL) : Prop :=
  i.1.Legal s ∧ s.exec i.1 = some (i.2, s')

/-- One step of the machine of settings. -/
def SettingsStep (S : SettingsTable) (i : Answer) (S' : SettingsTable) : Prop :=
  i.1.Settles i.2 S S'

/-- What an operation does to the settings of the buffer at `p`. -/
def Settings.after (p : Ptr) (st : Settings) (i : Answer) : Settings :=
  match i.1 with
  | .buffer q c => if i.2 = .ok ∧ q = p then st.call c else st
  | .eaxSet _ immediate _ => if i.2 = .ok ∧ immediate then st.commit else st
  | .commitDeferredSettings => st.commit
  | _ => st

/-- What a setting is read as that needs the flag `caps`. -/
def Settings.control {α : Type} (st : Settings) (caps : UInt32) (value : α) : Except HResult α :=
  if hasFlag st.flags caps then .ok value else .error .controlUnavail

/-- What is read of the buffer is in the settings. -/
structure Buffer.Reads (b : Buffer) (st : Settings) : Prop where
  volume : b.getVolume true = some (st.control Caps.ctrlVolume st.volume)
  pan : b.getPan true = some (st.control Caps.ctrlPan st.pan)
  frequency : b.getFrequency true = some (st.control Caps.ctrlFrequency st.frequency)
  param : ∀ {α : Type} (value : DS3DBuffer → α), b.param true value = .ok (value st.params)
  allParameters : ∀ dwSize, sizeofDS3DBuffer ≤ dwSize →
    b.getAllParameters (some dwSize) = .ok { st.params with dwSize := dwSize }

/-- What is read of a buffer with the storage `sb`. -/
theorem Buffer.reads_settingsOn {b : Buffer} {sb : SharedBuffer} (hsb : b.mBuffer = some sb) :
    b.Reads (b.settingsOn sb) := by
  have hcontrol : ∀ {α : Type} (caps : UInt32) (value : α),
      b.control true caps value = some ((b.settingsOn sb).control caps value) := by
    intro α caps value
    have hread : b.control true caps value =
        some (if !hasFlag sb.mFlags caps then .error .controlUnavail else .ok value) := by
      rw [control, hsb]
      rfl
    rw [hread, Settings.control, settingsOn]
    cases hasFlag sb.mFlags caps <;> rfl
  refine ⟨hcontrol _ _, hcontrol _ _, hcontrol _ _, fun value ↦ rfl, fun dwSize hsize ↦ ?_⟩
  exact if_neg (UInt32.not_lt.mpr hsize)

namespace DSound8OAL

variable [Abi] {s s' : DSound8OAL} {p : Ptr} {b : Buffer} {st : Settings}

/-- A buffer of an object has settings. -/
theorem settings_getBuffer (h : s.Ok) (hb : s.getBuffer p = some b) :
    ∃ sb, b.mBuffer = some sb ∧ s.settings p = some (b.settingsOn sb) := by
  obtain ⟨sb, hsb, -⟩ := (h.buffers p b hb).1.storage
  exact ⟨sb, hsb, (settings_of_getBuffer hb).trans (congrArg (Option.map _) hsb)⟩

/-- What has settings is a buffer, and they are what is read of it. -/
theorem reads_of_settings (h : s.Ok) (hp : s.settings p = some st) :
    ∃ b, s.getBuffer p = some b ∧ b.Reads st := by
  obtain ⟨b, hb, -⟩ := Option.bind_eq_some_iff.mp hp
  obtain ⟨sb, hsb, hst⟩ := settings_getBuffer h hb
  obtain rfl : st = b.settingsOn sb := Option.some.inj (hp.symm.trans hst)
  exact ⟨b, hb, Buffer.reads_settingsOn hsb⟩

omit [Abi] in
/-- A new buffer is another one. -/
theorem update_new {S : SettingsTable} {q : Ptr} (hfree : S q = none) (hp : S p = some st)
    (x : Option Settings) : Function.update S q x p = some st := by
  have hne : p ≠ q := by
    rintro rfl
    exact nomatch hp.symm.trans hfree
  rw [Function.update_of_ne hne, hp]

omit [Abi] in
/-- **The settings of one buffer** after a step of the machine. -/
theorem settings_after {S S' : SettingsTable} {i : Answer} (h : SettingsStep S i S')
    (hi : i.1 ≠ .release p) (hp : S p = some st) : S' p = some (st.after p i) := by
  obtain ⟨op, hr⟩ := i
  have hsame : S' = S → S' p = some st := fun heq ↦ heq ▸ hp
  cases op with
  | createSoundBuffer desc dsBuffer outer mem =>
      cases desc with
      | none => exact hsame h
      | some desc =>
          unfold SettingsStep Op.Settles at h
          dsimp only at h
          split_ifs at h
          · obtain ⟨q, format, hfree, -, rfl⟩ := h
            exact update_new hfree hp _
          · exact hsame h
  | duplicateSoundBuffer original duplicate mem =>
      cases original with
      | none => exact hsame h
      | some q =>
          unfold SettingsStep Op.Settles at h
          dsimp only at h
          split_ifs at h
          · obtain ⟨q', st', hfree, -, rfl⟩ := h
            exact update_new hfree hp _
          · exact hsame h
  | release q =>
      obtain rfl : S' = Function.update S q none := h
      have hne : p ≠ q := by
        rintro rfl
        exact hi rfl
      rw [Function.update_of_ne hne]
      exact hp
  | buffer q c =>
      unfold SettingsStep Op.Settles at h
      dsimp only at h
      subst h
      unfold Settings.after
      dsimp only
      by_cases hok : hr = .ok
      · rw [if_pos hok]
        by_cases hq : q = p
        · rw [if_pos ⟨hok, hq⟩, hq, Function.update_self, hp]
          rfl
        · rw [if_neg fun hand ↦ hq hand.2, Function.update_of_ne (Ne.symm hq), hp]
      · rw [if_neg hok, if_neg fun hand ↦ hok hand.1, hp]
  | eaxSet q immediate accepted =>
      unfold SettingsStep Op.Settles at h
      dsimp only at h
      subst h
      unfold Settings.after
      dsimp only
      split_ifs
      · exact congrArg (Option.map _) hp
      · exact hp
  | commitDeferredSettings =>
      obtain rfl : S' = fun q ↦ (S q).map .commit := h
      exact congrArg (Option.map _) hp
  | _ => exact hsame h

/-- **Run lemma**: the settings of a buffer that is not released follow the operations. -/
theorem settings_of_run {is : List Answer} (h : Reachable DSoundStep IsNew s)
    (hrun : Run Answers s is s') (hkept : ∀ i ∈ is, i.1 ≠ .release p)
    (hp : s.settings p = some st) :
    Reachable DSoundStep IsNew s' ∧ s'.settings p = some (is.foldl (Settings.after p) st) := by
  refine hrun.follows (R := fun t x ↦ Reachable DSoundStep IsNew t ∧ t.settings p = some x)
    (C := fun i ↦ i.1 ≠ .release p) ?_ hkept ⟨h, hp⟩
  rintro t i t' x ⟨ht, hx⟩ hi ⟨hlegal, hc⟩
  exact ⟨ht.step ⟨hlegal, _, hc⟩, settings_after (settles (ok_of_reachable ht) hlegal hc) hi hx⟩

end DSound8OAL

open DSound8OAL

/-- **The object refines the machine of settings.**  What can be set of the buffers of an object
is in each run a state of the machine, which makes the step of each operation.  A buffer is read
as the machine has its settings; and in a run that does not release it, these follow the
operations. -/
theorem settings_refined [Abi] {s : DSound8OAL} (h : Reachable DSoundStep IsNew s) :
    Reachable SettingsStep (· = fun _ ↦ none) s.settings ∧
    (∀ i s', Answers s i s' → SettingsStep s.settings i s'.settings) ∧
    ∀ p b, s.getBuffer p = some b → ∃ st, s.settings p = some st ∧ b.Reads st ∧
      ∀ is s', Run Answers s is s' → (∀ i ∈ is, i.1 ≠ .release p) →
        ∃ b', s'.getBuffer p = some b' ∧ b'.Reads (is.foldl (Settings.after p) st) := by
  refine ⟨?_, fun i s' hs ↦ settles (ok_of_reachable h) hs.1 hs.2, fun p b hb ↦ ?_⟩
  · refine h.invariant_of (P := fun s ↦ Reachable SettingsStep _ s.settings)
      (fun t ht ↦ ok_of_reachable ht) ?_ ?_
    · rintro t ⟨is8, rfl⟩
      exact .init rfl
    · rintro t op t' hok ht ⟨hlegal, hr, hc⟩
      exact ht.step (i := (op, hr)) (settles hok hlegal hc)
  · obtain ⟨sb, hsb, hst⟩ := settings_getBuffer (ok_of_reachable h) hb
    refine ⟨_, hst, Buffer.reads_settingsOn hsb, fun is s' hrun hkept ↦ ?_⟩
    obtain ⟨h', hst'⟩ := settings_of_run h hrun hkept hst
    exact reads_of_settings (ok_of_reachable h') hst'

set_option maxRecDepth 4000 in
/-- A buffer whose volume is set. -/
theorem settings_refined_one : letI : Abi := ⟨⟨600, by decide⟩⟩
    ∃ (s s' : DSound8OAL) (st : Settings) (b' : Buffer), Reachable DSoundStep IsNew s ∧
      Reachable SettingsStep (· = fun _ ↦ none) s.settings ∧ s.settings ⟨4096, 0⟩ = some st ∧
      s'.getBuffer ⟨4096, 0⟩ = some b' ∧ b'.Reads (st.call (.setVolume (-600))) := by
  let _ : Abi := ⟨⟨600, by decide⟩⟩
  have h0 : Reachable DSoundStep IsNew (DSound8OAL.new true) := .init ⟨true, rfl⟩
  have h1 := h0.step (i := initializeOne) ⟨initializeOne_legal true, _, rfl⟩
  have h2 := h1.step (i := createMono Caps.ctrlVolume) ⟨createMono_legal _ _, _, rfl⟩
  obtain ⟨hmachine, -, hreads⟩ := settings_refined h2
  obtain ⟨st, hst, -, hruns⟩ := hreads ⟨4096, 0⟩ _ rfl
  obtain ⟨b', hb', hb'st⟩ := hruns [(.buffer ⟨4096, 0⟩ (.setVolume (-600)), .ok)] _
    (.cons ⟨trivial, rfl⟩ (.nil _)) (by
      rintro i hi
      obtain rfl := List.mem_singleton.mp hi
      nofun)
  exact ⟨_, _, st, b', h2, hmachine, hst, hb', hb'st⟩

end Dsoal
