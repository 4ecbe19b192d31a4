import Dsoal.Core.DeviceShare
import Dsoal.Endpoints.Enumeration

/-!
# Opening a device that is not there

`CreateDeviceShare` gives `GetSpeakerConfig` the device that `GetMMDevice` has found, without a
look at whether there is one.  Where it finds one, `DSound8OAL::Initialize` succeeds or
leaves everything as it was (`initializeOpen_safe_iff`).
-/

namespace Dsoal

section

variable [WinStrings] {env : ShareEnv} {guid : Guid} {al al' : AlHandles} {hr : HResult}
  {sDeviceList sDeviceList' : List DeviceShare}

/-! ## What a failure undoes -/

omit [WinStrings] in
/-- A device and a context that are opened and closed again leave no trace. -/
theorem undone_eq (al : AlHandles) (device context : ℕ) :
    (((al.openDevice device).createContext context).destroyContext context).closeDevice device =
      al := by
  simp [AlHandles.openDevice, AlHandles.createContext, AlHandles.destroyContext,
    AlHandles.closeDevice]

theorem createDeviceShare_none (h : getMMDevice env.sys .render guid = none) :
    createDeviceShare env guid al = none := by
  simp only [createDeviceShare, h, getSpeakerConfig]

omit [WinStrings] in
theorem getSpeakerConfig_some (device : MMDevice)
    (openPropertyStore : MMDevice → Except Failure PropertyStore) :
    ∃ config, getSpeakerConfig (some device) openPropertyStore = some config := by
  cases hopen : openPropertyStore device with
  | error hr => exact ⟨none, by simp [getSpeakerConfig, hopen]⟩
  | ok ps => exact ⟨some ps.speakerConfig, by simp [getSpeakerConfig, hopen]⟩

/-- With a device to ask, the function fails and closes what it has opened, or succeeds. -/
theorem createDeviceShare_cases {device : MMDevice}
    (h : getMMDevice env.sys .render guid = some device) :
    (∃ hr, hr.failed = true ∧ createDeviceShare env guid al = some (.error hr, al)) ∨
    ∃ share al', createDeviceShare env guid al = some (.ok share, al') := by
  obtain ⟨config, hconfig⟩ := getSpeakerConfig_some device env.openPropertyStore
  simp only [createDeviceShare, h, hconfig]
  cases env.drvName with
  | false => exact .inl ⟨.outOfMemory, rfl, rfl⟩
  | true =>
      cases env.alcOpenDevice with
      | none => exact .inl ⟨.noDriver, rfl, rfl⟩
      | some aldev =>
          cases env.alcCreateContext with
          | none =>
              refine .inl ⟨.noDriver, rfl, ?_⟩
              simp [AlHandles.openDevice, AlHandles.closeDevice]
          | some alctx =>
              cases env.staticBuffer with
              | false =>
                  refine .inl ⟨.noDriver, rfl, ?_⟩
                  simp [undone_eq]
              | true =>
                  simp only [Bool.not_true, Bool.false_eq_true, if_false]
                  cases DeviceSources.create (
                      (if env.numMono < 0 then 0 else env.numMono).toUInt32 +
                      (if env.numStereo < 0 then 0 else env.numStereo).toUInt32) with
                  | none =>
                      refine .inl ⟨.outOfMemory, rfl, ?_⟩
                      simp [undone_eq]
                  | some sources => exact .inr ⟨_, _, rfl⟩

omit [WinStrings] in
/-- A device of the list is found. -/
theorem addRefById_eq_none_iff :
    addRefById guid sDeviceList = none ↔ ∀ share ∈ sDeviceList, share.mId ≠ guid := by
  induction sDeviceList with
  | nil => exact iff_of_true rfl nofun
  | cons share sDeviceList ih =>
      rw [addRefById, List.forall_mem_cons]
      by_cases hid : share.mId = guid
      · simp [hid]
      · simp [hid, ih]

/-- `GetById` calls a method through a null pointer. -/
def AsksNoDevice (env : ShareEnv) (guid : Guid) (sDeviceList : List DeviceShare) : Prop :=
  (∀ share ∈ sDeviceList, share.mId ≠ guid) ∧ getMMDevice env.sys .render guid = none

theorem sharedGetById_none (h : AsksNoDevice env guid sDeviceList) :
    sharedGetById env guid sDeviceList al = none := by
  rw [sharedGetById, addRefById_eq_none_iff.mpr h.1, createDeviceShare_none h.2]

theorem sharedGetById_cases (h : ¬ AsksNoDevice env guid sDeviceList) (al : AlHandles) :
    (∃ hr, hr.failed = true ∧
      sharedGetById env guid sDeviceList al = some (.error hr, sDeviceList, al)) ∨
    ∃ share sDeviceList' al',
      sharedGetById env guid sDeviceList al = some (.ok share, sDeviceList', al') := by
  unfold sharedGetById
  cases hfind : addRefById guid sDeviceList with
  | some r => exact .inr ⟨_, _, _, rfl⟩
  | none =>
      cases hdevice : getMMDevice env.sys .render guid with
      | none => exact absurd ⟨addRefById_eq_none_iff.mp hfind, hdevice⟩ h
      | some device =>
          rcases createDeviceShare_cases hdevice with ⟨hr, hfailed, hcreate⟩ | ⟨share, al', hcreate⟩
          · exact .inl ⟨hr, hfailed, by rw [hcreate]⟩
          · exact .inr ⟨_, _, _, by rw [hcreate]⟩

end

/-! ## The call -/

section

variable [WinStrings]

/-- The call returns, and if it returns a failure then nothing has changed. -/
def SafeOpen (s : OpenState) (deviceId : Option Guid) (env : OpenEnv) : Prop :=
  ∃ hr s', initializeOpen s deviceId env = some (hr, s') ∧ (hr.failed = true → s' = s)

/-- The call opens a device that is not shared yet, and whose identifier is that of no active
render endpoint `GetMMDevice` can find. -/
def OpensNoDevice (s : OpenState) (deviceId : Option Guid) (env : OpenEnv) : Prop :=
  s.object.mShared = none ∧ ∃ id devid,
    chooseDevice .defaultPlayback .defaultCapture .defaultVoiceCapture deviceId = some id ∧
    getDeviceID env.endpoints id .null = (.ok, devid) ∧
    AsksNoDevice env.share devid s.sDeviceList

/-- **`Initialize` is safe** exactly if there is a device to ask. -/
theorem initializeOpen_safe_iff (s : OpenState) (deviceId : Option Guid) (env : OpenEnv) :
    SafeOpen s deviceId env ↔ ¬ OpensNoDevice s deviceId env := by
  constructor
  · rintro ⟨hr, s', hrun, -⟩ ⟨hshared, id, devid, hid, hdevid, hasks⟩
    simp [initializeOpen, hshared, hid, hdevid, sharedGetById_none hasks] at hrun
  · intro hopens
    unfold SafeOpen initializeOpen
    cases hshared : s.object.mShared with
    | some dev => exact ⟨_, _, rfl, fun _ ↦ rfl⟩
    | none =>
        cases hid : chooseDevice .defaultPlayback .defaultCapture .defaultVoiceCapture
            deviceId with
        | none => exact ⟨_, _, rfl, fun _ ↦ rfl⟩
        | some id =>
            rcases hdevid : getDeviceID env.endpoints id .null with ⟨hr, devid⟩
            by_cases hok : hr = .ok
            · subst hok
              have hasks : ¬ AsksNoDevice env.share devid s.sDeviceList := fun h ↦
                hopens ⟨hshared, id, devid, hid, hdevid, h⟩
              rcases sharedGetById_cases hasks s.al with ⟨hr, -, hget⟩ | ⟨share, list, al, hget⟩
              · exact ⟨hr, s, by simp [hdevid, hget], fun _ ↦ rfl⟩
              · simp only [hdevid, hget]
                exact ⟨_, _, rfl, fun hfailed ↦ absurd hfailed Bool.false_ne_true⟩
            · exact ⟨hr, s, by simp [hdevid, hok], fun _ ↦ rfl⟩

/-! ## The object -/

/-- What the object sees of `GetById`. -/
def OpenEnv.device (env : OpenEnv) (s : OpenState) : DeviceEnv where
  sys := env.endpoints
  getById devid :=
    match sharedGetById env.share devid s.sDeviceList s.al with
    | none => .error .generic
    | some (r, _) => r.map fun share ↦ (share.sources, share.mExtensions)
  allocs := env.allocs

/-- The object is initialized as `initializeDevice` says. -/
theorem initializeOpen_object {s s' : OpenState} {deviceId : Option Guid} {env : OpenEnv}
    {hr : HResult} (h : initializeOpen s deviceId env = some (hr, s')) :
    s.object.initializeDevice deviceId (env.device s) = (hr, s'.object) := by
  unfold initializeOpen at h
  unfold DSound8OAL.initializeDevice
  split_ifs at h ⊢ with hshared
  · obtain ⟨rfl, rfl⟩ := by simpa using h
    rfl
  · cases hid : chooseDevice .defaultPlayback .defaultCapture .defaultVoiceCapture deviceId with
    | none =>
        obtain ⟨rfl, rfl⟩ := by simpa [hid] using h
        rfl
    | some id =>
        rcases hdevid : getDeviceID env.endpoints id .null with ⟨hr', devid⟩
        have hdevid' : getDeviceID (env.device s).sys id .null = (hr', devid) := hdevid
        simp only [hid, hdevid] at h
        simp only [hdevid']
        split_ifs at h ⊢ with hfailed
        · obtain ⟨rfl, rfl⟩ := by simpa using h
          rfl
        · rcases hget : sharedGetById env.share devid s.sDeviceList s.al with
            _ | ⟨hr'' | share, list, al⟩
          · simp [hget] at h
          · simp only [hget, Option.some.injEq, Prod.mk.injEq] at h
            obtain ⟨rfl, rfl⟩ := h
            simp [DSound8OAL.initializeObject, OpenEnv.device, hget, hshared, Except.map]
          · simp only [hget, Option.some.injEq, Prod.mk.injEq] at h
            obtain ⟨rfl, rfl⟩ := h
            simp [DSound8OAL.initializeObject, OpenEnv.device, hget, hshared, Except.map]

end

section

local instance openingStrings : WinStrings := plainStrings

/-- There is one device, and OpenAL can open what it is asked to. -/
def sampleOpen : OpenEnv where
  share := {
    sys := sampleSystem (.lpwstr (wide "Speakers"))
    openPropertyStore := MMDevice.openPropertyStore
    drvName := true
    alcOpenDevice := some 1
    alcCreateContext := some 2
    extensions := {}
    staticBuffer := true
    numMono := 256 }
  endpoints := MMSystem.query (sampleSystem (.lpwstr (wide "Speakers")))
  allocs := []

/-- An identifier that is not that of the device. -/
theorem initializeOpen_unknown :
    initializeOpen { object := .new true } (some ⟨9, 9, 9, 9⟩) sampleOpen = none ∧
    ¬ SafeOpen { object := .new true } (some ⟨9, 9, 9, 9⟩) sampleOpen := by
  have hnone : initializeOpen { object := .new true } (some ⟨9, 9, 9, 9⟩) sampleOpen = none := rfl
  refine ⟨hnone, ?_⟩
  rintro ⟨hr, s', hrun, -⟩
  rw [hnone] at hrun
  cases hrun

end

end Dsoal
