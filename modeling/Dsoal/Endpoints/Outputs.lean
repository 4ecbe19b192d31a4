import Dsoal.Core.PropSet
import Dsoal.Endpoints.Enumeration

/-!
# Outputs after a success

`GetDeviceID` and `DSPROPERTY_DescriptionW` return what `GetValue` returned when they do not
get a string.  That is a success code if the value is of another type, and then they have
stored nothing.  `DSound8OAL::Initialize`, `DSPROPERTY_DescriptionA` and
`DSPROPERTY_Description1` go on with what was there before (`outputs_written_iff`).
-/

universe u

namespace Dsoal

/-! ## `GetDeviceID` -/

/-- All calls for a default endpoint succeed, and its identifier is no string. -/
def EndpointQuery.NoString (q : EndpointQuery) : Prop :=
  q.coCreateInstance = .ok ∧ q.getDefaultAudioEndpoint = .ok ∧ q.openPropertyStore = .ok ∧
    q.getValue = .ok ∧ q.value = none

/-- The identifier of the default device that is asked for is no string. -/
def NoStringId (sys : DefaultEndpoints) (guidSrc : Guid) : Prop :=
  ∃ flow role, defaultRole guidSrc = some (flow, role) ∧ (sys flow role).NoString

/-- After a success there is the same identifier in `guidDst`, whatever was there before. -/
def WritesId (sys : DefaultEndpoints) (guidSrc : Guid) : Prop :=
  ∀ guidDst, (getDeviceID sys guidSrc guidDst).1 = .ok →
    ∃ id, ∀ guidDst, (getDeviceID sys guidSrc guidDst).2 = id

variable {sys : DefaultEndpoints} {guidSrc guidDst : Guid}

theorem getDeviceID_of_noStringId (h : NoStringId sys guidSrc) (guidDst : Guid) :
    getDeviceID sys guidSrc guidDst = (.ok, guidDst) := by
  obtain ⟨flow, role, hrole, h1, h2, h3, h4, h5⟩ := h
  simp [getDeviceID, hrole, h1, h2, h3, h4, h5]

/-- What is returned does not depend on what is in `guidDst`. -/
theorem getDeviceID_status (sys : DefaultEndpoints) (guidSrc guidDst guidDst' : Guid) :
    (getDeviceID sys guidSrc guidDst).1 = (getDeviceID sys guidSrc guidDst').1 := by
  unfold getDeviceID
  cases defaultRole guidSrc with
  | none => rfl
  | some r =>
      dsimp only
      split_ifs <;> try rfl
      cases (sys r.1 r.2).value <;> rfl

/-- After a success the identifier does not depend on it either. -/
theorem getDeviceID_ok (h : ¬ NoStringId sys guidSrc)
    (hok : (getDeviceID sys guidSrc guidDst).1 = .ok) (guidDst' : Guid) :
    getDeviceID sys guidSrc guidDst' = getDeviceID sys guidSrc guidDst := by
  unfold getDeviceID at hok ⊢
  cases hrole : defaultRole guidSrc with
  | none => rfl
  | some r =>
      simp only [hrole] at hok ⊢
      by_cases h1 : (sys r.1 r.2).coCreateInstance = .ok
      · by_cases h2 : (sys r.1 r.2).getDefaultAudioEndpoint = .ok
        · by_cases h3 : (sys r.1 r.2).openPropertyStore = .ok
          · by_cases h4 : (sys r.1 r.2).getValue = .ok
            · cases hvalue : (sys r.1 r.2).value with
              | none => exact absurd ⟨r.1, r.2, hrole, h1, h2, h3, h4, hvalue⟩ h
              | some id => simp [h1, h2, h3, h4]
            · simp [h1, h2, h3, h4] at hok
          · simp [h1, h2, h3] at hok
        · simp [h1, h2] at hok
      · simp [h1] at hok

theorem writesId_iff : WritesId sys guidSrc ↔ ¬ NoStringId sys guidSrc := by
  constructor
  · intro hwrites hno
    obtain ⟨id, hid⟩ := hwrites .null (by rw [getDeviceID_of_noStringId hno])
    have hsame : Guid.null = Guid.defaultPlayback := by
      calc
        Guid.null = id := by simpa [getDeviceID_of_noStringId hno] using hid .null
        _ = Guid.defaultPlayback := by
          simpa [getDeviceID_of_noStringId hno] using (hid .defaultPlayback).symm
    exact absurd hsame (by decide)
  · intro hno guidDst hok
    exact ⟨_, fun guidDst' ↦ congrArg Prod.snd (getDeviceID_ok hno hok guidDst')⟩

/-! ## `DSound8OAL::Initialize` -/

/-- `DSound8OAL::Initialize`, with the value of its variable `devid` when it calls
`GetDeviceID`. -/
def DSound8OAL.initializeFrom (s : DSound8OAL) (devid : Guid) (deviceId : Option Guid)
    (env : DeviceEnv) : HResult × DSound8OAL :=
  if s.mShared.isSome then (.alreadyInitialized, s)
  else
    match chooseDevice .defaultPlayback .defaultCapture .defaultVoiceCapture deviceId with
    | none => (.noDriver, s)
    | some deviceId =>
      let (hr, devid) := getDeviceID env.sys deviceId devid
      if hr.failed then (hr, s) else s.initializeObject (env.getById devid) env.allocs

theorem initializeDevice_eq (s : DSound8OAL) (deviceId : Option Guid) (env : DeviceEnv) :
    s.initializeDevice deviceId env = s.initializeFrom .null deviceId env := rfl

/-- Whatever there is to find, the call does not use what its variable held. -/
def UsesWrittenId (s : DSound8OAL) (sys : DefaultEndpoints) (deviceId : Option Guid)
    (allocs : List (Option ℕ × Bool)) : Prop :=
  ∀ getById devid, s.initializeFrom devid deviceId ⟨sys, getById, allocs⟩ =
    s.initializeDevice deviceId ⟨sys, getById, allocs⟩

/-- The call asks for a default device whose identifier is no string. -/
def InitializesNoString (s : DSound8OAL) (sys : DefaultEndpoints) (deviceId : Option Guid) :
    Prop :=
  s.mShared = none ∧ ∃ id,
    chooseDevice .defaultPlayback .defaultCapture .defaultVoiceCapture deviceId = some id ∧
    NoStringId sys id

theorem usesWrittenId_iff {s : DSound8OAL} {deviceId : Option Guid}
    {allocs : List (Option ℕ × Bool)} :
    UsesWrittenId s sys deviceId allocs ↔ ¬ InitializesNoString s sys deviceId := by
  constructor
  · rintro huses ⟨hshared, id, hid, hno⟩
    have hrun : ∀ devid getById, s.initializeFrom devid deviceId ⟨sys, getById, allocs⟩ =
        s.initializeObject (getById devid) allocs := by
      intro devid getById
      simp [DSound8OAL.initializeFrom, hshared, hid, getDeviceID_of_noStringId hno]
    have hsame := huses (fun id ↦ .error (if id = .null then .fail else .generic)) .defaultPlayback
    rw [initializeDevice_eq, hrun, hrun] at hsame
    simp [DSound8OAL.initializeObject, hshared, Guid.null, Guid.defaultPlayback,
      Guid.defaultDevice] at hsame
  · intro hno getById devid
    rw [initializeDevice_eq]
    unfold DSound8OAL.initializeFrom
    split_ifs with hshared
    · rfl
    · cases hid : chooseDevice .defaultPlayback .defaultCapture .defaultVoiceCapture deviceId with
      | none => rfl
      | some id =>
          have hid' : ¬ NoStringId sys id := fun h ↦
            hno ⟨by simpa using hshared, id, hid, h⟩
          have hstatus := getDeviceID_status sys id devid .null
          dsimp only
          by_cases hok : (getDeviceID sys id .null).1 = .ok
          · rw [getDeviceID_ok hid' hok devid]
          · rw [if_pos (by simpa [hstatus] using hok), if_pos (by simpa using hok), hstatus]

/-! ## `DSPROPERTY_DescriptionW` -/

section

variable [WinStrings]

/-- The value of the name of the device that is described, if it is available, and the
identifier that is asked for. -/
def DescriptionEnv.nameValue (env : DescriptionEnv) (deviceId : Guid) (dataFlow : UInt32) :
    Option (Guid × PropVariant) := do
  let deviceId ← describedDevice deviceId dataFlow
  let device ← lookupDevice env deviceId
  let ps ← (env.openPropertyStore device).toOption
  let pv ← ps.friendlyName.toOption
  some (deviceId, pv)

/-- The value is available, but there are no strings for `Description` and `Module`: it is of
another type, or there is no memory for them. -/
def DescriptionEnv.LacksNames (env : DescriptionEnv) (deviceId : Guid) (dataFlow : UInt32) :
    Prop :=
  ∃ id pv, env.nameValue deviceId dataFlow = some (id, pv) ∧
    (pv.pwszVal = none ∨ env.wcsdup.1 = false ∨ env.wcsdup.2.1 = false)

/-- The same for `Description`, `Module` and `Interface`. -/
def DescriptionEnv.LacksStrings (env : DescriptionEnv) (deviceId : Guid) (dataFlow : UInt32) :
    Prop :=
  ∃ id pv, env.nameValue deviceId dataFlow = some (id, pv) ∧
    (pv.pwszVal = none ∨ env.wcsdup.1 = false ∨ env.wcsdup.2.1 = false ∨
      env.wcsdup.2.2 = false)

variable [PropAbi] {env : DescriptionEnv} {ppd : Description WString} {id : Guid}
  {pv : PropVariant} {cbPropData : UInt32}

/-- After a success `Description`, `Module` and `Interface` are not null, whatever they were
before. -/
def WritesStrings (env : DescriptionEnv) (deviceId : Guid) (dataFlow : UInt32)
    (cbPropData : UInt32) : Prop :=
  ∀ ppd : Description WString, ppd.deviceId = deviceId → ppd.dataFlow = dataFlow →
    (descriptionW env (some ppd) cbPropData).hr = .ok →
    ∃ data description moduleName interfaceName,
      (descriptionW env (some ppd) cbPropData).data = some data ∧
      data.description = some description ∧ data.moduleName = some moduleName ∧
      data.interfaceName = some interfaceName

/-- What is stored for a value. -/
def nameStored (env : DescriptionEnv) (ppd : Description WString) (id : Guid) :
    PropVariant → PropResult (Description WString)
  | .lpwstr name => ⟨.ok, some { ppd with
      deviceId := id
      type := typeWdm
      description := wcsdup name env.wcsdup.1
      moduleName := wcsdup aldriverName env.wcsdup.2.1
      interfaceName := wcsdup interfaceW env.wcsdup.2.2 }, some PropAbi.sizeofDescription⟩
  | _ => ⟨.ok, some { ppd with deviceId := id }, none⟩

theorem descriptionW_of_nameValue (hsize : PropAbi.sizeofDescription ≤ cbPropData)
    (h : env.nameValue ppd.deviceId ppd.dataFlow = some (id, pv)) :
    descriptionW env (some ppd) cbPropData = nameStored env ppd id pv := by
  obtain ⟨id', hid, h⟩ := Option.bind_eq_some_iff.mp h
  obtain ⟨device, hdevice, h⟩ := Option.bind_eq_some_iff.mp h
  obtain ⟨ps, hps, h⟩ := Option.bind_eq_some_iff.mp h
  obtain ⟨pv', hpv, h⟩ := Option.bind_eq_some_iff.mp h
  obtain ⟨rfl, rfl⟩ : id' = id ∧ pv' = pv := by simpa using h
  cases hopen : env.openPropertyStore device with
  | error hr => rw [hopen] at hps; cases hps
  | ok store =>
      rw [hopen] at hps
      cases hps
      cases hname : ps.friendlyName with
      | error hr => rw [hname] at hpv; cases hpv
      | ok value =>
          rw [hname] at hpv
          cases hpv
          simp only [descriptionW, if_neg (UInt32.not_lt.mpr hsize), hid, hdevice, hopen, hname]
          cases pv' <;> rfl

/-- Without the value the function fails. -/
theorem descriptionW_failed
    (h : PropAbi.sizeofDescription ≤ cbPropData →
      env.nameValue ppd.deviceId ppd.dataFlow = none) :
    (descriptionW env (some ppd) cbPropData).hr.failed = true := by
  rw [descriptionW]
  by_cases hsize : PropAbi.sizeofDescription ≤ cbPropData
  · have hnone := h hsize
    simp only [if_neg (UInt32.not_lt.mpr hsize)]
    cases hid : describedDevice ppd.deviceId ppd.dataFlow with
    | none => rfl
    | some id =>
        cases hdevice : lookupDevice env id with
        | none =>
            simp only [hdevice]
            rfl
        | some device =>
            cases hopen : env.openPropertyStore device with
            | error hr => simpa only [hdevice, hopen] using hr.2
            | ok ps =>
                cases hname : ps.friendlyName with
                | error hr => simpa only [hdevice, hopen, hname] using hr.2
                | ok pv =>
                    have hvalue : env.nameValue ppd.deviceId ppd.dataFlow = some (id, pv) := by
                      simp [DescriptionEnv.nameValue, hid, hdevice, hopen, hname,
                        Except.toOption]
                    rw [hnone] at hvalue
                    cases hvalue
  · rw [if_pos (UInt32.not_le.mp hsize)]
    rfl

/-- What holds of a success holds of what is stored for the value of the name. -/
theorem descriptionW_ok_iff (P : PropResult (Description WString) → Prop) :
    ((descriptionW env (some ppd) cbPropData).hr = .ok →
      P (descriptionW env (some ppd) cbPropData)) ↔
    ∀ id pv, PropAbi.sizeofDescription ≤ cbPropData →
      env.nameValue ppd.deviceId ppd.dataFlow = some (id, pv) → P (nameStored env ppd id pv) := by
  constructor
  · intro hP id pv hsize hvalue
    rw [descriptionW_of_nameValue hsize hvalue] at hP
    exact hP (by cases pv <;> rfl)
  · intro hP hok
    by_cases hvalue : ∃ v, PropAbi.sizeofDescription ≤ cbPropData ∧
        env.nameValue ppd.deviceId ppd.dataFlow = some v
    · obtain ⟨⟨id, pv⟩, hsize, hvalue⟩ := hvalue
      rw [descriptionW_of_nameValue hsize hvalue]
      exact hP id pv hsize hvalue
    · have hnone : PropAbi.sizeofDescription ≤ cbPropData →
          env.nameValue ppd.deviceId ppd.dataFlow = none := fun hsize ↦
        Option.eq_none_iff_forall_ne_some.mpr fun v hv ↦ hvalue ⟨v, hsize, hv⟩
      exact absurd hok (HResult.failed_eq_true.mp (descriptionW_failed hnone))

/-- `Description` and `Module` are there. -/
def HasNames (r : PropResult (Description WString)) : Prop :=
  ∃ data description moduleName, r.data = some data ∧ data.description = some description ∧
    data.moduleName = some moduleName

/-- `Interface` is there too. -/
def HasStrings (r : PropResult (Description WString)) : Prop :=
  ∃ data description moduleName interfaceName, r.data = some data ∧
    data.description = some description ∧ data.moduleName = some moduleName ∧
    data.interfaceName = some interfaceName

omit [WinStrings] in
/-- What was null before is there if it is stored. -/
theorem nameStored_hasStrings_iff (hnull : pv.pwszVal = none → ppd.description = none) :
    HasStrings (nameStored env ppd id pv) ↔
      ¬ (pv.pwszVal = none ∨ env.wcsdup.1 = false ∨ env.wcsdup.2.1 = false ∨
        env.wcsdup.2.2 = false) := by
  cases pv with
  | lpwstr name => simp [HasStrings, nameStored, wcsdup, PropVariant.pwszVal]
  | ui4 _ | uint _ | other => simp [HasStrings, nameStored, hnull rfl, PropVariant.pwszVal]

omit [WinStrings] in
theorem nameStored_hasNames_iff (hnull : pv.pwszVal = none → ppd.description = none) :
    HasNames (nameStored env ppd id pv) ↔
      ¬ (pv.pwszVal = none ∨ env.wcsdup.1 = false ∨ env.wcsdup.2.1 = false) := by
  cases pv with
  | lpwstr name => simp [HasNames, nameStored, wcsdup, PropVariant.pwszVal]
  | ui4 _ | uint _ | other => simp [HasNames, nameStored, hnull rfl, PropVariant.pwszVal]

theorem writesStrings_iff {deviceId : Guid} {dataFlow : UInt32} :
    WritesStrings env deviceId dataFlow cbPropData ↔
      ¬ (PropAbi.sizeofDescription ≤ cbPropData ∧ env.LacksStrings deviceId dataFlow) := by
  constructor
  · rintro hwrites ⟨hsize, id, pv, hvalue, hlacks⟩
    have hstored := (descriptionW_ok_iff HasStrings).mp
      (hwrites { deviceId := deviceId, dataFlow := dataFlow } rfl rfl) id pv hsize hvalue
    exact (nameStored_hasStrings_iff fun _ ↦ rfl).mp hstored hlacks
  · rintro hlacks ppd rfl rfl
    refine (descriptionW_ok_iff HasStrings).mpr fun id pv hsize hvalue ↦ ?_
    have hhas : ¬ (pv.pwszVal = none ∨ env.wcsdup.1 = false ∨ env.wcsdup.2.1 = false ∨
        env.wcsdup.2.2 = false) := fun h ↦ hlacks ⟨hsize, id, pv, hvalue, h⟩
    exact (nameStored_hasStrings_iff fun hno ↦ absurd (.inl hno) hhas).mpr hhas

/-! ## `DSPROPERTY_DescriptionA` and `DSPROPERTY_Description1` -/

section

variable {deviceId : Guid} {dataFlow : UInt32}

/-- After a success the two strings that both functions read are there. -/
theorem describe_hasNames_iff :
    ((describe env deviceId dataFlow).hr = .ok → HasNames (describe env deviceId dataFlow)) ↔
    ¬ env.LacksNames deviceId dataFlow := by
  refine (descriptionW_ok_iff HasNames).trans ⟨?_, ?_⟩
  · rintro hstored ⟨id, pv, hvalue, hlacks⟩
    exact (nameStored_hasNames_iff fun _ ↦ rfl).mp (hstored id pv (UInt32.le_refl _) hvalue) hlacks
  · intro hlacks id pv _ hvalue
    exact (nameStored_hasNames_iff fun _ ↦ rfl).mpr fun h ↦ hlacks ⟨id, pv, hvalue, h⟩

theorem describe_data : (describe env deviceId dataFlow).hr = .ok →
    ∃ data, (describe env deviceId dataFlow).data = some data :=
  (descriptionW_ok_iff fun r ↦ ∃ data, r.data = some data).mpr fun _ pv _ _ ↦ by
    cases pv <;> exact ⟨_, rfl⟩

/-- Both functions convert the description after a success, and read `Description` and
`Module` then. -/
theorem convert_isSome_iff {β : Type u} {convert : Description WString → Option β}
    {failure : HResult → β}
    (hconvert : ∀ data, (convert data).isSome ↔ ∃ description moduleName,
      data.description = some description ∧ data.moduleName = some moduleName) :
    (match (describe env deviceId dataFlow).hr, (describe env deviceId dataFlow).data with
      | .ok, some data => convert data
      | hr, _ => some (failure hr) : Option β).isSome ↔ ¬ env.LacksNames deviceId dataFlow := by
  rw [← describe_hasNames_iff]
  by_cases hok : (describe env deviceId dataFlow).hr = .ok
  · obtain ⟨data, hdata⟩ := describe_data hok
    simp only [hok, hdata, hconvert, HasNames, true_imp_iff, Option.some.injEq, ↓existsAndEq,
      true_and]
  · simp only [hok, false_imp_iff, iff_true]
    split
    · exact absurd ‹_› hok
    · rfl

end

omit [PropAbi] in
theorem descWtoA_isSome_iff {dataW : Description WString} (dataA : Description (List UInt8))
    (malloc : Bool × Bool) :
    (descWtoA dataW dataA malloc).isSome ↔
      ∃ description moduleName, dataW.description = some description ∧
        dataW.moduleName = some moduleName := by
  unfold descWtoA
  cases dataW.description <;> cases dataW.moduleName <;>
    cases malloc.1 && malloc.2 <;> simp

omit [PropAbi] in
theorem descWto1_isSome_iff {dataW : Description WString} :
    (descWto1 dataW).isSome ↔
      ∃ description moduleName, dataW.description = some description ∧
        dataW.moduleName = some moduleName := by
  unfold descWto1
  cases dataW.description <;> cases dataW.moduleName <;> simp

theorem descriptionA_isSome_iff {malloc : Bool × Bool} {ppd : Description (List UInt8)} :
    (descriptionA env malloc (some ppd) cbPropData).isSome ↔
      ¬ (PropAbi.sizeofDescription ≤ cbPropData ∧ env.LacksNames ppd.deviceId ppd.dataFlow) := by
  rw [not_and, descriptionA]
  by_cases hsize : PropAbi.sizeofDescription ≤ cbPropData
  · simp only [if_neg (UInt32.not_lt.mpr hsize), hsize, true_imp_iff]
    refine convert_isSome_iff fun data ↦ ?_
    rw [← descWtoA_isSome_iff ppd malloc]
    cases descWtoA data ppd malloc <;> rfl
  · simp [if_pos (UInt32.not_le.mp hsize), hsize]

theorem description1_isSome_iff {ppd : Description1} :
    (description1 env (some ppd) cbPropData).isSome ↔
      ¬ (sizeofDescription1 ≤ cbPropData ∧ env.LacksNames ppd.deviceId ppd.dataFlow) := by
  rw [not_and, description1]
  by_cases hsize : sizeofDescription1 ≤ cbPropData
  · simp only [if_neg (UInt32.not_lt.mpr hsize), hsize, true_imp_iff]
    refine convert_isSome_iff fun data ↦ ?_
    rw [← descWto1_isSome_iff]
    cases descWto1 data <;> rfl
  · simp [if_pos (UInt32.not_le.mp hsize), hsize]

/-! ## All of them -/

/-- **Outputs after a success** are stored, and what the callers use is stored, exactly if the
values they are read from are strings and there is memory for the copies. -/
theorem outputs_written_iff (sys : DefaultEndpoints) (guidSrc : Guid) (env : DescriptionEnv)
    (deviceId : Guid) (dataFlow cbPropData : UInt32) (s : DSound8OAL) (initId : Option Guid)
    (allocs : List (Option ℕ × Bool)) (malloc : Bool × Bool)
    (ppdA : Description (List UInt8)) (ppd1 : Description1) :
    (WritesId sys guidSrc ↔ ¬ NoStringId sys guidSrc) ∧
    (WritesStrings env deviceId dataFlow cbPropData ↔
      ¬ (PropAbi.sizeofDescription ≤ cbPropData ∧ env.LacksStrings deviceId dataFlow)) ∧
    (UsesWrittenId s sys initId allocs ↔ ¬ InitializesNoString s sys initId) ∧
    ((descriptionA env malloc (some ppdA) cbPropData).isSome ↔
      ¬ (PropAbi.sizeofDescription ≤ cbPropData ∧
        env.LacksNames ppdA.deviceId ppdA.dataFlow)) ∧
    ((description1 env (some ppd1) cbPropData).isSome ↔
      ¬ (sizeofDescription1 ≤ cbPropData ∧ env.LacksNames ppd1.deviceId ppd1.dataFlow)) :=
  ⟨writesId_iff, writesStrings_iff, usesWrittenId_iff, descriptionA_isSome_iff,
    description1_isSome_iff⟩

end

section

local instance outputsStrings : WinStrings := plainStrings

local instance outputsPropAbi : PropAbi := win32

/-- The identifier of the default device is no string, and neither is the name of the only
device. -/
theorem outputs_not_written :
    getDeviceID (fun _ _ ↦ {}) .defaultPlayback .null = (.ok, .null) ∧
    ¬ WritesId (fun _ _ ↦ {}) .defaultPlayback ∧
    descriptionW (sampleSystem .other).descriptionEnv (some { deviceId := ⟨1, 2, 3, 4⟩ }) 40 =
      ⟨.ok, some { deviceId := ⟨1, 2, 3, 4⟩ }, none⟩ ∧
    description1 (sampleSystem .other).descriptionEnv
        (some ⟨⟨1, 2, 3, 4⟩, [], [], [], [], 0, 0, 0, 0⟩) 1580 = none := by
  refine ⟨rfl, fun h ↦ writesId_iff.mp h ?_, rfl, rfl⟩
  exact ⟨.render, .multimedia, rfl, rfl, rfl, rfl, rfl, rfl⟩

end

end Dsoal
