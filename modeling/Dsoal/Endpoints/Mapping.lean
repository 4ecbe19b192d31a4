import Dsoal.Core.PropSet
import Dsoal.Endpoints.Enumeration

/-!
# The device for a name

`DSPROPERTY_WaveDeviceMappingW` stops the enumeration at the first endpoint that has the name.
But the enumeration starts with the primary sound driver, which has a name and no identifier:
`find_target` then reads through the null pointer.  Without that it finds the device
(`waveDeviceMapping_maps_iff`).
-/

universe u

open Visit

namespace Dsoal

section

variable [WinStrings]

/-- The name of an endpoint is a given one. -/
def Endpoint.hasName (name : WString) (p : Endpoint) : Bool :=
  p.name.any fun devname ↦ WinStrings.lstrcmpW devname name

/-- The first endpoint with a name. -/
def MMSystem.deviceFor (sys : MMSystem) (flow : DataFlow) (name : WString) : Option Guid :=
  ((sys.endpoints flow).find? (Endpoint.hasName name)).map Endpoint.id

/-- There is an endpoint whose name is no string, before the first that has the name. -/
def MisnamedBefore (name : WString) : List Endpoint → Prop
  | [] => False
  | p :: ps => p.Misnamed ∨ p.hasName name = false ∧ MisnamedBefore name ps

variable [PropAbi] {χ : Type u}

/-- A call for a name stores the identifier of the first endpoint with it, and fails if there
is none. -/
def MapsName (sys : MMSystem) (flow : DataFlow) (name : WString) (ppd : WaveDeviceMapping χ)
    (r : Option (PropResult (WaveDeviceMapping χ) × DeviceLists)) : Prop :=
  match sys.deviceFor flow name with
  | some id => ∃ lists, r = some (⟨.ok, some { ppd with deviceId := id },
      some PropAbi.sizeofWaveDeviceMapping⟩, lists)
  | none => ∃ lists, r = some (⟨.invalidParam, some ppd, none⟩, lists)

end

/-! ## The calls of `find_target` -/

section

variable [WinStrings] {ppd : WaveDeviceMapping WString} {name : WString} {p : Endpoint}
  {ps : List Endpoint} {c : EnumCall}

/-- What `find_target` leaves after its last call. -/
def targetFound (ppd : WaveDeviceMapping WString) : Option Guid → Bool × WaveDeviceMapping WString
  | some id => (false, { ppd with deviceId := id })
  | none => (true, ppd)

theorem findTarget_misnamed (h : p.Misnamed) (hc : p.call = some c) : findTarget ppd c = none := by
  rw [h.call] at hc
  cases hc
  rfl

theorem findTarget_call (hname : ppd.deviceName = some name) (h : ¬ p.Misnamed)
    (hc : p.call = some c) :
    findTarget ppd c = some (targetFound ppd (if p.hasName name then some p.id else none)) := by
  rw [Endpoint.call_eq_namedCall h] at hc
  obtain ⟨devname, hdevname, rfl⟩ := Endpoint.devname_of_namedCall hc
  cases hequal : WinStrings.lstrcmpW devname name with
  | false =>
      simp [findTarget, equalName, hname, hequal, Endpoint.hasName, hdevname, targetFound]
  | true =>
      simp [findTarget, equalName, hname, hequal, Endpoint.hasName, hdevname, targetFound]

/-- An endpoint without a call has no name. -/
theorem hasName_of_call_none (h : p.call = none) : p.hasName name = false := by
  obtain ⟨id, _ | pv⟩ := p
  · rfl
  · cases h

omit [WinStrings] in
theorem not_misnamed_of_call_none (h : p.call = none) : ¬ p.Misnamed := fun hp ↦ by
  rw [hp.call] at h
  cases h

theorem visit_findTarget_none (hname : ppd.deviceName = some name) (h : MisnamedBefore name ps) :
    visit findTarget ppd (ps.filterMap Endpoint.call) = none := by
  induction ps with
  | nil => exact absurd h id
  | cons p ps ih =>
      cases hc : p.call with
      | none =>
          rw [List.filterMap_cons_none hc]
          rcases h with h | ⟨-, h⟩
          · exact absurd h (not_misnamed_of_call_none hc)
          · exact ih h
      | some c =>
          rw [List.filterMap_cons_some hc, visit_cons]
          by_cases hp : p.Misnamed
          · rw [findTarget_misnamed hp hc]
            rfl
          · obtain ⟨hno, h⟩ := h.resolve_left hp
            rw [findTarget_call hname hp hc, hno]
            exact ih h

theorem visit_findTarget (hname : ppd.deviceName = some name) (h : ¬ MisnamedBefore name ps) :
    visit findTarget ppd (ps.filterMap Endpoint.call) =
      some (targetFound ppd ((ps.find? (Endpoint.hasName name)).map Endpoint.id)) := by
  induction ps with
  | nil => rfl
  | cons p ps ih =>
      obtain ⟨hp, h⟩ := not_or.mp h
      cases hc : p.call with
      | none =>
          have hno : p.hasName name = false := hasName_of_call_none hc
          rw [List.filterMap_cons_none hc, List.find?_cons_of_neg (by simp [hno])]
          exact ih fun hps ↦ h ⟨hno, hps⟩
      | some c =>
          rw [List.filterMap_cons_some hc, visit_cons, findTarget_call hname hp hc]
          cases hno : p.hasName name with
          | false =>
              rw [List.find?_cons_of_neg (by simp [hno])]
              exact ih fun hps ↦ h ⟨hno, hps⟩
          | true => rw [List.find?_cons_of_pos hno]; rfl

end

/-! ## The result -/

variable {sys : MMSystem} {flow : DataFlow} {lists : DeviceLists} {name : WString}
  {deviceId : Guid} {cbPropData : UInt32}

theorem requestedFlow_value (flow : DataFlow) : requestedFlow flow.value = some flow := by
  cases flow <;> rfl

theorem emptyResult_ne_stopped : sys.emptyResult ≠ .stopped := by
  cases sys <;> exact nofun

section

variable [WinStrings]

/-- The calls that are made only read names, and stop at no call but one for a device. -/
structure MMSystem.CallsSound (sys : MMSystem) (flow : DataFlow) (name : WString) : Prop where
  notPrimary : sys.items flow ≠ [] → WinStrings.lstrcmpW primaryDescName name = false
  named : ¬ MisnamedBefore name (sys.endpoints flow)

theorem endpoints_of_no_items (h : sys.items flow = []) : sys.endpoints flow = [] := by
  rw [MMSystem.endpoints, h]

/-- The call for the primary sound driver goes on unless its name is looked for. -/
theorem findTarget_primaryEntry :
    findTarget ⟨flow.value, some name, deviceId⟩ primaryEntry =
      if WinStrings.lstrcmpW primaryDescName name then none
      else some (true, ⟨flow.value, some name, deviceId⟩) := by
  cases hprimary : WinStrings.lstrcmpW primaryDescName name <;>
    simp [findTarget, primaryEntry, equalName, hprimary]

theorem enumerateMmdev_findTarget_none (h : ¬ sys.CallsSound flow name) (devlist : List Guid) :
    enumerateMmdev sys flow devlist findTarget ⟨flow.value, some name, deviceId⟩ =
      none := by
  by_cases hitems : sys.items flow = []
  · refine absurd ⟨fun hne ↦ absurd hitems hne, ?_⟩ h
    rw [endpoints_of_no_items hitems]
    exact id
  · rw [enumerateMmdev_visits hitems, visit_cons, findTarget_primaryEntry]
    cases hprimary : WinStrings.lstrcmpW primaryDescName name with
    | true => rfl
    | false =>
        have hmisnamed : MisnamedBefore name (sys.endpoints flow) := by
          by_contra hnamed
          exact h ⟨fun _ ↦ hprimary, hnamed⟩
        rw [if_neg Bool.false_ne_true, Option.bind_some, resume_true,
          visit_findTarget_none rfl hmisnamed]
        rfl

theorem enumerateMmdev_findTarget (h : sys.CallsSound flow name) (devlist : List Guid)
    (deviceId : Guid) :
    ∃ res ids,
      enumerateMmdev sys flow devlist findTarget ⟨flow.value, some name, deviceId⟩ =
        some (res, ids,
          (targetFound ⟨flow.value, some name, deviceId⟩ (sys.deviceFor flow name)).2) ∧
      (res = .stopped ↔ (sys.deviceFor flow name).isSome) := by
  by_cases hitems : sys.items flow = []
  · have hfor : sys.deviceFor flow name = none := by
      rw [MMSystem.deviceFor, endpoints_of_no_items hitems]
      rfl
    rw [hfor, enumerateMmdev_of_no_items hitems]
    exact ⟨_, _, rfl, by simp [emptyResult_ne_stopped]⟩
  · rw [enumerateMmdev_visits hitems, visit_cons, findTarget_primaryEntry, h.notPrimary hitems,
      if_neg Bool.false_ne_true, Option.bind_some, resume_true, visit_findTarget rfl h.named]
    refine ⟨_, _, rfl, ?_⟩
    change EnumResult.ofVisit (targetFound _ (sys.deviceFor flow name)).1 = .stopped ↔ _
    cases sys.deviceFor flow name <;> simp [targetFound, EnumResult.ofVisit]

variable [PropAbi]

theorem waveDeviceMappingW_none (hsize : PropAbi.sizeofWaveDeviceMapping ≤ cbPropData)
    (h : ¬ sys.CallsSound flow name) :
    waveDeviceMappingW sys lists (some ⟨flow.value, some name, deviceId⟩) cbPropData = none := by
  rw [waveDeviceMappingW, if_neg (UInt32.not_lt.mpr hsize)]
  simp only [requestedFlow_value, enumerateMmdev_findTarget_none h]
  rfl

theorem waveDeviceMappingW_maps (hsize : PropAbi.sizeofWaveDeviceMapping ≤ cbPropData)
    (h : sys.CallsSound flow name) :
    MapsName sys flow name ⟨flow.value, some name, deviceId⟩
      (waveDeviceMappingW sys lists (some ⟨flow.value, some name, deviceId⟩) cbPropData) := by
  obtain ⟨res, ids, henum, hres⟩ := enumerateMmdev_findTarget h (lists.get flow) deviceId
  rw [waveDeviceMappingW, if_neg (UInt32.not_lt.mpr hsize), MapsName]
  simp only [requestedFlow_value, henum, Option.bind_eq_bind, Option.bind_some]
  cases hfor : sys.deviceFor flow name with
  | none =>
      have hgo : res ≠ .stopped := by simpa [hfor] using hres
      exact ⟨_, if_pos hgo⟩
  | some id =>
      have hstopped : res = .stopped := by simpa [hfor] using hres
      exact ⟨_, if_neg (not_not_intro hstopped)⟩

/-- The result for a name of bytes is that for the name it is converted to. -/
theorem waveDeviceMappingA_eq (nameA : List UInt8)
    (hsize : PropAbi.sizeofWaveDeviceMapping ≤ cbPropData) :
    waveDeviceMappingA sys lists (some ⟨flow.value, some nameA, deviceId⟩) cbPropData =
      (waveDeviceMappingW sys lists
        (some ⟨flow.value, some (WinStrings.multiByteToWideChar nameA), .null⟩) cbPropData).bind
        fun (r, lists) ↦
          match r.hr, r.data with
          | .ok, some data =>
            some (⟨.ok, some ⟨flow.value, some nameA, data.deviceId⟩,
              some PropAbi.sizeofWaveDeviceMapping⟩, lists)
          | hr, _ => some (⟨hr, some ⟨flow.value, some nameA, deviceId⟩, none⟩, lists) := by
  rw [waveDeviceMappingA, if_neg (UInt32.not_lt.mpr hsize)]
  rfl

theorem waveDeviceMappingA_maps (nameA : List UInt8)
    (hsize : PropAbi.sizeofWaveDeviceMapping ≤ cbPropData)
    (h : sys.CallsSound flow (WinStrings.multiByteToWideChar nameA)) :
    MapsName sys flow (WinStrings.multiByteToWideChar nameA) ⟨flow.value, some nameA, deviceId⟩
      (waveDeviceMappingA sys lists (some ⟨flow.value, some nameA, deviceId⟩) cbPropData) := by
  have hW : MapsName sys flow (WinStrings.multiByteToWideChar nameA)
      ⟨flow.value, some (WinStrings.multiByteToWideChar nameA), .null⟩
      (waveDeviceMappingW sys lists _ cbPropData) := waveDeviceMappingW_maps hsize h
  rw [waveDeviceMappingA_eq nameA hsize]
  unfold MapsName at hW ⊢
  cases hfor : sys.deviceFor flow (WinStrings.multiByteToWideChar nameA) with
  | none =>
      simp only [hfor] at hW
      obtain ⟨lists', hW⟩ := hW
      exact ⟨lists', by rw [hW]; rfl⟩
  | some id =>
      simp only [hfor] at hW
      obtain ⟨lists', hW⟩ := hW
      exact ⟨lists', by rw [hW]; rfl⟩

theorem not_mapsName_none {χ : Type u} {ppd : WaveDeviceMapping χ} :
    ¬ MapsName sys flow name ppd none := by
  unfold MapsName
  split <;> exact nofun

/-- **The device for a name** is found by both functions, exactly if the calls that are made
only read names and the name is not that of the primary sound driver. -/
theorem waveDeviceMapping_maps_iff (sys : MMSystem) (lists : DeviceLists) (flow : DataFlow)
    (name : WString) (nameA : List UInt8) (deviceId : Guid) (cbPropData : UInt32)
    (hsize : PropAbi.sizeofWaveDeviceMapping ≤ cbPropData) :
    (MapsName sys flow name ⟨flow.value, some name, deviceId⟩
        (waveDeviceMappingW sys lists (some ⟨flow.value, some name, deviceId⟩) cbPropData) ↔
      sys.CallsSound flow name) ∧
    (MapsName sys flow (WinStrings.multiByteToWideChar nameA)
        ⟨flow.value, some nameA, deviceId⟩
        (waveDeviceMappingA sys lists (some ⟨flow.value, some nameA, deviceId⟩) cbPropData) ↔
      sys.CallsSound flow (WinStrings.multiByteToWideChar nameA)) := by
  refine ⟨⟨fun hmaps ↦ ?_, waveDeviceMappingW_maps hsize⟩,
    ⟨fun hmaps ↦ ?_, waveDeviceMappingA_maps nameA hsize⟩⟩
  · by_contra h
    rw [waveDeviceMappingW_none hsize h] at hmaps
    exact not_mapsName_none hmaps
  · by_contra h
    rw [waveDeviceMappingA_eq nameA hsize, waveDeviceMappingW_none hsize h] at hmaps
    exact not_mapsName_none hmaps

end

section

local instance mappingStrings : WinStrings := plainStrings

local instance mappingPropAbi : PropAbi := win32

/-- The device for the name of the primary sound driver is asked for. -/
theorem waveDeviceMapping_primary :
    waveDeviceMappingW (sampleSystem (.lpwstr (wide "Speakers"))) {}
        (some ⟨DataFlow.render.value, some primaryDescName, .null⟩) 24 = none ∧
    ¬ MapsName (sampleSystem (.lpwstr (wide "Speakers"))) .render primaryDescName
        ⟨DataFlow.render.value, some primaryDescName, .null⟩
        (waveDeviceMappingW (sampleSystem (.lpwstr (wide "Speakers"))) {}
          (some ⟨DataFlow.render.value, some primaryDescName, .null⟩) 24) := by
  have hnone : waveDeviceMappingW (sampleSystem (.lpwstr (wide "Speakers"))) {}
      (some ⟨DataFlow.render.value, some primaryDescName, .null⟩) 24 = none := by
    refine waveDeviceMappingW_none (by decide) fun h ↦ ?_
    exact absurd (h.notPrimary (List.cons_ne_nil _ _)) (by decide)
  exact ⟨hnone, by rw [hnone]; exact not_mapsName_none⟩

theorem waveDeviceMapping_maps_iff_speakers :
    (MapsName (sampleSystem (.lpwstr (wide "Speakers"))) .render (wide "Speakers")
        ⟨DataFlow.render.value, some (wide "Speakers"), .null⟩
        (waveDeviceMappingW (sampleSystem (.lpwstr (wide "Speakers"))) {}
          (some ⟨DataFlow.render.value, some (wide "Speakers"), .null⟩) 24) ↔
      (sampleSystem (.lpwstr (wide "Speakers"))).CallsSound .render (wide "Speakers")) ∧
    (MapsName (sampleSystem (.lpwstr (wide "Speakers"))) .render
        (WinStrings.multiByteToWideChar (narrow "Speakers"))
        ⟨DataFlow.render.value, some (narrow "Speakers"), .null⟩
        (waveDeviceMappingA (sampleSystem (.lpwstr (wide "Speakers"))) {}
          (some ⟨DataFlow.render.value, some (narrow "Speakers"), .null⟩) 24) ↔
      (sampleSystem (.lpwstr (wide "Speakers"))).CallsSound .render
        (WinStrings.multiByteToWideChar (narrow "Speakers"))) :=
  waveDeviceMapping_maps_iff _ _ _ _ _ _ _ (by decide)

end

end Dsoal
