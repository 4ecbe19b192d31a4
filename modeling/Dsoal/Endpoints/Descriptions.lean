import Dsoal.Core.PropSet
import Dsoal.Endpoints.Enumeration

/-!
# The descriptions of all devices

`DSPROPERTY_EnumerateW` passes the descriptions of the render endpoints to its callback, and
then those of the capture endpoints, until it is stopped (`enumerateW_delivers`).  But it does
not store the identifiers it is given in the descriptions: they all have `GUID_NULL`, and none
can be asked for again (`enumerateW_enumerates_iff`).
-/

universe u

open Visit

namespace Dsoal

variable {σ : Type u}

namespace Endpoint

/-- The description that is passed to the callback for an endpoint with a name. -/
def delivered (flow : DataFlow) (p : Endpoint) : Option (Description WString) :=
  p.name.map fun devname ↦ {
    type := typeWdm
    dataFlow := flow.value
    description := some devname
    moduleName := some aldriverName
    interfaceName := some interfaceW }

/-- The description of an endpoint with a name. -/
def described (flow : DataFlow) (p : Endpoint) : Option (Description WString) :=
  (p.delivered flow).map fun data ↦ { data with deviceId := p.id }

end Endpoint

section

variable [WinStrings]

/-- The descriptions of the endpoints that have identifiers, first those of the render
endpoints. -/
def MMSystem.descriptions (sys : MMSystem) : List (Description WString) :=
  ((sys.endpoints .render).filter (·.id ≠ .null)).filterMap (Endpoint.described .render) ++
    ((sys.endpoints .capture).filter (·.id ≠ .null)).filterMap (Endpoint.described .capture)

/-- What `DSPROPERTY_EnumerateW` is for: the calls are those for the descriptions of all
devices, and `DSPROPERTY_DescriptionW` knows each by its identifier. -/
structure MMSystem.DescribesDevices [PropAbi] (sys : MMSystem)
    (calls : List (Description WString × Bool)) : Prop where
  cut : Cut sys.descriptions calls
  known : ∀ c ∈ calls, ∃ data, (describe sys.descriptionEnv c.1.deviceId c.1.dataFlow).hr = .ok ∧
    (describe sys.descriptionEnv c.1.deviceId c.1.dataFlow).data = some data ∧
    data.description = c.1.description

end

/-! ## The calls of one flow -/

variable {flow : DataFlow} {callback : σ → Description WString → Bool × σ} {s t : σ}
  {p : Endpoint} {ps : List Endpoint} {log log' : List (Description WString × Bool)}
  {keepGoing : Bool} {c : EnumCall}

theorem enumDevice_misnamed {cb : σ → Description WString → Bool × σ} (h : p.Misnamed)
    (hc : p.call = some c) : enumDevice flow cb s c = none := by
  rw [h.call] at hc
  cases hc
  rfl

theorem enumDevice_call {cb : σ → Description WString → Bool × σ} (h : ¬ p.Misnamed)
    (hc : p.call = some c) :
    ∃ data, p.delivered flow = some data ∧ enumDevice flow cb s c = some (cb s data) := by
  rw [Endpoint.call_eq_namedCall h] at hc
  obtain ⟨devname, hname, rfl⟩ := Endpoint.devname_of_namedCall hc
  exact ⟨_, by rw [Endpoint.delivered, hname, Option.map_some], rfl⟩

theorem delivered_of_call_none (h : p.call = none) : p.delivered flow = none := by
  obtain ⟨id, _ | pv⟩ := p
  · rfl
  · cases h

/-- What a visit of the endpoints of one flow adds to the record. -/
structure Delivers (flow : DataFlow) (ps : List Endpoint) (keepGoing : Bool)
    (calls : List (Description WString × Bool)) : Prop where
  cut : Cut (ps.filterMap (Endpoint.delivered flow)) calls
  stopped : keepGoing = false ↔ ∃ c ∈ calls, c.2 = false
  silent : calls = [] → ∀ p ∈ ps, p.call = none

theorem visit_enumDevice
    (h : visit (enumDevice flow (recorded callback)) (log, s) (ps.filterMap Endpoint.call) =
      some (keepGoing, log', t)) :
    ∃ calls, log' = log ++ calls ∧ Delivers flow ps keepGoing calls := by
  induction ps generalizing log s with
  | nil =>
      obtain ⟨rfl, rfl, rfl⟩ : true = keepGoing ∧ log = log' ∧ s = t := by
        simpa [visit] using h
      exact ⟨[], (List.append_nil _).symm, .nil, by simp, fun _ ↦ List.forall_mem_nil _⟩
  | cons p ps ih =>
      cases hc : p.call with
      | none =>
          rw [List.filterMap_cons_none hc] at h
          obtain ⟨calls, hlog, hcut, hstop, hsilent⟩ := ih h
          refine ⟨calls, hlog, ?_, hstop, fun hnil ↦ ?_⟩
          · rwa [List.filterMap_cons_none (delivered_of_call_none hc)]
          · exact List.forall_mem_cons.mpr ⟨hc, hsilent hnil⟩
      | some c =>
          rw [List.filterMap_cons_some hc, visit_cons] at h
          by_cases hp : p.Misnamed
          · rw [enumDevice_misnamed hp hc] at h
            cases h
          · obtain ⟨data, hdata, hcall⟩ := enumDevice_call hp hc
            rw [hcall, Option.bind_some] at h
            have hplan : (p :: ps).filterMap (Endpoint.delivered flow) =
                data :: ps.filterMap (Endpoint.delivered flow) := List.filterMap_cons_some hdata
            rcases hcb : callback s data with ⟨_ | _, u⟩
            · obtain ⟨rfl, rfl, rfl⟩ :
                  false = keepGoing ∧ log ++ [(data, false)] = log' ∧ u = t := by
                simpa [recorded, hcb] using h
              exact ⟨[(data, false)], rfl, hplan ▸ .stop data _, by simp, fun hnil ↦ by cases hnil⟩
            · have hrest : visit (enumDevice flow (recorded callback)) (log ++ [(data, true)], u)
                  (ps.filterMap Endpoint.call) = some (keepGoing, log', t) := by
                simpa [recorded, hcb] using h
              obtain ⟨calls, rfl, hcut, hstop, -⟩ := ih hrest
              refine ⟨(data, true) :: calls, by simp, hplan ▸ hcut.cons data, by simp [hstop], ?_⟩
              exact fun hnil ↦ by cases hnil

/-! ## The enumeration of one flow -/

section

variable [WinStrings] {sys : MMSystem} {devlist ids : List Guid} {res : EnumResult}

theorem enumerateMmdev_delivers
    (h : enumerateMmdev sys flow devlist (enumDevice flow (recorded callback)) (log, s) =
      some (res, ids, log', t)) :
    ∃ keepGoing calls, log' = log ++ calls ∧ Delivers flow (sys.endpoints flow) keepGoing calls ∧
      (res = .ok → keepGoing = true) ∧
      (res ≠ .ok → keepGoing = false ∨ ∀ flow, sys.endpoints flow = []) := by
  by_cases hitems : sys.items flow = []
  · rw [enumerateMmdev_of_no_items hitems] at h
    obtain ⟨rfl, -, rfl, -⟩ : sys.emptyResult = res ∧ _ ∧ log = log' ∧ _ := by simpa using h
    have hno : sys.endpoints flow = [] := by rw [MMSystem.endpoints, hitems]
    refine ⟨true, [], (List.append_nil _).symm, ?_, fun _ ↦ rfl, fun hres ↦ .inr ?_⟩
    · rw [hno]
      exact ⟨.nil, by simp, fun _ ↦ List.forall_mem_nil _⟩
    · cases sys with
      | error hr => exact fun _ ↦ rfl
      | ok devenum => exact absurd rfl hres
  · rw [enumerateMmdev_visits hitems, visit_cons] at h
    obtain ⟨⟨keepGoing, log'', t'⟩, hvisit, hr⟩ := Option.map_eq_some_iff.mp h
    obtain ⟨rfl, -, rfl, rfl⟩ : EnumResult.ofVisit keepGoing = res ∧ _ ∧ log'' = log' ∧ t' = t := by
      simpa using hr
    obtain ⟨calls, hlog, hdelivers⟩ := visit_enumDevice hvisit
    refine ⟨keepGoing, calls, hlog, hdelivers, ?_, ?_⟩ <;>
      cases keepGoing <;> simp [EnumResult.ofVisit]

/-- There is nothing to call for but the primary sound driver. -/
theorem enumerateMmdev_silent (h : ∀ p ∈ sys.endpoints flow, p.call = none)
    (cb : σ → Description WString → Bool × σ) (devlist : List Guid) (s : σ) :
    ∃ res ids, enumerateMmdev sys flow devlist (enumDevice flow cb) s = some (res, ids, s) := by
  by_cases hitems : sys.items flow = []
  · exact ⟨_, _, enumerateMmdev_of_no_items hitems⟩
  · have hcalls : (sys.endpoints flow).filterMap Endpoint.call = [] :=
      List.filterMap_eq_nil_iff.mpr h
    exact ⟨_, _, by rw [enumerateMmdev_visits hitems, hcalls]; rfl⟩

end

/-! ## Both flows -/

section

variable [WinStrings] [PropAbi] {sys : MMSystem} {lists lists' : DeviceLists}
  {cbPropData : UInt32} {hr : HResult} {calls : List (Description WString × Bool)}

theorem enumerateW_eq (sys : MMSystem) (lists : DeviceLists)
    (hsize : PropAbi.sizeofEnumerate ≤ cbPropData) (cb : σ → Description WString → Bool × σ)
    (s : σ) :
    enumerateW sys lists (some true) cbPropData cb s =
      (enumerateMmdev sys .render lists.gPlaybackDevices (enumDevice .render cb) s).bind
        fun (res, ids, s) ↦
          if res ≠ .ok then some (res.status, lists.set .render ids, s)
          else
            (enumerateMmdev sys .capture lists.gCaptureDevices (enumDevice .capture cb) s).map
              fun (res, ids', s) ↦
                (res.status, (lists.set .render ids).set .capture ids', s) := by
  have hvalid : ¬ (cbPropData < PropAbi.sizeofEnumerate ∨ (!true) = true) := by
    simpa using hsize
  rw [enumerateW]
  simp only [if_neg hvalid, Option.map_eq_bind]
  rfl

/-- **The calls of `DSPROPERTY_EnumerateW`** are those for the render endpoints and then those
for the capture endpoints, up to the first that is answered with `false`. -/
theorem enumerateW_delivers (hsize : PropAbi.sizeofEnumerate ≤ cbPropData)
    (h : enumerateW sys lists (some true) cbPropData (recorded callback) ([], s) =
      some (hr, lists', calls, t)) :
    Cut ((sys.endpoints .render).filterMap (Endpoint.delivered .render) ++
        (sys.endpoints .capture).filterMap (Endpoint.delivered .capture)) calls ∧
      (calls = [] → ∀ flow, ∀ p ∈ sys.endpoints flow, p.call = none) := by
  rw [enumerateW_eq sys lists hsize] at h
  obtain ⟨⟨res, ids, log, u⟩, hrender, h⟩ := Option.bind_eq_some_iff.mp h
  obtain ⟨keepGoing, calls₁, hlog, hdelivers, hok, hstop⟩ := enumerateMmdev_delivers hrender
  rw [List.nil_append] at hlog
  subst hlog
  by_cases hres : res = .ok
  · simp only [hres, ne_eq, not_true_eq_false, if_false] at h
    obtain ⟨⟨res', ids', log', u'⟩, hcapture, h⟩ := Option.map_eq_some_iff.mp h
    obtain ⟨keepGoing', calls₂, hlog', hdelivers', -, -⟩ := enumerateMmdev_delivers hcapture
    obtain rfl : log' = calls := by simpa using (congrArg (·.2.2.1) h)
    subst hlog'
    have hgo : ∀ c ∈ log, c.2 = true := by
      have hno := mt hdelivers.stopped.mpr (by simp [hok hres])
      simpa using hno
    refine ⟨hdelivers.cut.append hgo hdelivers'.cut, fun hnil flow ↦ ?_⟩
    obtain ⟨hnil₁, hnil₂⟩ := List.append_eq_nil_iff.mp hnil
    cases flow with
    | render => exact hdelivers.silent hnil₁
    | capture => exact hdelivers'.silent hnil₂
  · simp only [ne_eq, hres, not_false_eq_true, if_true] at h
    obtain rfl : log = calls := by simpa using (congrArg (·.2.2.1) (Option.some.inj h))
    rcases hstop hres with rfl | hempty
    · have hfalse : ∃ c ∈ log, c.2 = false := hdelivers.stopped.mp rfl
      refine ⟨hdelivers.cut.extend hfalse _, fun hnil ↦ ?_⟩
      rw [hnil] at hfalse
      exact absurd hfalse (by simp)
    · refine ⟨?_, fun _ flow ↦ ?_⟩
      · simpa [hempty] using hdelivers.cut
      · rw [hempty flow]
        exact nofun

omit [WinStrings] [PropAbi] in
theorem deviceId_of_mem_delivered {data : Description WString}
    (h : data ∈ ps.filterMap (Endpoint.delivered flow)) : data.deviceId = .null := by
  obtain ⟨p, -, hp⟩ := List.mem_filterMap.mp h
  obtain ⟨devname, -, rfl⟩ := Option.map_eq_some_iff.mp hp
  rfl

/-- No description has an identifier. -/
theorem deviceId_of_enumerateW (hsize : PropAbi.sizeofEnumerate ≤ cbPropData)
    (h : enumerateW sys lists (some true) cbPropData (recorded callback) ([], s) =
      some (hr, lists', calls, t)) :
    ∀ c ∈ calls, c.1.deviceId = .null := by
  intro c hc
  have hmem := (enumerateW_delivers hsize h).1.mem hc
  exact (List.mem_append.mp hmem).elim deviceId_of_mem_delivered deviceId_of_mem_delivered

omit [PropAbi] in
theorem deviceId_of_mem_descriptions {data : Description WString} (h : data ∈ sys.descriptions) :
    data.deviceId ≠ .null := by
  have hdescribed : ∀ flow, data ∈ ((sys.endpoints flow).filter (·.id ≠ .null)).filterMap
      (Endpoint.described flow) → data.deviceId ≠ .null := by
    intro flow hmem
    obtain ⟨p, hp, hdata⟩ := List.mem_filterMap.mp hmem
    obtain ⟨data', -, rfl⟩ := Option.map_eq_some_iff.mp hdata
    simpa using (List.mem_filter.mp hp).2
  exact (List.mem_append.mp h).elim (hdescribed .render) (hdescribed .capture)

omit [PropAbi] in
theorem descriptions_of_silent (h : ∀ flow, ∀ p ∈ sys.endpoints flow, p.call = none) :
    sys.descriptions = [] := by
  have hdescribed : ∀ flow, ((sys.endpoints flow).filter (·.id ≠ .null)).filterMap
      (Endpoint.described flow) = [] := by
    intro flow
    refine List.filterMap_eq_nil_iff.mpr fun p hp ↦ ?_
    rw [Endpoint.described, delivered_of_call_none (h flow p (List.mem_filter.mp hp).1)]
    rfl
  rw [MMSystem.descriptions, hdescribed, hdescribed, List.append_nil]

/-- Without a name there is no call. -/
theorem enumerateW_silent (h : ∀ flow, ∀ p ∈ sys.endpoints flow, p.call = none)
    (lists : DeviceLists) (hsize : PropAbi.sizeofEnumerate ≤ cbPropData)
    (cb : σ → Description WString → Bool × σ) (s : σ) :
    ∃ hr lists', enumerateW sys lists (some true) cbPropData cb s = some (hr, lists', s) := by
  obtain ⟨res, ids, hrender⟩ := enumerateMmdev_silent (h .render) cb lists.gPlaybackDevices s
  obtain ⟨res', ids', hcapture⟩ := enumerateMmdev_silent (h .capture) cb lists.gCaptureDevices s
  rw [enumerateW_eq sys lists hsize, hrender, Option.bind_some]
  by_cases hres : res = .ok
  · exact ⟨res'.status, (lists.set .render ids).set .capture ids', by simp [hres, hcapture]⟩
  · exact ⟨res.status, lists.set .render ids, by simp [hres]⟩

/-- **`DSPROPERTY_EnumerateW`** describes the devices, exactly if there is none whose name is
available. -/
theorem enumerateW_enumerates_iff (sys : MMSystem) (lists : DeviceLists) (cbPropData : UInt32)
    (callback : σ → Description WString → Bool × σ) (s : σ)
    (hsize : PropAbi.sizeofEnumerate ≤ cbPropData) :
    (∃ hr lists' calls t,
      enumerateW sys lists (some true) cbPropData (recorded callback) ([], s) =
        some (hr, lists', calls, t) ∧ sys.DescribesDevices calls) ↔
      ∀ flow, ∀ p ∈ sys.endpoints flow, p.call = none := by
  constructor
  · rintro ⟨hr, lists', calls, t, hrun, hdescribes⟩
    cases calls with
    | nil => exact (enumerateW_delivers hsize hrun).2 rfl
    | cons c calls =>
        have hnull : c.1.deviceId = .null := deviceId_of_enumerateW hsize hrun c List.mem_cons_self
        have hmem : c.1 ∈ sys.descriptions := hdescribes.cut.mem List.mem_cons_self
        exact absurd hnull (deviceId_of_mem_descriptions hmem)
  · intro hsilent
    obtain ⟨hr, lists', hrun⟩ := enumerateW_silent hsilent lists hsize (recorded callback) ([], s)
    refine ⟨hr, lists', [], s, hrun, ?_, nofun⟩
    rw [descriptions_of_silent hsilent]
    exact .nil

end

section

local instance descriptionsStrings : WinStrings := plainStrings

local instance descriptionsPropAbi : PropAbi := win32

/-- The description of the only device, for both flows, has no identifier. -/
theorem enumerateW_without_id :
    ∃ lists' calls,
      enumerateW (sampleSystem (.lpwstr (wide "Speakers"))) {} (some true) 8
          (recorded fun (s : Unit) _ ↦ (true, s)) ([], ()) = some (.ok, lists', calls, ()) ∧
      calls.map (·.1.description) = [some (wide "Speakers"), some (wide "Speakers")] ∧
      ¬ (sampleSystem (.lpwstr (wide "Speakers"))).DescribesDevices calls := by
  refine ⟨⟨[⟨1, 2, 3, 4⟩], [⟨1, 2, 3, 4⟩]⟩,
    [(⟨typeWdm, 0, .null, some (wide "Speakers"), some aldriverName, some interfaceW, 0⟩, true),
      (⟨typeWdm, 1, .null, some (wide "Speakers"), some aldriverName, some interfaceW, 0⟩, true)],
    rfl, rfl, fun h ↦ ?_⟩
  exact deviceId_of_mem_descriptions (h.cut.mem List.mem_cons_self) rfl

theorem enumerateW_enumerates_iff_speakers :
    (∃ hr lists' calls t,
      enumerateW (sampleSystem (.lpwstr (wide "Speakers"))) {} (some true) 8
          (recorded fun (s : Unit) _ ↦ (true, s)) ([], ()) = some (hr, lists', calls, t) ∧
        (sampleSystem (.lpwstr (wide "Speakers"))).DescribesDevices calls) ↔
      ∀ flow, ∀ p ∈ (sampleSystem (.lpwstr (wide "Speakers"))).endpoints flow, p.call = none :=
  enumerateW_enumerates_iff _ _ _ _ _ (by decide)

end

end Dsoal
