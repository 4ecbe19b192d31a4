import Dsoal.Core.Endpoints
import Dsoal.Lib.Visit

/-!
# Enumerating the endpoints

What there is to enumerate is `MMSystem.endpoints`: the default endpoint and then the others of
the collection, without the devices whose identifier cannot be read.  The loop of
`enumerate_mmdev` is a visit of the calls for them, `enumerateMmdev_visits`.
-/

universe u

open Visit

namespace Dsoal

variable {σ : Type u}

/-- A device with its identifier and what `GetValue` returns for its name. -/
structure Endpoint where
  id : Guid
  friendlyName : Except Failure PropVariant
  deriving DecidableEq

namespace Endpoint

/-- The call for an endpoint, unless its name is not available. -/
def call (p : Endpoint) : Option EnumCall :=
  match p.friendlyName with
  | .error _ => none
  | .ok pv => some ⟨some p.id, pv.pwszVal, aldriverName⟩

/-- The name, if it is a string. -/
def name (p : Endpoint) : Option WString :=
  match p.friendlyName with
  | .error _ => none
  | .ok pv => pv.pwszVal

/-- The name is available, and is no string. -/
def Misnamed (p : Endpoint) : Prop := ∃ pv, p.friendlyName = .ok pv ∧ pv.pwszVal = none

/-- The call for an endpoint whose name is a string. -/
def namedCall (p : Endpoint) : Option EnumCall :=
  p.name.map fun devname ↦ ⟨some p.id, some devname, aldriverName⟩

theorem call_eq_namedCall {p : Endpoint} (h : ¬ p.Misnamed) : p.call = p.namedCall := by
  obtain ⟨id, _ | pv⟩ := p
  · rfl
  · cases pv with
    | lpwstr s => rfl
    | ui4 _ | uint _ | other => exact absurd ⟨_, rfl, rfl⟩ h

theorem Misnamed.call {p : Endpoint} (h : p.Misnamed) :
    p.call = some ⟨some p.id, none, aldriverName⟩ := by
  obtain ⟨pv, hpv, hnone⟩ := h
  rw [Endpoint.call, hpv, ← hnone]

theorem devname_of_namedCall {p : Endpoint} {c : EnumCall} (h : p.namedCall = some c) :
    ∃ devname, p.name = some devname ∧ c = ⟨some p.id, some devname, aldriverName⟩ := by
  obtain ⟨devname, hname, rfl⟩ := Option.map_eq_some_iff.mp h
  exact ⟨devname, hname, rfl⟩

theorem filterMap_call {ps : List Endpoint} (h : ∀ p ∈ ps, ¬ p.Misnamed) :
    ps.filterMap call = ps.filterMap namedCall :=
  List.filterMap_congr fun p hp ↦ call_eq_namedCall (h p hp)

end Endpoint

section

variable [WinStrings]

/-- What `send_device` sees of a device, unless its identifier cannot be read. -/
def MMDevice.endpoint (device : MMDevice) : Option Endpoint :=
  match device.openPropertyStore with
  | .error _ => none
  | .ok ps => ps.readId.map fun id ↦ ⟨id, ps.friendlyName⟩

/-- The endpoint of an item of a collection, if it is available. -/
def itemEndpoint : Except Failure MMDevice → Option Endpoint
  | .error _ => none
  | .ok device => device.endpoint

/-- The endpoints without those that have the identifier of the first, except for the first. -/
def headOnce : List Endpoint → List Endpoint
  | [] => []
  | p :: ps => p :: ps.filter fun q ↦ p.id ≠ q.id

/-- The items of the collection of active devices, if it is available. -/
def MMSystem.items (sys : MMSystem) (flow : DataFlow) : List (Except Failure MMDevice) :=
  match sys with
  | .error _ => []
  | .ok devenum =>
    match devenum.enumAudioEndpoints flow with
    | .error _ => []
    | .ok coll =>
      match coll.getCount with
      | .error _ => []
      | .ok items => items

/-- The default endpoint, if it is available. -/
def MMSystem.defaultEndpoint (sys : MMSystem) (flow : DataFlow) : Option Endpoint :=
  match sys with
  | .error _ => none
  | .ok devenum => itemEndpoint (devenum.getDefaultAudioEndpoint flow .multimedia)

/-- The endpoints `enumerate_mmdev` finds, in order. -/
def MMSystem.endpoints (sys : MMSystem) (flow : DataFlow) : List Endpoint :=
  match sys.items flow with
  | [] => []
  | items => headOnce ((sys.defaultEndpoint flow).toList ++ items.filterMap itemEndpoint)

end

/-- What `enumerate_mmdev` returns without a call. -/
def MMSystem.emptyResult (sys : MMSystem) : EnumResult :=
  match sys with
  | .error hr => .failed hr
  | .ok _ => .ok

/-- What `enumerate_mmdev` returns after a visit. -/
def EnumResult.ofVisit (keepGoing : Bool) : EnumResult := if keepGoing then .ok else .stopped

/-! ## One device -/

variable {cb : σ → EnumCall → Option (Bool × σ)} {e : EnumState σ} {d : Guid} {ds : List Guid}
  {p : Endpoint} {ps qs : List Endpoint}

namespace EnumState

/-- The list gets the identifiers of the endpoints, and the callback is called for those whose
name is available unless it has asked to stop. -/
def sends (cb : σ → EnumCall → Option (Bool × σ)) (e : EnumState σ) (ps : List Endpoint) :
    Option (EnumState σ) :=
  (resume cb (e.keepGoing, e.user) (ps.filterMap Endpoint.call)).map fun r ↦
    ⟨e.devlist ++ ps.map Endpoint.id, r.1, r.2⟩

@[simp] theorem sends_nil : e.sends cb [] = some e := by
  obtain ⟨devlist, keepGoing, user⟩ := e
  rw [sends, List.filterMap_nil, resume_nil, Option.map_some, List.map_nil, List.append_nil]

theorem sends_append : e.sends cb (ps ++ qs) = (e.sends cb ps).bind (·.sends cb qs) := by
  rw [sends, sends, List.filterMap_append, resume_append, Option.map_bind, Option.bind_map]
  congr 1
  funext r
  simp [sends]

theorem sends_cons (p : Endpoint) (ps : List Endpoint) :
    e.sends cb (p :: ps) = (e.sends cb [p]).bind (·.sends cb ps) := by
  rw [← sends_append, List.singleton_append]

theorem devlist_of_sends {t : EnumState σ} (h : e.sends cb ps = some t) :
    t.devlist = e.devlist ++ ps.map Endpoint.id := by
  obtain ⟨r, -, rfl⟩ := Option.map_eq_some_iff.mp h
  rfl

theorem sends_silent (h : e.keepGoing = false ∨ p.call = none) :
    e.sends cb [p] = some ⟨e.devlist ++ [p.id], e.keepGoing, e.user⟩ := by
  rw [sends]
  rcases h with h | h
  · rw [h, resume_false]
    rfl
  · rw [List.filterMap_cons_none h, List.filterMap_nil, resume_nil]
    rfl

theorem sends_called {c : EnumCall} (hgo : e.keepGoing = true) (h : p.call = some c) :
    e.sends cb [p] =
      (cb e.user c).map fun r ↦ ⟨e.devlist ++ [p.id], r.1, r.2⟩ := by
  rw [sends, hgo, resume_true, List.filterMap_cons_some h, List.filterMap_nil, visit_cons]
  cases cb e.user c with
  | none => rfl
  | some r =>
      rw [Option.bind_some, resume_nil]
      rfl

end EnumState

section

variable [WinStrings]

/-- A device is sent, unless its identifier cannot be read or is the first of the list. -/
theorem sendItem_eq (item : Except Failure MMDevice) :
    sendItem cb e item =
      match itemEndpoint item with
      | none => some e
      | some p => if e.devlist.head? = some p.id then some e else e.sends cb [p] := by
  cases item with
  | error hr => rfl
  | ok device =>
      obtain ⟨_ | store⟩ := device
      · rfl
      · cases hid : store.readId with
        | none => simp [sendItem, sendDevice, itemEndpoint, MMDevice.endpoint, hid]
        | some id =>
            simp only [sendItem, sendDevice, itemEndpoint, MMDevice.endpoint, hid, Option.map_some]
            split
            · rfl
            · cases hgo : e.keepGoing with
              | false => rw [EnumState.sends_silent (.inl hgo), hgo]; rfl
              | true =>
                  cases hname : store.friendlyName with
                  | error hr => rw [EnumState.sends_silent (.inr rfl), hgo]; rfl
                  | ok pv =>
                      rw [EnumState.sends_called hgo rfl]
                      simp only [Bool.not_true, Bool.false_eq_true, if_false]
                      cases cb e.user ⟨some id, pv.pwszVal, aldriverName⟩ <;> rfl

/-! ## All of them -/

/-- Once the list has a first identifier, all endpoints with another one are sent. -/
theorem foldlM_sendItem_cons (items : List (Except Failure MMDevice))
    (h : e.devlist = d :: ds) :
    items.foldlM (sendItem cb) e =
      e.sends cb ((items.filterMap itemEndpoint).filter fun q ↦ d ≠ q.id) := by
  induction items generalizing e ds with
  | nil => simp
  | cons item items ih =>
      rw [List.foldlM_cons, sendItem_eq]
      cases hp : itemEndpoint item with
      | none => simpa [hp] using ih h
      | some p =>
          by_cases hd : d = p.id
          · simpa [hp, h, hd] using ih h
          · have hhead : ¬ e.devlist.head? = some p.id := by simpa [h] using hd
            rw [List.filterMap_cons_some hp, List.filter_cons_of_pos (by simpa using hd),
              EnumState.sends_cons p]
            simp only [hhead, if_false]
            cases hsent : e.sends cb [p] with
            | none => rfl
            | some t =>
                have ht : t.devlist = d :: (ds ++ [p.id]) := by
                  rw [EnumState.devlist_of_sends hsent, h]
                  rfl
                exact ih ht

/-- From the empty list on, the endpoints are sent once each but for repetitions that only
concern others than the first. -/
theorem foldlM_sendItem_nil (items : List (Except Failure MMDevice)) (h : e.devlist = []) :
    items.foldlM (sendItem cb) e = e.sends cb (headOnce (items.filterMap itemEndpoint)) := by
  induction items with
  | nil => simp [headOnce]
  | cons item items ih =>
      rw [List.foldlM_cons, sendItem_eq]
      cases hp : itemEndpoint item with
      | none => simpa [hp] using ih
      | some p =>
          rw [List.filterMap_cons_some hp, headOnce, EnumState.sends_cons p]
          simp only [h, List.head?_nil, reduceCtorEq, if_false]
          cases hsent : e.sends cb [p] with
          | none => rfl
          | some t =>
              have ht : t.devlist = [p.id] := by
                rw [EnumState.devlist_of_sends hsent, h]
                rfl
              exact foldlM_sendItem_cons items ht

theorem filterMap_itemEndpoint_cons (item : Except Failure MMDevice)
    (items : List (Except Failure MMDevice)) :
    (item :: items).filterMap itemEndpoint =
      (itemEndpoint item).toList ++ items.filterMap itemEndpoint := by
  cases h : itemEndpoint item with
  | none => rw [List.filterMap_cons_none h]; rfl
  | some p => rw [List.filterMap_cons_some h]; rfl

theorem enumerateMmdev_of_no_items {sys : MMSystem} {flow : DataFlow} {devlist : List Guid}
    {user : σ} (h : sys.items flow = []) :
    enumerateMmdev sys flow devlist cb user = some (sys.emptyResult, devlist, user) := by
  cases sys with
  | error hr => rfl
  | ok devenum =>
      simp only [enumerateMmdev, MMSystem.items, MMSystem.emptyResult] at h ⊢
      cases hcoll : devenum.enumAudioEndpoints flow with
      | error hr => rfl
      | ok coll =>
          cases hcount : coll.getCount with
          | error hr => simp [hcount]
          | ok items =>
              obtain rfl : items = [] := by simpa [hcoll, hcount] using h
              simp [hcount]

/-- **The calls of `enumerate_mmdev`** are the visit of the primary sound driver and of the
endpoints whose name is available. -/
theorem enumerateMmdev_visits {sys : MMSystem} {flow : DataFlow} {devlist : List Guid}
    {user : σ} (h : sys.items flow ≠ []) :
    enumerateMmdev sys flow devlist cb user =
      (visit cb user (primaryEntry :: (sys.endpoints flow).filterMap Endpoint.call)).map
        fun r ↦ (.ofVisit r.1, (sys.endpoints flow).map Endpoint.id, r.2) := by
  cases sys with
  | error hr => exact absurd rfl h
  | ok devenum =>
      simp only [enumerateMmdev, MMSystem.items, MMSystem.endpoints,
        MMSystem.defaultEndpoint] at h ⊢
      cases hcoll : devenum.enumAudioEndpoints flow with
      | error hr => simp [hcoll] at h
      | ok coll =>
          cases hcount : coll.getCount with
          | error hr => simp [hcoll, hcount] at h
          | ok items =>
              obtain _ | ⟨item, items⟩ := items
              · simp [hcoll, hcount] at h
              · rw [visit_cons, Option.map_bind]
                simp only [hcount]
                cases cb user primaryEntry with
                | none => rfl
                | some r =>
                    have hfold : _ = EnumState.sends cb ⟨[], r.1, r.2⟩ _ := foldlM_sendItem_nil
                      (devenum.getDefaultAudioEndpoint flow .multimedia :: item :: items) rfl
                    rw [List.foldlM_cons, filterMap_itemEndpoint_cons] at hfold
                    calc
                      _ = (sendItem cb ⟨[], r.1, r.2⟩
                              (devenum.getDefaultAudioEndpoint flow .multimedia) >>=
                            (item :: items).foldlM (sendItem cb)).map
                          fun e ↦ (.ofVisit e.keepGoing, e.devlist, e.user) := by
                        simp only [Option.bind_eq_bind, Option.bind_some, Option.map_eq_bind,
                          Option.bind_assoc]
                        rfl
                      _ = _ := by
                        rw [hfold, EnumState.sends, Option.map_map]
                        rfl

end

/-! ## A system with one device -/

/-- The value of a hexadecimal digit. -/
def hexDigit (c : UInt16) : Option Nat :=
  if 48 ≤ c ∧ c ≤ 57 then some (c.toNat - 48)
  else if 65 ≤ c ∧ c ≤ 70 then some (c.toNat - 55)
  else if 97 ≤ c ∧ c ≤ 102 then some (c.toNat - 87)
  else none

/-- The identifier that the digits of a string are for. -/
def parseClsid (s : WString) : Guid :=
  let n := (s.filterMap hexDigit).foldl (fun n d ↦ 16 * n + d) 0
  ⟨(n >>> 96).toUInt32, (n >>> 80).toUInt16, (n >>> 64).toUInt16, n.toUInt64⟩

/-- The functions of the system for strings of plain characters, of which those for a class
identifier are well formed. -/
abbrev plainStrings : WinStrings where
  clsidFromString := parseClsid
  lstrcmpW s t := s == t
  multiByteToWideChar s := s.map UInt8.toUInt16
  wideCharToMultiByte size s := (s.take (size.getD s.length)).map UInt16.toUInt8

/-- A device with a given name. -/
def sampleDevice (name : PropVariant) : MMDevice where
  openPropertyStore := .ok {
    guid := .ok (.lpwstr (wide "\x7b00000001-0002-0003-0000-000000000004\x7d"))
    friendlyName := .ok name
    physicalSpeakers := .ok .other
    formFactor := .ok .other }

/-- It is the only device, for both flows. -/
def sampleSystem (name : PropVariant) : MMSystem :=
  .ok {
    enumAudioEndpoints := fun _ ↦ .ok ⟨.ok [.ok (sampleDevice name)]⟩
    getDefaultAudioEndpoint := fun _ _ ↦ .ok (sampleDevice name) }

end Dsoal
