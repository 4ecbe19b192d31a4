import Dsoal.Core.Enumerate
import Dsoal.Endpoints.Listing

/-!
# The callbacks of applications

The two forms of an enumeration function differ in nothing but the strings: the one that ends in
`A` does what the other does for a callback that converts the names itself.  A callback of
either form learns of the endpoints in the order of `MMSystem.endpoints`, and every identifier
it is given is one that `GetMMDevice` finds a device for (`directSoundEnumerateA_announces`).
-/

universe u

open Visit

namespace Dsoal

open WinStrings

variable {σ : Type u}

/-! ## Strings in a buffer -/

theorem storeChars_append {before room after chars : List UInt8} {pos : ℕ}
    (hpos : pos = before.length) (hroom : room.length = chars.length) :
    storeChars (before ++ room ++ after) pos chars = before ++ chars ++ after := by
  subst hpos
  simp [storeChars, ← hroom, List.drop_append]

theorem cString_append {before chars : List UInt8} {pos : ℕ} (hpos : pos = before.length)
    (hzero : 0 ∉ chars) (after : List UInt8) :
    cString (before ++ chars ++ 0 :: after) pos = chars := by
  subst hpos
  have hchars : ∀ c ∈ chars, decide (c ≠ 0) = true := fun c hc ↦
    decide_eq_true fun h ↦ hzero (h ▸ hc)
  rw [cString, List.append_assoc, List.drop_left, List.takeWhile_append_of_pos hchars,
    List.takeWhile_cons_of_neg (by simp), List.append_nil]

section

variable [WinStrings]

/-- What is documented of `WideCharToMultiByte`. -/
structure ConvertsStrings : Prop where
  /-- It fills a buffer of the size it has asked for. -/
  exact : ∀ s, wideCharToMultiByte (some (wideCharToMultiByte none s).length) s =
    wideCharToMultiByte none s
  /-- Only the character 0 is converted to 0. -/
  noZero : ∀ s, 0 ∉ s → 0 ∉ wideCharToMultiByte none s

/-- A name in the code page of the system. -/
def narrowName (name : WString) : List UInt8 :=
  if name.isEmpty then [] else wideCharToMultiByte none (convertible name)

/-- A call with its names converted. -/
def EnumCall.narrow (c : EnumCall) : EnumCallA :=
  ⟨c.guid, narrowName (c.devname.getD []), narrowName c.drvname⟩

/-- The strings of a call have no 0 in them. -/
structure EnumCall.Plain (c : EnumCall) : Prop where
  devname : ∀ name, c.devname = some name → 0 ∉ name
  drvname : 0 ∉ c.drvname

/-- The name of an endpoint is not a string with a 0 in it. -/
def Endpoint.Plain (p : Endpoint) : Prop := ∀ name, p.name = some name → 0 ∉ name

theorem multiByteLength_eq (name : WString) : multiByteLength name = (narrowName name).length := by
  rw [multiByteLength, narrowName]
  split <;> rfl

variable {name : WString} (hconv : ConvertsStrings)

include hconv

theorem storeName_eq (buf : List UInt8) (pos : ℕ) (name : WString) :
    storeName buf pos name (multiByteLength name) = storeChars buf pos (narrowName name) := by
  rw [storeName, multiByteLength, narrowName]
  split
  · simp [storeChars]
  · rw [hconv.exact]

theorem narrowName_no_zero (h : 0 ∉ name) : 0 ∉ narrowName name := by
  rw [narrowName]
  split
  · exact List.not_mem_nil
  · exact hconv.noZero _ fun hmem ↦ h (List.mem_of_mem_take hmem)

/-- **The buffer** of `do_enum` holds the two strings, each with a zero behind it. -/
theorem storeName_storeName (dname mname : WString) :
    storeName (storeName (List.replicate (multiByteLength dname + multiByteLength mname + 2) 0) 0
        dname (multiByteLength dname)) (multiByteLength dname + 1) mname (multiByteLength mname) =
      narrowName dname ++ 0 :: narrowName mname ++ [0] := by
  rw [storeName_eq hconv, storeName_eq hconv, multiByteLength_eq, multiByteLength_eq]
  generalize narrowName dname = ds
  generalize narrowName mname = ms
  have hsplit : List.replicate (ds.length + ms.length + 2) (0 : UInt8) =
      [] ++ List.replicate ds.length 0 ++ (0 :: List.replicate ms.length 0 ++ [0]) := by
    rw [List.nil_append, ← List.replicate_succ, ← List.replicate_succ',
      List.replicate_append_replicate]
    congr 1
  rw [hsplit, storeChars_append List.length_nil.symm (by simp), List.nil_append]
  have hmiddle : ds ++ (0 :: List.replicate ms.length 0 ++ [0]) =
      (ds ++ [0]) ++ List.replicate ms.length 0 ++ [0] := by simp
  rw [hmiddle, storeChars_append (by simp) (by simp)]
  simp

/-- A call with plain names is made with the converted names. -/
theorem doEnumA_eq (callback : σ → EnumCallA → Bool × σ) (s : σ) {c : EnumCall} (h : c.Plain) :
    doEnumA callback s c = c.devname.map fun _ ↦ callback s c.narrow := by
  obtain ⟨guid, _ | dname, mname⟩ := c
  · rfl
  · have hd : 0 ∉ narrowName dname := narrowName_no_zero hconv (h.devname dname rfl)
    have hm : 0 ∉ narrowName mname := narrowName_no_zero hconv h.drvname
    have hfirst : cString (narrowName dname ++ 0 :: narrowName mname ++ [0]) 0 =
        narrowName dname := by
      have hstring := cString_append List.length_nil.symm hd (narrowName mname ++ [0])
      simpa using hstring
    have hsecond : cString (narrowName dname ++ 0 :: narrowName mname ++ [0])
        (multiByteLength dname + 1) = narrowName mname := by
      have hpos : multiByteLength dname + 1 = (narrowName dname ++ [0]).length := by
        simp [multiByteLength_eq]
      simpa using cString_append hpos hm []
    simp only [doEnumA, Option.map_some, storeName_storeName hconv, hfirst, hsecond]
    rfl

end

/-! ## The devices for the identifiers -/

section

variable [WinStrings] {sys : MMSystem} {flow : DataFlow}

theorem endpoint_id {device : MMDevice} {p : Endpoint} (h : device.endpoint = some p) :
    device.readId = some p.id := by
  obtain ⟨_ | ps⟩ := device
  · cases h
  · obtain ⟨id, hid, rfl⟩ := Option.map_eq_some_iff.mp h
    exact hid

theorem endpoint_none {device : MMDevice} (h : device.endpoint = none) : device.readId = none := by
  obtain ⟨_ | ps⟩ := device
  · rfl
  · exact Option.map_eq_none_iff.mp h

/-- The loop finds a device for the identifier of every endpoint. -/
theorem findDevice_of_mem {items : List (Except Failure MMDevice)} {p : Endpoint}
    (h : p ∈ items.filterMap itemEndpoint) :
    ∃ device, findDevice p.id items = some device ∧ device.readId = some p.id := by
  induction items with
  | nil => exact absurd h List.not_mem_nil
  | cons item items ih =>
      cases item with
      | error hr => exact ih h
      | ok device =>
          cases hdevice : itemEndpoint (.ok device) with
          | none =>
              rw [List.filterMap_cons_none hdevice] at h
              simpa [findDevice, endpoint_none hdevice] using ih h
          | some q =>
              have hid : device.readId = some q.id := endpoint_id hdevice
              rw [List.filterMap_cons_some hdevice] at h
              by_cases heq : p.id = q.id
              · exact ⟨device, by simp [findDevice, hid, heq], by rw [hid, heq]⟩
              · rcases List.mem_cons.mp h with rfl | h
                · exact absurd rfl heq
                · simpa [findDevice, hid, heq] using ih h

theorem getMMDevice_eq (sys : MMSystem) (flow : DataFlow) (id : Guid) :
    getMMDevice sys flow id = findDevice id (sys.items flow) := by
  cases sys with
  | error hr => rfl
  | ok devenum =>
      simp only [getMMDevice, MMSystem.items]
      cases devenum.enumAudioEndpoints flow with
      | error hr => rfl
      | ok coll => cases hcount : coll.getCount <;> simp [hcount, findDevice]

theorem mem_collected_of_mem_endpoints (hlisted : sys.DefaultListed flow) {p : Endpoint}
    (h : p ∈ sys.endpoints flow) : p ∈ sys.collected flow := by
  have hsubset : ∀ ps, ∀ q ∈ headOnce ps, q ∈ ps := by
    rintro (_ | ⟨a, ps⟩) q hq
    · exact hq
    · rcases List.mem_cons.mp hq with rfl | hq
      · exact List.mem_cons_self
      · exact List.mem_cons_of_mem a (List.mem_of_mem_filter hq)
  unfold MMSystem.endpoints at h
  split at h
  · exact absurd h List.not_mem_nil
  · rcases List.mem_append.mp (hsubset _ p h) with h | h
    · exact mem_collected_of_default hlisted (Option.mem_toList.mp h)
    · exact h

/-- **A device for every endpoint.** -/
theorem getMMDevice_of_mem_endpoints (hlisted : sys.DefaultListed flow) {p : Endpoint}
    (h : p ∈ sys.endpoints flow) :
    ∃ device, getMMDevice sys flow p.id = some device ∧ device.readId = some p.id := by
  rw [getMMDevice_eq]
  exact findDevice_of_mem (mem_collected_of_mem_endpoints hlisted h)

end

/-! ## The enumeration -/

section

variable [WinStrings] {sys : MMSystem} {flow : DataFlow} {lists : DeviceLists}

/-- What an application learns: `ids` is the list that is left, and `calls` are the calls with
what the callback returned. -/
structure MMSystem.Announced (sys : MMSystem) (flow : DataFlow) (ids : List Guid)
    (calls : List (EnumCallA × Bool)) : Prop where
  /-- The primary sound driver comes first and the endpoints follow, until the callback returns
  `false`. -/
  inOrder : Cut ((primaryEntry :: (sys.endpoints flow).filterMap Endpoint.namedCall).map
    EnumCall.narrow) calls
  /-- The identifiers are in the list, whether or not all endpoints have been announced. -/
  listed : ids = (sys.endpoints flow).map Endpoint.id
  given : ∀ c ∈ calls, ∀ id, c.1.guid = some id → id ∈ ids
  /-- There is a device for each of them. -/
  opens : ∀ id ∈ ids, ∃ device, getMMDevice sys flow id = some device ∧ device.readId = some id

theorem enumerateFlowA_eq (callback : σ → EnumCallA → Bool × σ) (s : σ) :
    enumerateFlowA flow sys (some callback) s lists =
      (enumerateMmdev sys flow (lists.get flow) (doEnumA callback) s).map
        fun r ↦ (r.1.status, lists.set flow r.2.1, r.2.2) := by
  rw [Option.map_eq_bind]
  cases flow <;> rfl

theorem enumerateFlowW_eq (callback : σ → EnumCall → Option (Bool × σ)) (s : σ) :
    enumerateFlowW flow sys (some callback) s lists =
      (enumerateMmdev sys flow (lists.get flow) callback s).map
        fun r ↦ (r.1.status, lists.set flow r.2.1, r.2.2) := by
  rw [Option.map_eq_bind]
  cases flow <;> rfl

/-- Only the calls for the endpoints matter. -/
theorem enumerateMmdev_congr {cb cb' : σ → EnumCall → Option (Bool × σ)}
    (h : ∀ c ∈ primaryEntry :: (sys.endpoints flow).filterMap Endpoint.call, ∀ s,
      cb s c = cb' s c) (devlist : List Guid) (s : σ) :
    enumerateMmdev sys flow devlist cb s = enumerateMmdev sys flow devlist cb' s := by
  by_cases hitems : sys.items flow = []
  · rw [enumerateMmdev_of_no_items hitems, enumerateMmdev_of_no_items hitems]
  · rw [enumerateMmdev_visits hitems, enumerateMmdev_visits hitems, visit_congr h]

omit [WinStrings] in
theorem plain_of_mem {ps : List Endpoint} (h : ∀ p ∈ ps, p.Plain) {c : EnumCall}
    (hc : c ∈ primaryEntry :: ps.filterMap Endpoint.call) : c.Plain := by
  rcases List.mem_cons.mp hc with rfl | hmem
  · exact ⟨by rintro _ ⟨⟩; decide, List.not_mem_nil⟩
  · obtain ⟨⟨id, _ | pv⟩, hp, hcall⟩ := List.mem_filterMap.mp hmem
    · cases hcall
    · cases hcall
      have hdriver : 0 ∉ aldriverName := by decide
      exact ⟨h _ hp, hdriver⟩

/-- The function that ends in `A` does what the other one does for a callback that converts. -/
theorem enumerateFlowA_eq_enumerateFlowW (hconv : ConvertsStrings)
    (hplain : ∀ p ∈ sys.endpoints flow, p.Plain) (callback : σ → EnumCallA → Bool × σ) (s : σ) :
    enumerateFlowA flow sys (some callback) s lists =
      enumerateFlowW flow sys (some fun s c ↦ c.devname.map fun _ ↦ callback s c.narrow) s
        lists := by
  rw [enumerateFlowA_eq, enumerateFlowW_eq]
  congr 1
  exact enumerateMmdev_congr (fun c hc s ↦ doEnumA_eq hconv callback s (plain_of_mem hplain hc)) _ _

/-- The visit behind a function that ends in `A`. -/
theorem enumerateFlowA_visits (hconv : ConvertsStrings)
    (hplain : ∀ p ∈ sys.endpoints flow, p.Plain) (hnamed : ∀ p ∈ sys.endpoints flow, ¬ p.Misnamed)
    (hitems : sys.items flow ≠ []) (callback : σ → EnumCallA → Bool × σ) (s : σ) :
    enumerateFlowA flow sys (some callback) s lists =
      (visit (total callback) s ((primaryEntry ::
          (sys.endpoints flow).filterMap Endpoint.namedCall).map EnumCall.narrow)).map
        fun r ↦ (.ok, lists.set flow ((sys.endpoints flow).map Endpoint.id), r.2) := by
  have hvisit : visit (doEnumA callback) s
      (primaryEntry :: (sys.endpoints flow).filterMap Endpoint.call) =
      visit (fun s c ↦ total callback s c.narrow) s
        (primaryEntry :: (sys.endpoints flow).filterMap Endpoint.call) := by
    refine visit_congr fun c hc s ↦ ?_
    have hname : c.devname ≠ none := by
      rw [Endpoint.filterMap_call hnamed] at hc
      exact devname_of_mem_plan hc
    obtain ⟨name, hname⟩ := Option.ne_none_iff_exists'.mp hname
    rw [doEnumA_eq hconv callback s (plain_of_mem hplain hc), hname]
    rfl
  rw [enumerateFlowA_eq, enumerateMmdev_visits hitems, hvisit, visit_map EnumCall.narrow,
    Endpoint.filterMap_call hnamed, Option.map_map]
  refine congrArg (fun f ↦ Option.map f _) (funext fun r ↦ ?_)
  cases hgo : r.1 <;> simp [EnumResult.ofVisit, EnumResult.status, hgo]

/-- **An enumeration function** returns `DS_OK` whatever the callback does, and announces the
endpoints. -/
theorem directSoundEnumerateA_announces (hconv : ConvertsStrings) (sys : MMSystem)
    (flow : DataFlow) (hplain : ∀ p ∈ sys.endpoints flow, p.Plain)
    (hnamed : ∀ p ∈ sys.endpoints flow, ¬ p.Misnamed) (hlisted : sys.DefaultListed flow)
    (callback : σ → EnumCallA → Bool × σ) (s : σ) (lists : DeviceLists) :
    enumerateFlowA flow sys (some callback) s lists =
      enumerateFlowW flow sys (some fun s c ↦ c.devname.map fun _ ↦ callback s c.narrow) s lists ∧
    ∃ ids calls t,
      enumerateFlowA flow sys (some (recorded callback)) ([], s) lists =
        some (sys.emptyResult.status, lists.set flow ids, calls, t) ∧
      enumerateFlowA flow sys (some callback) s lists =
        some (sys.emptyResult.status, lists.set flow ids, t) ∧
      (sys.items flow = [] → calls = [] ∧ ids = lists.get flow) ∧
      (sys.items flow ≠ [] → sys.Announced flow ids calls) := by
  refine ⟨enumerateFlowA_eq_enumerateFlowW hconv hplain callback s, ?_⟩
  by_cases hitems : sys.items flow = []
  · refine ⟨lists.get flow, [], s, ?_, ?_, fun _ ↦ ⟨rfl, rfl⟩, absurd hitems⟩
    · rw [enumerateFlowA_eq, enumerateMmdev_of_no_items hitems, Option.map_some]
    · rw [enumerateFlowA_eq, enumerateMmdev_of_no_items hitems, Option.map_some]
  · have hstatus : sys.emptyResult.status = .ok := by
      cases sys with
      | error hr => exact absurd rfl hitems
      | ok devenum => rfl
    obtain ⟨keepGoing, calls, t, hrec, hvisit, hcut, -⟩ := visit_recorded callback s
      ((primaryEntry :: (sys.endpoints flow).filterMap Endpoint.namedCall).map EnumCall.narrow) []
    rw [List.nil_append] at hrec
    refine ⟨(sys.endpoints flow).map Endpoint.id, calls, t, ?_, ?_, fun h ↦ absurd h hitems,
      fun _ ↦ ⟨hcut, rfl, ?_, ?_⟩⟩
    · rw [enumerateFlowA_visits hconv hplain hnamed hitems, hrec, hstatus, Option.map_some]
    · rw [enumerateFlowA_visits hconv hplain hnamed hitems, hvisit, hstatus, Option.map_some]
    · intro c hc id hid
      obtain ⟨d, hd, hdc⟩ := List.mem_map.mp (hcut.mem hc)
      rw [← hdc] at hid
      rcases List.mem_cons.mp hd with rfl | hmem
      · cases hid
      · obtain ⟨p, hp, hcall⟩ := List.mem_filterMap.mp hmem
        obtain ⟨devname, -, rfl⟩ := Endpoint.devname_of_namedCall hcall
        cases hid
        exact List.mem_map_of_mem hp
    · intro id hid
      obtain ⟨p, hp, rfl⟩ := List.mem_map.mp hid
      exact getMMDevice_of_mem_endpoints hlisted hp

end

/-! ## A system with one device, whose name is given to an application -/

/-- The functions of the system for strings of plain characters; a character that is not plain
is converted to a question mark. -/
abbrev asciiStrings : WinStrings where
  clsidFromString := parseClsid
  lstrcmpW s t := s == t
  multiByteToWideChar s := s.map UInt8.toUInt16
  wideCharToMultiByte size s :=
    (s.map fun c ↦ if c < 128 then c.toUInt8 else 63).take (size.getD s.length)

section

local instance entryPointStrings : WinStrings := asciiStrings

theorem asciiStrings_converts : ConvertsStrings where
  exact s := by simp [wideCharToMultiByte]
  noZero s hzero hmem := by
    obtain ⟨c, hc, hconverted⟩ := List.mem_map.mp (List.mem_of_mem_take hmem)
    split at hconverted
    · next hplain =>
        have hnat : c.toNat % 256 = 0 := congrArg UInt8.toNat hconverted
        have hlt : c.toNat < 128 := UInt16.lt_iff_toNat_lt.mp hplain
        obtain rfl : c = 0 := UInt16.toNat_inj.mp (by simp; omega)
        exact hzero hc
    · cases hconverted

/-- A callback that stops at the first endpoint with an identifier. -/
def firstDevice (found : Option EnumCallA) (c : EnumCallA) : Bool × Option EnumCallA :=
  match c.guid with
  | none => (true, found)
  | some _ => (false, some c)

theorem directSoundEnumerateA_announces_first :
    (enumerateFlowA .capture (sampleSystem (.lpwstr (wide "Mic"))) (some firstDevice) none {}).map
        (·.2.2) =
      some (some ⟨some ⟨1, 2, 3, 4⟩, narrow "Mic", narrow "dsoal-aldrv.dll"⟩) ∧
    ∃ ids calls t,
      enumerateFlowA .capture (sampleSystem (.lpwstr (wide "Mic")))
          (some (recorded firstDevice)) ([], none) {} =
        some (.ok, DeviceLists.set {} .capture ids, calls, t) ∧
      (sampleSystem (.lpwstr (wide "Mic"))).Announced .capture ids calls := by
  refine ⟨by decide, ?_⟩
  obtain ⟨-, ids, calls, t, hrun, -, -, hannounced⟩ := directSoundEnumerateA_announces
    asciiStrings_converts (sampleSystem (.lpwstr (wide "Mic"))) .capture
    (by
      rintro p hp name hname
      obtain rfl := List.mem_singleton.mp hp
      cases hname
      decide)
    (by
      rintro p hp ⟨pv, hpv, hnone⟩
      obtain rfl := List.mem_singleton.mp hp
      cases hpv
      cases hnone)
    (by
      rintro devenum device ⟨⟩ ⟨⟩
      exact List.mem_cons_self)
    firstDevice none {}
  exact ⟨ids, calls, t, hrun, hannounced (List.cons_ne_nil _ _)⟩

end

end Dsoal
