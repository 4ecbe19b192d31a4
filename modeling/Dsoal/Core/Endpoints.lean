import Dsoal.Core.DeviceId

/-!
# Audio endpoints

The endpoints of the system, as the interfaces of `mmdeviceapi.h` give access to them, and the
functions that look for one: `GetMMDevice`, and `enumerate_mmdev`, which hands all of them to a
callback.  `DefaultEndpoints`, which `GetDeviceID` asks, is a view of such a system.

An `IMMDevice*` that may be null is an `Option MMDevice`.  A callback that reads through an
invalid pointer returns `none`.
-/

universe u

namespace Dsoal

/-- The characters of a string of `WCHAR`, without the one that ends it. -/
abbrev WString := List UInt16

/-- A string literal `L"…"`. -/
def wide (s : String) : WString := s.toList.map fun c ↦ c.toNat.toUInt16

/-- An `HRESULT` that says what went wrong. -/
abbrev Failure := { hr : HResult // hr.failed = true }

/-- The functions of the system that read and compare strings. -/
class WinStrings where
  /-- `CLSIDFromString`; `GUID_NULL` for what is no class identifier. -/
  clsidFromString : WString → Guid
  /-- `lstrcmpW` returns 0. -/
  lstrcmpW : WString → WString → Bool
  /-- `MultiByteToWideChar` with `CP_ACP`, of a string without the character that ends it. -/
  multiByteToWideChar : List UInt8 → WString
  /-- `WideCharToMultiByte` with `CP_ACP`: the characters it stores in a buffer, or in one of the
  given size. -/
  wideCharToMultiByte : Option Nat → WString → List UInt8

/-! ## Devices -/

/-- `PropVariant`, by its `type()`. -/
inductive PropVariant where
  /-- `VT_LPWSTR`. -/
  | lpwstr (pwszVal : WString)
  /-- `VT_UI4`, with the value `ulVal` or `uintVal`. -/
  | ui4 (ulVal : UInt32)
  /-- `VT_UINT`. -/
  | uint (uintVal : UInt32)
  /-- Any other type, such as `VT_EMPTY`. -/
  | other
  deriving DecidableEq, Repr

/-- `IPropertyStore`: what `GetValue` returns for the properties that are asked for. -/
structure PropertyStore where
  /-- `PKEY_AudioEndpoint_GUID`. -/
  guid : Except Failure PropVariant
  /-- `DEVPKEY_Device_FriendlyName`. -/
  friendlyName : Except Failure PropVariant
  /-- `PKEY_AudioEndpoint_PhysicalSpeakers`. -/
  physicalSpeakers : Except Failure PropVariant
  /-- `PKEY_AudioEndpoint_FormFactor`. -/
  formFactor : Except Failure PropVariant

/-- `IMMDevice`. -/
structure MMDevice where
  openPropertyStore : Except Failure PropertyStore

/-- `IMMDeviceCollection`: unless `GetCount` fails, what `Item` returns for each index. -/
structure MMDeviceCollection where
  getCount : Except Failure (List (Except Failure MMDevice))

/-- `IMMDeviceEnumerator`. -/
structure MMDeviceEnumerator where
  enumAudioEndpoints : DataFlow → Except Failure MMDeviceCollection
  getDefaultAudioEndpoint : DataFlow → Role → Except Failure MMDevice

/-- What `CoCreateInstance` returns. -/
abbrev MMSystem := Except Failure MMDeviceEnumerator

section

variable [WinStrings]

/-- The identifier in a property store, unless it is not available or no string. -/
def PropertyStore.readId (ps : PropertyStore) : Option Guid :=
  match ps.guid with
  | .ok (.lpwstr s) => some (WinStrings.clsidFromString s)
  | _ => none

/-- The identifier of a device: its property store is opened and read. -/
def MMDevice.readId (device : MMDevice) : Option Guid :=
  match device.openPropertyStore with
  | .error _ => none
  | .ok ps => ps.readId

/-- The query of a default endpoint that `GetDeviceID` makes. -/
def MMSystem.query (sys : MMSystem) (flow : DataFlow) (role : Role) : EndpointQuery :=
  match sys with
  | .error hr => { coCreateInstance := hr }
  | .ok devenum =>
    match devenum.getDefaultAudioEndpoint flow role with
    | .error hr => { getDefaultAudioEndpoint := hr }
    | .ok device =>
      match device.openPropertyStore with
      | .error hr => { openPropertyStore := hr }
      | .ok ps =>
        match ps.guid with
        | .error hr => { getValue := hr }
        | .ok _ => { value := ps.readId }

/-! ## Looking for a device -/

/-- The loop of `GetMMDevice`. -/
def findDevice (id : Guid) : List (Except Failure MMDevice) → Option MMDevice
  | [] => none
  | .error _ :: items => findDevice id items
  | .ok device :: items =>
    match device.readId with
    | none => findDevice id items
    | some devid => if id = devid then some device else findDevice id items

/-- `GetMMDevice`. -/
def getMMDevice (sys : MMSystem) (flow : DataFlow) (id : Guid) : Option MMDevice :=
  match sys with
  | .error _ => none
  | .ok devenum =>
    match devenum.enumAudioEndpoints flow with
    | .error _ => none
    | .ok coll =>
      match coll.getCount with
      | .error _ => none
      | .ok items => findDevice id items

/-! ## Enumeration -/

/-- `primary_desc`. -/
def primaryDescName : WString := wide "Primary Sound Driver"

/-- `aldriver_name`. -/
def aldriverName : WString := wide "dsoal-aldrv.dll"

/-- The arguments of the callback.  The name is `none` for a value that is no string: the
pointer it is read from is not valid. -/
structure EnumCall where
  guid : Option Guid
  devname : Option WString
  drvname : WString
  deriving DecidableEq, Repr

/-- The call for the primary sound driver, which has no identifier. -/
def primaryEntry : EnumCall := ⟨none, some primaryDescName, []⟩

/-- `pv.value<const WCHAR*>()`. -/
def PropVariant.pwszVal : PropVariant → Option WString
  | .lpwstr s => some s
  | _ => none

/-- The variables of `enumerate_mmdev` that `send_device` changes, and what the callback
changes. -/
structure EnumState (σ : Type u) where
  devlist : List Guid
  keepGoing : Bool
  user : σ

/-- How `enumerate_mmdev` returns. -/
inductive EnumResult where
  /-- `S_OK`, and the same value `DS_OK`. -/
  | ok
  /-- `S_FALSE`. -/
  | stopped
  | failed (hr : Failure)
  deriving DecidableEq, Repr

variable {σ : Type u}

/-- `send_device`. -/
def sendDevice (cb : σ → EnumCall → Option (Bool × σ)) (device : MMDevice) (e : EnumState σ) :
    Option (EnumState σ) :=
  match device.openPropertyStore with
  | .error _ => some e
  | .ok ps =>
    match ps.readId with
    | none => some e
    | some guid =>
      if e.devlist.head? = some guid then some e
      else
        let e := { e with devlist := e.devlist ++ [guid] }
        if !e.keepGoing then some e
        else
          match ps.friendlyName with
          | .error _ => some e
          -- the type of the value is not looked at
          | .ok pv => do
            let (keepGoing, user) ← cb e.user ⟨some guid, pv.pwszVal, aldriverName⟩
            some { e with keepGoing := keepGoing, user := user }

/-- `send_device` for what `Item` or `GetDefaultAudioEndpoint` returns, if it succeeds. -/
def sendItem (cb : σ → EnumCall → Option (Bool × σ)) (e : EnumState σ) :
    Except Failure MMDevice → Option (EnumState σ)
  | .error _ => some e
  | .ok device => sendDevice cb device e

/-- `enumerate_mmdev`, with `devlist` afterwards and what the callback leaves. -/
def enumerateMmdev (sys : MMSystem) (flow : DataFlow) (devlist : List Guid)
    (cb : σ → EnumCall → Option (Bool × σ)) (user : σ) : Option (EnumResult × List Guid × σ) :=
  match sys with
  | .error hr => some (.failed hr, devlist, user)
  | .ok devenum =>
    match devenum.enumAudioEndpoints flow with
    | .error _ => some (.ok, devlist, user)
    | .ok coll =>
      match coll.getCount with
      | .error _ => some (.ok, devlist, user)
      | .ok [] => some (.ok, devlist, user)
      | .ok items => do
        let (keepGoing, user) ← cb user primaryEntry
        let e ← sendItem cb ⟨[], keepGoing, user⟩ (devenum.getDefaultAudioEndpoint flow .multimedia)
        let e ← items.foldlM (sendItem cb) e
        some (if e.keepGoing then .ok else .stopped, e.devlist, e.user)

end

end Dsoal
