import Dsoal.Core.Endpoints
import Dsoal.Core.FullDuplex

/-!
# The private property set

The properties of `DSPROPSETID_DirectSoundDevice`: the device for a name, the description of a
device, and the descriptions of all devices.  A function is given the bytes at `pPropData` as
the structure they hold, and returns it as it is afterwards.

`PropResult.returned` is what is stored in `*pcbReturned`, if the pointer is not null.
-/

universe u v

namespace Dsoal

/-- What the model leaves to the platform: the sizes of structures with pointers in them. -/
class PropAbi where
  /-- `sizeof(DSPROPERTY_DIRECTSOUNDDEVICE_WAVEDEVICEMAPPING_W_DATA)`, and the same for `_A_`. -/
  sizeofWaveDeviceMapping : UInt32
  /-- `sizeof(DSPROPERTY_DIRECTSOUNDDEVICE_DESCRIPTION_W_DATA)`, and the same for `_A_`. -/
  sizeofDescription : UInt32
  /-- `sizeof(DSPROPERTY_DIRECTSOUNDDEVICE_ENUMERATE_W_DATA)`. -/
  sizeofEnumerate : UInt32

/-- The sizes on a platform with pointers of 32 bits. -/
abbrev win32 : PropAbi := ⟨24, 40, 8⟩

/-- `DIRECTSOUNDDEVICE_DATAFLOW_RENDER` and `DIRECTSOUNDDEVICE_DATAFLOW_CAPTURE`. -/
def DataFlow.value : DataFlow → UInt32
  | render => 0
  | capture => 1

/-- `DIRECTSOUNDDEVICE_TYPE_WDM`. -/
def typeWdm : UInt32 := 2

/-- A string literal `"…"`. -/
def narrow (s : String) : List UInt8 := s.toList.map fun c ↦ c.toNat.toUInt8

/-- `L"Interface"`. -/
def interfaceW : WString := wide "Interface"

/-- The lists that `enumerate_mmdev` fills. -/
structure DeviceLists where
  gPlaybackDevices : List Guid := []
  gCaptureDevices : List Guid := []

namespace DeviceLists

/-- The list for a flow. -/
def get (lists : DeviceLists) : DataFlow → List Guid
  | .render => lists.gPlaybackDevices
  | .capture => lists.gCaptureDevices

/-- Store the list for a flow. -/
def set (lists : DeviceLists) (flow : DataFlow) (devlist : List Guid) : DeviceLists :=
  match flow with
  | .render => { lists with gPlaybackDevices := devlist }
  | .capture => { lists with gCaptureDevices := devlist }

end DeviceLists

/-- How a property function returns. -/
structure PropResult (δ : Type u) where
  hr : HResult
  data : Option δ
  returned : Option UInt32

/-! ## The device for a name -/

/-- `DSPROPERTY_DIRECTSOUNDDEVICE_WAVEDEVICEMAPPING_W_DATA`, or `_A_` by its strings. -/
structure WaveDeviceMapping (χ : Type u) where
  dataFlow : UInt32
  deviceName : Option χ
  deviceId : Guid
  deriving DecidableEq

section

variable [WinStrings] [PropAbi]

open WinStrings PropAbi

/-- The result of `lstrcmpW` is 0; a null pointer is only equal to another. -/
def equalName (devname : WString) : Option WString → Bool
  | none => false
  | some name => lstrcmpW devname name

/-- `find_target`. -/
def findTarget (ppd : WaveDeviceMapping WString) (call : EnumCall) :
    Option (Bool × WaveDeviceMapping WString) := do
  let devname ← call.devname
  if equalName devname ppd.deviceName then
    let guid ← call.guid
    some (false, { ppd with deviceId := guid })
  else some (true, ppd)

/-- The flow that is asked for. -/
def requestedFlow (dataFlow : UInt32) : Option DataFlow :=
  if dataFlow = DataFlow.capture.value then some .capture
  else if dataFlow ≠ DataFlow.render.value then none
  else some .render

/-- `DSPROPERTY_WaveDeviceMappingW`. -/
def waveDeviceMappingW (sys : MMSystem) (lists : DeviceLists)
    (pPropData : Option (WaveDeviceMapping WString)) (cbPropData : UInt32) :
    Option (PropResult (WaveDeviceMapping WString) × DeviceLists) :=
  match pPropData with
  | none => some (⟨.invalidParam, none, none⟩, lists)
  | some ppd =>
    if cbPropData < sizeofWaveDeviceMapping then
      some (⟨.invalidParam, some ppd, none⟩, lists)
    else
      match requestedFlow ppd.dataFlow with
      | none => some (⟨.invalidParam, some ppd, none⟩, lists)
      | some flow => do
        let (res, devlist, ppd) ← enumerateMmdev sys flow (lists.get flow) findTarget ppd
        let lists := lists.set flow devlist
        if res ≠ .stopped then some (⟨.invalidParam, some ppd, none⟩, lists)
        else some (⟨.ok, some ppd, some sizeofWaveDeviceMapping⟩, lists)

/-- `DSPROPERTY_WaveDeviceMappingA`. -/
def waveDeviceMappingA (sys : MMSystem) (lists : DeviceLists)
    (pPropData : Option (WaveDeviceMapping (List UInt8))) (cbPropData : UInt32) :
    Option (PropResult (WaveDeviceMapping (List UInt8)) × DeviceLists) :=
  match pPropData with
  | none => some (⟨.invalidParam, none, none⟩, lists)
  | some ppd =>
    if cbPropData < sizeofWaveDeviceMapping then
      some (⟨.invalidParam, some ppd, none⟩, lists)
    else
      match ppd.deviceName with
      | none => some (⟨.invalidParam, some ppd, none⟩, lists)
      | some deviceName => do
        let data := ⟨ppd.dataFlow, some (multiByteToWideChar deviceName), .null⟩
        let (r, lists) ← waveDeviceMappingW sys lists (some data) cbPropData
        match r.hr, r.data with
        | .ok, some data =>
          some (⟨.ok, some { ppd with deviceId := data.deviceId },
            some sizeofWaveDeviceMapping⟩, lists)
        | hr, _ => some (⟨hr, some ppd, none⟩, lists)

end

/-! ## The description of a device -/

/-- `DSPROPERTY_DIRECTSOUNDDEVICE_DESCRIPTION_W_DATA`, or `_A_` by its strings; the strings are
`Description`, `Module` and `Interface`. -/
structure Description (χ : Type u) where
  type : UInt32 := 0
  dataFlow : UInt32 := 0
  deviceId : Guid := .null
  description : Option χ := none
  moduleName : Option χ := none
  interfaceName : Option χ := none
  waveDeviceId : UInt32 := 0
  deriving DecidableEq

/-- `DSPROPERTY_DIRECTSOUNDDEVICE_DESCRIPTION_1_DATA`. -/
structure Description1 where
  deviceId : Guid
  descriptionA : List UInt8
  descriptionW : WString
  moduleA : List UInt8
  moduleW : WString
  type : UInt32
  dataFlow : UInt32
  waveDeviceId : UInt32
  devnode : UInt32
  deriving DecidableEq

/-- What happens in a call of `DSPROPERTY_DescriptionW`. -/
structure DescriptionEnv where
  /-- The system when `GetDeviceID` is called. -/
  endpoints : DefaultEndpoints
  /-- And in the first and in the second call of `GetMMDevice`. -/
  render : MMSystem
  capture : MMSystem
  /-- The device that is found opens its property store another time. -/
  openPropertyStore : MMDevice → Except Failure PropertyStore
  /-- `_wcsdup` has memory for `Description`, `Module` and `Interface`. -/
  wcsdup : Bool × Bool × Bool

/-- Nothing changes in the system, and there is enough memory. -/
def MMSystem.descriptionEnv [WinStrings] (sys : MMSystem) : DescriptionEnv :=
  ⟨sys.query, sys, sys, MMDevice.openPropertyStore, (true, true, true)⟩

section

variable [WinStrings] [PropAbi]

open WinStrings PropAbi

/-- The device that is described; for `GUID_NULL` it is the default device of a flow. -/
def describedDevice (deviceId : Guid) (dataFlow : UInt32) : Option Guid :=
  if deviceId = .null then
    if dataFlow = DataFlow.render.value then some .defaultPlayback
    else if dataFlow = DataFlow.capture.value then some .defaultCapture
    else none
  else some deviceId

/-- The device that `DSPROPERTY_DescriptionW` looks up, of either flow. -/
def lookupDevice (env : DescriptionEnv) (deviceId : Guid) : Option MMDevice :=
  -- what `GetDeviceID` returns is not looked at
  let devid := (getDeviceID env.endpoints deviceId .null).2
  match getMMDevice env.render .render devid with
  | some device => some device
  | none => getMMDevice env.capture .capture devid

/-- `_wcsdup`. -/
def wcsdup (s : WString) (enough : Bool) : Option WString := if enough then some s else none

/-- `DSPROPERTY_DescriptionW`. -/
def descriptionW (env : DescriptionEnv) (pPropData : Option (Description WString))
    (cbPropData : UInt32) : PropResult (Description WString) :=
  match pPropData with
  | none => ⟨.invalidParam, none, none⟩
  | some ppd =>
    if cbPropData < sizeofDescription then ⟨.invalidParam, some ppd, none⟩
    else
      match describedDevice ppd.deviceId ppd.dataFlow with
      | none => ⟨.propIdUnsupported, some ppd, none⟩
      | some deviceId =>
        let ppd := { ppd with deviceId := deviceId }
        match lookupDevice env deviceId with
        | none => ⟨.invalidParam, some ppd, none⟩
        | some device =>
          match env.openPropertyStore device with
          | .error hr => ⟨hr, some ppd, none⟩
          | .ok ps =>
            match ps.friendlyName with
            | .error hr => ⟨hr, some ppd, none⟩
            | .ok (.lpwstr name) =>
              ⟨.ok, some { ppd with
                  type := typeWdm
                  description := wcsdup name env.wcsdup.1
                  moduleName := wcsdup aldriverName env.wcsdup.2.1
                  interfaceName := wcsdup interfaceW env.wcsdup.2.2 },
                some sizeofDescription⟩
            -- the code returns the success code of `GetValue` here
            | .ok _ => ⟨.ok, some ppd, none⟩

/-- `DSPROPERTY_descWtoA`, with what `malloc` returns; `none` if it reads a string that is not
there.  The second value is false for a failure. -/
def descWtoA (dataW : Description WString) (dataA : Description (List UInt8))
    (malloc : Bool × Bool) : Option (Description (List UInt8) × Bool) := do
  let moduleName ← dataW.moduleName
  let description ← dataW.description
  let dataA := { dataA with
    type := dataW.type
    dataFlow := dataW.dataFlow
    deviceId := dataW.deviceId
    waveDeviceId := dataW.waveDeviceId
    interfaceName := some (narrow "Interface") }
  if malloc.1 && malloc.2 then
    some ({ dataA with
      moduleName := some (wideCharToMultiByte none moduleName)
      description := some (wideCharToMultiByte none description) }, true)
  else some ({ dataA with moduleName := none, description := none }, false)

/-- `DSPROPERTY_descWto1`; `none` if it reads a string that is not there. -/
def descWto1 (dataW : Description WString) : Option Description1 := do
  let description ← dataW.description
  let moduleName ← dataW.moduleName
  some {
    deviceId := dataW.deviceId
    descriptionW := description.take 255
    descriptionA := wideCharToMultiByte (some 255) (description.take 255)
    moduleW := moduleName.take 259
    moduleA := wideCharToMultiByte (some 259) (moduleName.take 259)
    type := dataW.type
    dataFlow := dataW.dataFlow
    waveDeviceId := dataW.waveDeviceId
    devnode := dataW.waveDeviceId }

/-- The description that `DSPROPERTY_DescriptionA` and `DSPROPERTY_Description1` ask for. -/
def describe (env : DescriptionEnv) (deviceId : Guid) (dataFlow : UInt32) :
    PropResult (Description WString) :=
  descriptionW env (some { deviceId := deviceId, dataFlow := dataFlow }) sizeofDescription

/-- `DSPROPERTY_DescriptionA`. -/
def descriptionA (env : DescriptionEnv) (malloc : Bool × Bool)
    (pPropData : Option (Description (List UInt8))) (cbPropData : UInt32) :
    Option (PropResult (Description (List UInt8))) :=
  match pPropData with
  | none => some ⟨.ok, none, some sizeofDescription⟩
  | some ppd =>
    if cbPropData < sizeofDescription then
      some ⟨.invalidParam, some ppd, some sizeofDescription⟩
    else
      let r := describe env ppd.deviceId ppd.dataFlow
      match r.hr, r.data with
      | .ok, some data => do
        let (ppd, converted) ← descWtoA data ppd malloc
        some ⟨if converted then .ok else .outOfMemory, some ppd, some sizeofDescription⟩
      | hr, _ => some ⟨hr, some ppd, some sizeofDescription⟩

/-- `sizeof(DSPROPERTY_DIRECTSOUNDDEVICE_DESCRIPTION_1_DATA)`. -/
def sizeofDescription1 : UInt32 := 1580

/-- `DSPROPERTY_Description1`. -/
def description1 (env : DescriptionEnv) (pPropData : Option Description1) (cbPropData : UInt32) :
    Option (PropResult Description1) :=
  match pPropData with
  | none => some ⟨.ok, none, some sizeofDescription1⟩
  | some ppd =>
    if cbPropData < sizeofDescription1 then
      some ⟨.invalidParam, some ppd, some sizeofDescription1⟩
    else
      let r := describe env ppd.deviceId ppd.dataFlow
      match r.hr, r.data with
      | .ok, some data => do
        let ppd ← descWto1 data
        some ⟨.ok, some ppd, some sizeofDescription1⟩
      | hr, _ => some ⟨hr, some ppd, some sizeofDescription1⟩

end

/-! ## The descriptions of all devices -/

section

variable [WinStrings] [PropAbi] {σ : Type v}

/-- `enum_render` and `enum_capture`; `none` if they copy a name that is no string. -/
def enumDevice (flow : DataFlow) (callback : σ → Description WString → Bool × σ) (context : σ)
    (call : EnumCall) : Option (Bool × σ) :=
  match call.guid with
  | none => some (true, context)
  | some _ =>
    match call.devname with
    | none => none
    | some devname =>
      some (callback context {
        type := typeWdm
        dataFlow := flow.value
        moduleName := some call.drvname
        description := some devname
        interfaceName := some interfaceW })

/-- How `DSPROPERTY_EnumerateW` returns. -/
def EnumResult.status : EnumResult → HResult
  | .ok | .stopped => .ok
  | .failed hr => hr

/-- `DSPROPERTY_EnumerateW`; `pPropData` says whether there is a `Callback`. -/
def enumerateW (sys : MMSystem) (lists : DeviceLists) (pPropData : Option Bool)
    (cbPropData : UInt32) (callback : σ → Description WString → Bool × σ) (context : σ) :
    Option (HResult × DeviceLists × σ) :=
  match pPropData with
  | none => some (.propIdUnsupported, lists, context)
  | some hasCallback =>
    if cbPropData < PropAbi.sizeofEnumerate ∨ !hasCallback then
      some (.propIdUnsupported, lists, context)
    else do
      let (res, devlist, context) ←
        enumerateMmdev sys .render lists.gPlaybackDevices (enumDevice .render callback) context
      let lists := lists.set .render devlist
      if res ≠ .ok then some (res.status, lists, context)
      else
        let (res, devlist, context) ←
          enumerateMmdev sys .capture lists.gCaptureDevices (enumDevice .capture callback) context
        some (res.status, lists.set .capture devlist, context)

end

end Dsoal
