import Dsoal.Core.Endpoints
import Dsoal.Core.FullDuplex
import Dsoal.Core.SourceContext

/-!
# Opening a device

`DSound8OAL::Initialize` with what it calls: `SharedDevice::GetById`, `CreateDeviceShare`, which
opens the OpenAL device and its context, and `GetSpeakerConfig`.  The lists of shared devices
and of OpenAL handles belong to the process.

A function returns `none` where it calls a method through a null `IMMDevice*`.
-/

namespace Dsoal

/-! ## The speaker configuration -/

namespace Speaker

def headphone : UInt32 := 1

def mono : UInt32 := 2

def quad : UInt32 := 3

def stereo : UInt32 := 4

def back5Point1 : UInt32 := 6

def wide7Point1 : UInt32 := 7

def surround7Point1 : UInt32 := 8

def surround5Point1 : UInt32 := 9

/-- `DSSPEAKER_COMBINED(c, g)`. -/
def combined (c g : UInt32) : UInt32 :=
  (c &&& (0xFF : UInt32)) ||| ((g &&& (0xFF : UInt32)) <<< (16 : UInt32))

/-- `DSSPEAKER_CONFIG(a)`. -/
def config (a : UInt32) : UInt32 := a &&& 0xFF

/-- `DSSPEAKER_GEOMETRY_WIDE`. -/
def geometryWide : UInt32 := 20

end Speaker

/-- The values `KSAUDIO_SPEAKER_…`, with the configuration each stands for, in the order in
which they are tried. -/
def speakerLayouts : List (UInt32 × UInt32) :=
  [(0xFF, Speaker.wide7Point1), (0x63F, Speaker.surround7Point1), (0x3F, Speaker.back5Point1),
    (0x60F, Speaker.surround5Point1), (0x33, Speaker.quad),
    (0x3, Speaker.combined Speaker.stereo Speaker.geometryWide), (0x4, Speaker.mono)]

/-- The configuration for `PKEY_AudioEndpoint_PhysicalSpeakers`. -/
def matchSpeakers (physSpeakers : UInt32) : Option UInt32 :=
  (speakerLayouts.find? fun l ↦ physSpeakers &&& l.1 == l.1).map Prod.snd

/-- `pv.value<ULONG>()`, if the type is one of the two that are asked for. -/
def PropVariant.number : PropVariant → Option UInt32
  | .ui4 n | .uint n => some n
  | _ => none

/-- `EndpointFormFactor::Headphones` and `EndpointFormFactor::Headset`. -/
def isHeadphones (formFactor : UInt32) : Bool := formFactor = 3 ∨ formFactor = 5

/-- The part of `GetSpeakerConfig` that reads the property store. -/
def PropertyStore.speakerConfig (ps : PropertyStore) : UInt32 :=
  match ps.physicalSpeakers with
  | .error _ => Speaker.surround7Point1
  | .ok pv =>
    match pv.number.bind matchSpeakers with
    | none => Speaker.surround7Point1
    | some speakerconf =>
      if Speaker.config speakerconf = Speaker.stereo then
        match ps.formFactor with
        | .error _ => speakerconf
        | .ok pv => if pv.number.any isHeadphones then Speaker.headphone else speakerconf
      else speakerconf

/-- `GetSpeakerConfig`, with what `OpenPropertyStore` returns. -/
def getSpeakerConfig (device : Option MMDevice)
    (openPropertyStore : MMDevice → Except Failure PropertyStore) : Option (Option UInt32) :=
  match device with
  | none => none
  | some device =>
    match openPropertyStore device with
    | .error _ => some none
    | .ok ps => some (some ps.speakerConfig)

/-! ## The OpenAL device -/

/-- The `ALCdevice`s and `ALCcontext`s that are open. -/
structure AlHandles where
  devices : List ℕ := []
  contexts : List ℕ := []
  deriving DecidableEq

namespace AlHandles

/-- `alcOpenDevice` has returned a device. -/
def openDevice (al : AlHandles) (device : ℕ) : AlHandles :=
  { al with devices := device :: al.devices }

/-- `alcCloseDevice`. -/
def closeDevice (al : AlHandles) (device : ℕ) : AlHandles :=
  { al with devices := al.devices.erase device }

/-- `alcCreateContext` has returned a context. -/
def createContext (al : AlHandles) (context : ℕ) : AlHandles :=
  { al with contexts := context :: al.contexts }

/-- `alcDestroyContext`. -/
def destroyContext (al : AlHandles) (context : ℕ) : AlHandles :=
  { al with contexts := al.contexts.erase context }

end AlHandles

/-- A `SharedDevice`, at the time of a call. -/
structure DeviceShare where
  mId : Guid
  mRef : UInt32
  sources : DeviceSources
  mExtensions : Extensions
  mRefresh : UInt32
  mSpeakerConfig : UInt32
  mDevice : ℕ
  mContext : ℕ

/-- What happens in a call of `CreateDeviceShare`. -/
structure ShareEnv where
  sys : MMSystem
  /-- The device that is found opens its property store another time. -/
  openPropertyStore : MMDevice → Except Failure PropertyStore
  /-- `StringFromCLSID` succeeds, and the string it returns can be converted. -/
  drvName : Bool
  alcOpenDevice : Option ℕ
  alcCreateContext : Option ℕ
  /-- The extensions that are present, `AL_EXT_STATIC_BUFFER` apart. -/
  extensions : Extensions
  staticBuffer : Bool
  /-- What is stored for `ALC_MONO_SOURCES`, `ALC_STEREO_SOURCES` and `ALC_REFRESH`. -/
  numMono : Int32 := 0
  numStereo : Int32 := 0
  refresh : Int32 := 20

/-- `std::clamp(refresh, 20, 100)`. -/
def clampRefresh (refresh : Int32) : Int32 :=
  if refresh < 20 then 20 else if 100 < refresh then 100 else refresh

section

variable [WinStrings]

/-- `CreateDeviceShare`, with the handles that are open afterwards. -/
def createDeviceShare (env : ShareEnv) (guid : Guid) (al : AlHandles) :
    Option (Except HResult DeviceShare × AlHandles) :=
  match getSpeakerConfig (getMMDevice env.sys .render guid) env.openPropertyStore with
  | none => none
  | some config =>
    let speakerconf := config.getD Speaker.surround7Point1
    if !env.drvName then some (.error .outOfMemory, al)
    else
      match env.alcOpenDevice with
      | none => some (.error .noDriver, al)
      | some aldev =>
        let al := al.openDevice aldev
        match env.alcCreateContext with
        | none => some (.error .noDriver, al.closeDevice aldev)
        | some alctx =>
          let al := al.createContext alctx
          -- the context is destroyed before the device, in the reverse order of the variables
          let undone := (al.destroyContext alctx).closeDevice aldev
          if !env.staticBuffer then some (.error .noDriver, undone)
          else
            let numMono := if env.numMono < 0 then 0 else env.numMono
            let numStereo := if env.numStereo < 0 then 0 else env.numStereo
            let totalSources := numMono.toUInt32 + numStereo.toUInt32
            match DeviceSources.create totalSources with
            | none => some (.error .outOfMemory, undone)
            | some sources => some (.ok {
                mId := guid
                mRef := 1
                sources
                mExtensions := env.extensions
                mRefresh := (clampRefresh env.refresh).toUInt32
                mSpeakerConfig := speakerconf
                mDevice := aldev
                mContext := alctx }, al)

/-- Find the first device with an identifier, and add a reference to it. -/
def addRefById (deviceId : Guid) : List DeviceShare → Option (DeviceShare × List DeviceShare)
  | [] => none
  | share :: sDeviceList =>
    if share.mId = deviceId then
      let share := { share with mRef := share.mRef + 1 }
      some (share, share :: sDeviceList)
    else (addRefById deviceId sDeviceList).map fun r ↦ (r.1, share :: r.2)

/-- `SharedDevice::GetById`, with the list and the handles afterwards. -/
def sharedGetById (env : ShareEnv) (deviceId : Guid) (sDeviceList : List DeviceShare)
    (al : AlHandles) : Option (Except HResult DeviceShare × List DeviceShare × AlHandles) :=
  match addRefById deviceId sDeviceList with
  | some (share, sDeviceList) => some (.ok share, sDeviceList, al)
  | none =>
    match createDeviceShare env deviceId al with
    | none => none
    | some (.error hr, al) => some (.error hr, sDeviceList, al)
    | some (.ok share, al) => some (.ok share, sDeviceList ++ [share], al)

/-! ## `Initialize` -/

/-- A `DSound8OAL`, with the members that only `Initialize` sets, and the process. -/
structure OpenState where
  object : DSound8OAL
  mRefresh : UInt32 := 100
  /-- `mPrimaryBuffer.mContext`. -/
  mContext : Option ℕ := none
  sDeviceList : List DeviceShare := []
  al : AlHandles := {}

/-- What happens in a call of `Initialize`. -/
structure OpenEnv where
  share : ShareEnv
  /-- The system when `GetDeviceID` is called. -/
  endpoints : DefaultEndpoints
  /-- What the allocator does in the loop that preallocates groups. -/
  allocs : List (Option ℕ × Bool)

/-- `DSound8OAL::Initialize`. -/
def initializeOpen (s : OpenState) (deviceId : Option Guid) (env : OpenEnv) :
    Option (HResult × OpenState) :=
  if s.object.mShared.isSome then some (.alreadyInitialized, s)
  else
    match chooseDevice .defaultPlayback .defaultCapture .defaultVoiceCapture deviceId with
    | none => some (.noDriver, s)
    | some deviceId =>
      let (hr, devid) := getDeviceID env.endpoints deviceId .null
      if hr.failed then some (hr, s)
      else
        match sharedGetById env.share devid s.sDeviceList s.al with
        | none => none
        | some (.error hr, sDeviceList, al) =>
          some (hr, { s with sDeviceList := sDeviceList, al := al })
        | some (.ok share, sDeviceList, al) =>
          some (.ok, {
            object := { s.object with
              mShared := some share.sources
              mExtensions := share.mExtensions
              mSecondaryBuffers := preallocate env.allocs s.object.mSecondaryBuffers }
            mRefresh := share.mRefresh
            mContext := some share.mContext
            sDeviceList := sDeviceList
            al := al })

end

end Dsoal
