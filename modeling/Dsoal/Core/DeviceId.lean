import Dsoal.Core.Basic

/-!
# Device identifiers

`DSound8OAL::Initialize` and `DSCapture::Initialize` are given the GUID of an endpoint, of
one of the default devices, or none.  `GetDeviceID` asks the system for the endpoint that a
default device stands for.
-/

namespace Dsoal

/-- `GUID`; the eight bytes of `Data4` are one number. -/
structure Guid where
  Data1 : UInt32
  Data2 : UInt16
  Data3 : UInt16
  Data4 : UInt64
  deriving DecidableEq, Repr

namespace Guid

/-- `GUID_NULL`, also the value of `GUID{}`. -/
def null : Guid := ⟨0, 0, 0, 0⟩

/-- A default device; the four differ in `Data1`. -/
def defaultDevice (Data1 : UInt32) : Guid := ⟨Data1, 0x9C6D, 0x47ED, 0xAAF14DDA8F2B5C03⟩

/-- `DSDEVID_DefaultPlayback`. -/
def defaultPlayback : Guid := defaultDevice 0xDEF00000

/-- `DSDEVID_DefaultCapture`. -/
def defaultCapture : Guid := defaultDevice 0xDEF00001

/-- `DSDEVID_DefaultVoicePlayback`. -/
def defaultVoicePlayback : Guid := defaultDevice 0xDEF00002

/-- `DSDEVID_DefaultVoiceCapture`. -/
def defaultVoiceCapture : Guid := defaultDevice 0xDEF00003

end Guid

/-- `EDataFlow`. -/
inductive DataFlow where
  | render | capture
  deriving DecidableEq, Repr

/-- `ERole`, of the roles that are asked for. -/
inductive Role where
  | multimedia | communications
  deriving DecidableEq, Repr

/-- What the calls for a default endpoint return.  The value is `none` if it is no string,
and otherwise what `CLSIDFromString` makes of it. -/
structure EndpointQuery where
  coCreateInstance : HResult := .ok
  getDefaultAudioEndpoint : HResult := .ok
  openPropertyStore : HResult := .ok
  getValue : HResult := .ok
  value : Option Guid := none
  deriving DecidableEq, Repr

/-- The default endpoints of the system, at the time of a call. -/
abbrev DefaultEndpoints := DataFlow → Role → EndpointQuery

/-- The flow and the role a default device stands for. -/
def defaultRole (guidSrc : Guid) : Option (DataFlow × Role) :=
  if guidSrc = .defaultPlayback then some (.render, .multimedia)
  else if guidSrc = .defaultVoicePlayback then some (.render, .communications)
  else if guidSrc = .defaultCapture then some (.capture, .multimedia)
  else if guidSrc = .defaultVoiceCapture then some (.capture, .communications)
  else none

/-- `GetDeviceID`, with the value its argument `guidDst` has afterwards. -/
def getDeviceID (sys : DefaultEndpoints) (guidSrc guidDst : Guid) : HResult × Guid :=
  match defaultRole guidSrc with
  | none => (.ok, guidSrc)
  | some (flow, role) =>
    let q := sys flow role
    if q.coCreateInstance.failed then (q.coCreateInstance, guidDst)
    else if q.getDefaultAudioEndpoint.failed then (.noDriver, guidDst)
    else if q.openPropertyStore.failed then (q.openPropertyStore, guidDst)
    else if q.getValue.failed then (q.getValue, guidDst)
    else
      match q.value with
      -- the code returns the success code of `GetValue` here
      | none => (q.getValue, guidDst)
      | some guid => (.ok, guid)

/-- The device `Initialize` takes: `fallback` for no identifier, and none for the two default
devices of the other direction. -/
def chooseDevice (fallback other otherVoice : Guid) : Option Guid → Option Guid
  | none => some fallback
  | some deviceId =>
    if deviceId = .null then some fallback
    else if deviceId = other ∨ deviceId = otherVoice then none
    else some deviceId

end Dsoal
