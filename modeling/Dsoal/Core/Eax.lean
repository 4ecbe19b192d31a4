import Dsoal.Core.SourceContext

/-!
# EAX properties of a buffer

The EAX properties of a buffer are those of its source: `Prop::Set` and `Prop::Get` hand
them to OpenAL, with `EAXSet` and `EAXGet`, and the program keeps no copy.  For a buffer
without a source `Prop::Set` generates one, which `setLocation` adopts when it locates the
buffer.  `setLocation` deletes the source of another location, and writes the active
effect slots of a buffer without 3D controls.

The EAX implementation is a parameter, `EaxApi`: on every source it keeps a value for each
key.  Of the rest of the program `EaxBuffer` has one buffer; what the buffer reads of its
object and of the device is an argument of each operation.
-/

namespace Dsoal

/-- The property sets of an EAX source: `EAXPROPERTYID_EAX40_Source` and
`DSPROPSETID_EAX30_BufferProperties` with its two predecessors. -/
inductive EaxSet where
  | eax40Source | eax30Buffer | eax20Buffer | eax10Buffer
  deriving DecidableEq, Repr

/-- A property: `guidPropSet` and `dwPropID`. -/
abbrev EaxProp := EaxSet × UInt32

/-- `EAXSOURCE_ACTIVEFXSLOTID`. -/
def eaxSourceActiveFxSlotID : UInt32 := 27

/-- The EAX implementation.  Different properties may have the same key, as those of
different versions or with and without the bit for deferred settings. -/
structure EaxApi (κ V : Type) where
  key : EaxProp → κ
  /-- The values of a new source. -/
  default : κ → V
  /-- Whether `EAXSet` accepts a value. -/
  accepts : κ → V → Bool
  /-- The value of `NullSlots`. -/
  nullSlots : V

/-- The key of the active effect slots. -/
def EaxApi.activeFxSlots {κ V : Type} (api : EaxApi κ V) : κ :=
  api.key (.eax40Source, eaxSourceActiveFxSlotID)

/-- A buffer with the EAX properties of its source. -/
structure EaxBuffer (κ V : Type) where
  buffer : Buffer
  /-- The properties of the source, if the buffer has one. -/
  eax : κ → V
  /-- The last value each property has been set to.  This is not part of the program. -/
  lastSet : κ → Option V

namespace EaxBuffer

variable {κ V : Type} [DecidableEq κ] (api : EaxApi κ V)

/-- `EAXSet` on the source of the buffer, which fails for the source 0. -/
def eaxSet (s : EaxBuffer κ V) (k : κ) (value : V) : Bool × EaxBuffer κ V :=
  if s.buffer.mSource.isSome ∧ api.accepts k value then
    (true, { s with eax := Function.update s.eax k value })
  else (false, s)

/-- `EAXGet` on the source of the buffer. -/
def eaxGet (s : EaxBuffer κ V) (k : κ) : Option V :=
  if s.buffer.mSource.isSome then some (s.eax k) else none

/-- `if(mSource == 0) alGenSources(1, &mSource)`. -/
def genSource (room : Bool) (s : EaxBuffer κ V) : EaxBuffer κ V :=
  { s with
    buffer := s.buffer.genSourceIn room
    eax := if s.buffer.mSource.isSome then s.eax else api.default }

/-- `Buffer::setLocation`. -/
def setLocation (room : Bool) (parent : Parent) (s : EaxBuffer κ V) (dev : DeviceSources)
    (want : LocStatus) : Option (HResult × EaxBuffer κ V × DeviceSources) :=
  if want ≠ .none ∧ s.buffer.mLocStatus = want then some (.ok, s, dev)
  else if want = .none ∧ s.buffer.mLocStatus ≠ .none then some (.ok, s, dev)
  else
    let (b, dev) := s.buffer.leaveLocation dev
    match dev.acquire want with
    | none => some (.allocated, { s with buffer := b }, dev)
    | some (k, dev) => do
      let sb ← b.mBuffer
      let s := genSource api room { s with buffer := b }
      let b := s.buffer.writeSource (s.buffer.locationWrites parent sb)
      let s := if !hasFlag sb.mFlags Caps.ctrl3D ∧ parent.mExtensions.eax then
        (eaxSet api { s with buffer := b } api.activeFxSlots api.nullSlots).2
        else { s with buffer := b }
      some (.ok, { s with buffer := { b with mLocStatus := .loc k } }, dev)

/-- The call of `setLocation` in a method, if there is one. -/
def locate (room : Bool) (parent : Parent) (s : EaxBuffer κ V) (dev : DeviceSources)
    (call : Option LocStatus) : Option (EaxBuffer κ V) :=
  call.elim (some s) fun want ↦ (s.setLocation api room parent dev want).map fun r ↦ r.2.1

/-- `Buffer::Play`: to the EAX properties it does what its call of `setLocation` does. -/
def play (room : Bool) (parent : Parent) (s : EaxBuffer κ V) (dev : DeviceSources)
    (priority flags : UInt32) (started : Bool) : Option (EaxBuffer κ V) := do
  let (_, b, _, _) ← s.buffer.playIn room parent dev priority flags started
  let t ← s.locate api room parent dev (s.buffer.playCall flags)
  some { t with buffer := b }

/-- `Buffer::AcquireResources`. -/
def acquireResources (room : Bool) (parent : Parent) (s : EaxBuffer κ V) (dev : DeviceSources)
    (flags effectsCount : UInt32) (resultCodes : Bool) : Option (EaxBuffer κ V) := do
  let (_, b, _) ← s.buffer.acquireResourcesIn room parent dev flags effectsCount resultCodes
  let t ← s.locate api room parent dev (s.buffer.acquireCall flags effectsCount resultCodes)
  some { t with buffer := b }

/-- `Prop::Set` of a property of an EAX source. -/
def propSet (room : Bool) (parent : Parent) (s : EaxBuffer κ V) (p : EaxProp) (value : V) :
    HResult × EaxBuffer κ V :=
  if !parent.mExtensions.eax then (.propIdUnsupported, s)
  else
    let s := s.genSource api room
    let (ok, s) := s.eaxSet api (api.key p) value
    if ok then (.ok, { s with lastSet := Function.update s.lastSet (api.key p) (some value) })
    else (.fail, s)

/-- `Prop::Get` of a property of an EAX source. -/
def propGet (parent : Parent) (s : EaxBuffer κ V) (p : EaxProp) : Except HResult V :=
  if !parent.mExtensions.eax then .error .propIdUnsupported
  else
    match s.eaxGet (api.key p) with
    | some value => .ok value
    | none => .error .fail

end EaxBuffer

/-- A call of a method, with what the buffer reads of its object and of the device. -/
inductive EaxOp (V : Type) where
  | propSet (room : Bool) (parent : Parent) (p : EaxProp) (value : V)
  | play (room : Bool) (parent : Parent) (dev : DeviceSources) (priority flags : UInt32)
    (started : Bool)
  | acquireResources (room : Bool) (parent : Parent) (dev : DeviceSources)
    (flags effectsCount : UInt32) (resultCodes : Bool)
  /-- Any other change of the buffer, to `b`: neither does it get or lose a source, nor does
  its location change. -/
  | other (b : Buffer)

namespace EaxBuffer

variable {κ V : Type} [DecidableEq κ] (api : EaxApi κ V)

/-- Perform a call. -/
def exec (s : EaxBuffer κ V) : EaxOp V → Option (EaxBuffer κ V)
  | .propSet room parent p value => some (s.propSet api room parent p value).2
  | .play room parent dev priority flags started =>
    s.play api room parent dev priority flags started
  | .acquireResources room parent dev flags effectsCount resultCodes =>
    s.acquireResources api room parent dev flags effectsCount resultCodes
  | .other b =>
    if b.mSource.isSome = s.buffer.mSource.isSome ∧ b.mLocStatus = s.buffer.mLocStatus then
      some { s with buffer := b }
    else none

/-- No property has been set. -/
def IsNew (s : EaxBuffer κ V) : Prop := s.lastSet = fun _ ↦ none

end EaxBuffer

end Dsoal
