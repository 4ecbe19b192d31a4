import Dsoal.Core.FullDuplex
import Dsoal.Lib.AtomicObject

/-!
# The exported functions and the class factories

The library exports functions that create objects: `DirectSoundCreate` and its four siblings
initialize the object as well, `DllGetClassObject` gives out one of six class factories, whose
`CreateInstance` does not.  The objects are counted references of the client.

The factories are static, and their counters stop at zero.  `Release` of a `Factory` therefore
reads the counter and exchanges it, again and again until nothing has come in between; for this
the counter is a cell that several threads work on (`Factory.counter`).  The rest of the file has
one call as one step.
-/

namespace Dsoal

open AtomicObject

/-- An `HRESULT`: of the library, or one of COM's own. -/
inductive ComResult where
  | ds (hr : HResult)
  | pointer | classNotAvailable
  deriving DecidableEq, Repr

/-- `S_OK`. -/
abbrev ComResult.ok : ComResult := .ds .ok

/-! ## The reference counter of a factory -/

/-- The interface identifiers that `Factory::QueryInterface` knows. -/
inductive FactoryIid where
  | iidUnknown | iidClassFactory
  /-- Any other identifier. -/
  | unhandled
  deriving DecidableEq, Repr

/-- A call of a method of `Factory` that counts references. -/
inductive FactoryMethod where
  | queryInterface (riid : FactoryIid) (ppvObject : Bool)
  | addRef
  | release
  deriving DecidableEq, Repr

/-- What such a call returns. -/
inductive FactoryValue where
  | status (hr : ComResult)
  | count (ref : UInt32)
  deriving DecidableEq, Repr

namespace Factory

/-- `Factory::QueryInterface`, as far as it is not `AddRef`. -/
def queryInterface (riid : FactoryIid) (ppvObject : Bool) : ComResult :=
  if !ppvObject then .pointer
  else
    match riid with
    | .iidUnknown | .iidClassFactory => .ok
    | .unhandled => .ds .noInterface

/-- `mRef` of a `Factory`: `AddRef` is a `fetch_add`, `Release` a loop of
`compare_exchange_weak` that stops at zero. -/
def counter : Retry UInt32 FactoryMethod FactoryValue where
  next
    | .queryInterface riid ppvObject, ref =>
      if queryInterface riid ppvObject = .ok then some (ref + 1) else none
    | .addRef, ref => some (ref + 1)
    | .release, ref => if ref = 0 then none else some (ref - 1)
  result
    | .queryInterface riid ppvObject, _ => .status (queryInterface riid ppvObject)
    | .addRef, ref => .count (ref + 1)
    | .release, ref => .count (if ref = 0 then ref else ref - 1)
  retries
    | .release => true
    | _ => false

end Factory

/-! ## The objects -/

/-- The classes of `sFactories`. -/
inductive ClassId where
  | object (clsid : Clsid)
  /-- `CLSID_DirectSoundPrivate`. -/
  | directSoundPrivate
  deriving DecidableEq, Repr

/-- An interface of an object, by its counter; `none` is the interface of a
`DSPrivatePropertySet`. -/
abbrev Iface := Option RefCounter

/-- What the `QueryInterface` of an object looks at. -/
inductive ExportedKind where
  | multi (o : MultiObject)
  | privatePropertySet
  deriving DecidableEq, Repr

namespace ExportedKind

/-- The interface the object is created with. -/
def primary : ExportedKind → Iface
  | multi o => some o.primary
  | privatePropertySet => none

/-- `QueryInterface`: the interface it adds a reference to. -/
def queryInterface : ExportedKind → Riid → Option Iface
  | multi o, riid => (o.queryInterface riid).map some
  | privatePropertySet, .iidUnknown | privatePropertySet, .iidKsPropertySet => some none
  | privatePropertySet, _ => none

end ExportedKind

/-- The kind of an object. -/
def FactoryObject.kind : FactoryObject → ExportedKind
  | dsound s => .multi (.dsound8OAL s.mIs8)
  | capture _ => .multi .dscapture
  | fullDuplex _ => .multi .dsfullDuplex

/-- An object that an exported function has created. -/
structure ExportedObject where
  kind : ExportedKind
  /-- The object itself, other than a `DSPrivatePropertySet`. -/
  object : Option FactoryObject
  /-- All references together, which is `mRef` of a `DSPrivatePropertySet`. -/
  mTotalRef : UInt32
  /-- The references of each interface that is counted. -/
  mRef : RefCounter → UInt32

namespace ExportedObject

/-- An object right after its construction. -/
def construct (kind : ExportedKind) (object : Option FactoryObject) : ExportedObject where
  kind := kind
  object := object
  mTotalRef := 1
  mRef i := if kind.primary = some i then 1 else 0

/-- `AddRef` of an interface. -/
def addRef (o : ExportedObject) : Iface → ExportedObject
  | none => { o with mTotalRef := o.mTotalRef + 1 }
  | some i =>
    { o with mTotalRef := o.mTotalRef + 1, mRef := Function.update o.mRef i (o.mRef i + 1) }

/-- `Release` of an interface; `none` if the object deletes itself. -/
def release (o : ExportedObject) : Iface → Option ExportedObject
  | none => if o.mTotalRef - 1 = 0 then none else some { o with mTotalRef := o.mTotalRef - 1 }
  | some i =>
    if o.mTotalRef = 1 then none
    else some
      { o with mTotalRef := o.mTotalRef - 1, mRef := Function.update o.mRef i (o.mRef i - 1) }

end ExportedObject

/-! ## The calls -/

/-- The objects at their addresses, the factories, and the references the client has been given
and has not released. -/
structure ComWorld where
  objects : ℕ → Option ExportedObject := fun _ ↦ none
  factories : ClassId → UInt32 := fun _ ↦ 0
  client : ℕ → Iface → ℕ := fun _ _ ↦ 0

/-- An exported function that creates an object and initializes it, with what `Initialize` is
given and what happens in it. -/
inductive CreateFunction where
  /-- `DirectSoundCreate8`, or `DirectSoundCreate`. -/
  | directSoundCreate (is8 : Bool) (deviceId : Option Guid) (env : DeviceEnv)
  /-- `DirectSoundCaptureCreate8`, or `DirectSoundCaptureCreate`. -/
  | directSoundCaptureCreate (is8 : Bool) (deviceId : Option Guid) (sys : DefaultEndpoints)
    (stringFromCLSID : Guid → String)
  /-- `DirectSoundFullDuplexCreate`. -/
  | directSoundFullDuplexCreate (args : FullDuplexArgs)

namespace CreateFunction

/-- `Create` of the class. -/
def create : CreateFunction → FactoryObject
  | directSoundCreate is8 .. => .dsound (.new is8)
  | directSoundCaptureCreate is8 .. => .capture { mIs8 := is8 }
  | directSoundFullDuplexCreate _ => .fullDuplex {}

/-- `Initialize` of the new object. -/
def initializeNew [Abi] : CreateFunction → Option (HResult × FactoryObject)
  | directSoundCreate is8 deviceId env =>
    let (hr, s) := (DSound8OAL.new is8).initializeDevice deviceId env
    some (hr, .dsound s)
  | directSoundCaptureCreate is8 deviceId sys stringFromCLSID =>
    let (hr, s) := ({ mIs8 := is8 } : DSCapture).initializeCapture deviceId sys stringFromCLSID
    some (hr, .capture s)
  | directSoundFullDuplexCreate args => do
    let (hr, s) ← ({} : DSFullDuplex).initializeFullDuplex args
    some (hr, .fullDuplex s)

end CreateFunction

/-- `Create` of a class of `sFactories`. -/
def ClassId.construct : ClassId → ExportedObject
  | object clsid => .construct (createObj clsid).kind (some (createObj clsid))
  | directSoundPrivate => .construct .privatePropertySet none

/-- A call of the client.  A pointer that is an output is given by whether it is there, and `a` is
the address at which a new object is allocated, if there is memory. -/
inductive ComCall where
  | create (f : CreateFunction) (ds outer : Bool) (a : Option ℕ)
  /-- `DllGetClassObject`; `none` is the identifier of another class. -/
  | getClassObject (clsid : Option ClassId) (riid : FactoryIid) (ppv : Bool)
  | factoryAddRef (clsid : ClassId)
  | factoryRelease (clsid : ClassId)
  | createInstance (clsid : ClassId) (unkOuter : Bool) (riid : Riid) (ppvObject : Bool)
    (a : Option ℕ)
  | addRef (a : ℕ) (i : Iface)
  | queryInterface (a : ℕ) (i : Iface) (riid : Riid) (ppvObject : Bool)
  | release (a : ℕ) (i : Iface)

namespace ComWorld

/-- Store an object, or what is left of it. -/
def setObject (w : ComWorld) (a : ℕ) (o : Option ExportedObject) : ComWorld :=
  { w with objects := Function.update w.objects a o }

/-- The client is given a reference. -/
def give (w : ComWorld) (a : ℕ) (i : Iface) : ComWorld :=
  let held := Function.update (w.client a) i (w.client a i + 1)
  { w with client := Function.update w.client a held }

/-- The client releases a reference. -/
def take (w : ComWorld) (a : ℕ) (i : Iface) : ComWorld :=
  let held := Function.update (w.client a) i (w.client a i - 1)
  { w with client := Function.update w.client a held }

/-- `AddRef` of an object. -/
def addRefAt (w : ComWorld) (a : ℕ) (i : Iface) : Option ComWorld := do
  let o ← w.objects a
  some (w.setObject a (some (o.addRef i)))

/-- `Release` of an object. -/
def releaseAt (w : ComWorld) (a : ℕ) (i : Iface) : Option ComWorld := do
  let o ← w.objects a
  some (w.setObject a (o.release i))

/-- `QueryInterface` of an object. -/
def queryInterfaceAt (w : ComWorld) (a : ℕ) (riid : Riid) (ppvObject : Bool) :
    Option (ComResult × ComWorld) := do
  let o ← w.objects a
  if !ppvObject then some (.pointer, w)
  else
    match o.kind.queryInterface riid with
    | none => some (.ds .noInterface, w)
    | some j => do
      let w ← w.addRefAt a j
      some (.ok, w.give a j)

/-- The five functions that create an object and initialize it. -/
def create [Abi] (w : ComWorld) (f : CreateFunction) (ds outer : Bool) (a : Option ℕ) :
    Option (ComResult × ComWorld) :=
  if !ds then some (.ds .invalidParam, w)
  else if outer then some (.ds .invalidParam, w)
  else
    match a with
    -- `std::bad_alloc` is caught
    | none => some (.ds .outOfMemory, w)
    | some a => do
      let (hr, object) ← f.initializeNew
      let o := ExportedObject.construct f.create.kind (some object)
      let w := w.setObject a (some o)
      if hr.succeeded then some (.ok, w.give a o.kind.primary)
      else do
        -- the destructor of `dsobj`
        let w ← w.releaseAt a o.kind.primary
        some (.ds hr, w)

/-- A method of a factory, one at a time. -/
def factoryCall (w : ComWorld) (clsid : ClassId) (m : FactoryMethod) : FactoryValue × ComWorld :=
  let (value, ref) := Factory.counter.spec (w.factories clsid) m
  (value, { w with factories := Function.update w.factories clsid ref })

/-- `DllGetClassObject` and `Factory::GetFactory`. -/
def getClassObject (w : ComWorld) (clsid : Option ClassId) (riid : FactoryIid) (ppv : Bool) :
    ComResult × ComWorld :=
  if !ppv then (.ds .invalidParam, w)
  else
    match clsid with
    | none => (.classNotAvailable, w)
    | some clsid =>
      (Factory.queryInterface riid ppv, (w.factoryCall clsid (.queryInterface riid ppv)).2)

/-- `Factory::CreateInstance`; there is no result if `CreateObj` throws. -/
def createInstance (w : ComWorld) (clsid : ClassId) (unkOuter : Bool) (riid : Riid)
    (ppvObject : Bool) (a : Option ℕ) : Option (ComResult × ComWorld) :=
  if !ppvObject then some (.ds .invalidParam, w)
  else if unkOuter then some (.ds .noAggregation, w)
  else do
    let a ← a
    let o := clsid.construct
    let (hr, w) ← (w.setObject a (some o)).queryInterfaceAt a riid ppvObject
    let w ← w.releaseAt a o.kind.primary
    some (hr, w)

/-- Perform a call.  The client calls objects through references it has, and new objects are
allocated where there is none. -/
def exec [Abi] (w : ComWorld) : ComCall → Option (ComResult × ComWorld)
  | .create f ds outer a =>
    if ∀ a' ∈ a, (w.objects a').isNone then w.create f ds outer a else none
  | .getClassObject clsid riid ppv => some (w.getClassObject clsid riid ppv)
  | .factoryAddRef clsid => some (.ok, (w.factoryCall clsid .addRef).2)
  | .factoryRelease clsid => some (.ok, (w.factoryCall clsid .release).2)
  | .createInstance clsid unkOuter riid ppvObject a =>
    if ∀ a' ∈ a, (w.objects a').isNone then w.createInstance clsid unkOuter riid ppvObject a
    else none
  | .addRef a i =>
    if 0 < w.client a i then do
      let w ← w.addRefAt a i
      some (.ok, w.give a i)
    else none
  | .queryInterface a i riid ppvObject =>
    if 0 < w.client a i then w.queryInterfaceAt a riid ppvObject else none
  | .release a i =>
    if 0 < w.client a i then do
      let w ← w.releaseAt a i
      some (.ok, w.take a i)
    else none

/-- A new reference to an object that exists is only taken while there is room for it in a
`ULONG`. -/
def Fits (w : ComWorld) : ComCall → Prop
  | .addRef a _ | .queryInterface a .. => ∑ i, w.client a i + 1 < 2 ^ 32
  | _ => True

instance (w : ComWorld) : (c : ComCall) → Decidable (w.Fits c)
  | .addRef .. | .queryInterface .. => inferInstanceAs (Decidable (_ < _))
  | .create .. | .getClassObject .. | .factoryAddRef _ | .factoryRelease _ | .createInstance ..
  | .release .. => inferInstanceAs (Decidable True)

/-- A library that has just been loaded. -/
def IsNew (w : ComWorld) : Prop := w = {}

end ComWorld

/-- One call that returns. -/
def ComStep [Abi] (w : ComWorld) (c : ComCall) (w' : ComWorld) : Prop :=
  ∃ hr, w.exec c = some (hr, w')

end Dsoal
