import Mathlib.Data.Fintype.BigOperators
import Mathlib.Logic.Function.Basic

/-!
# Shared devices

Every `DSound8OAL` opened on one device shares a `SharedDevice`, which
`SharedDevice::GetById` finds in the global `sDeviceList` or creates, with the
list mutex held, and which the last `Release` disposes of.  `Release` lowers
`mRef` without the mutex; only `dispose` takes it, looks for the device in the
list and deletes it.

Memory is a partial map from addresses to devices, and an address can be used
again after its device has been deleted.  To tell the devices that lived at one
address apart each carries the number it was created with, and a reference is an
address together with the number of the device it was taken on.
-/

universe u v

namespace Dsoal

/-- A `SharedDevice`, as far as its sharing goes. -/
structure SharedDevice (γ : Type u) where
  /-- The GUID it was opened with. -/
  mId : γ
  /-- The reference count, a `std::atomic<ULONG>`. -/
  mRef : UInt32
  /-- How many devices were created before it. -/
  serial : ℕ

/-- A reference a thread holds: a pointer, and the device it was handed out
for. -/
structure DeviceRef where
  addr : ℕ
  serial : ℕ
  deriving DecidableEq

/-- Where a thread is in `GetById` or `Release`. -/
inductive DevicePc (γ : Type u) where
  | idle
  /-- `GetById`, with the list mutex: about to search the list. -/
  | finding (id : γ)
  /-- `GetById`: found, about to call `AddRef`. -/
  | adding (a : ℕ)
  /-- `GetById`: not found, about to create the device. -/
  | creating (id : γ)
  /-- `Release`: the count has dropped to zero, about to lock in `dispose`. -/
  | disposing (a : ℕ)
  /-- `dispose`, with the list mutex: about to search the list. -/
  | erasing (a : ℕ)
  /-- About to unlock the list mutex and return. -/
  | leaving

/-- The thread has the list mutex. -/
def DevicePc.Locks {γ : Type u} : DevicePc γ → Prop
  | finding _ | adding _ | creating _ | erasing _ | leaving => True
  | idle | disposing _ => False

/-- The thread is in `dispose` for the device at `a` and has not deleted it yet. -/
def DevicePc.Disposes {γ : Type u} (a : ℕ) : DevicePc γ → Prop
  | disposing b | erasing b => a = b
  | _ => False

/-- The devices, the list and the threads. -/
structure DeviceTable (γ : Type u) (θ : Type v) where
  /-- The devices in memory. -/
  heap : ℕ → Option (SharedDevice γ)
  sDeviceList : List ℕ
  /-- The thread that has `sDeviceListMutex`. -/
  sDeviceListMutex : Option θ
  pc : θ → DevicePc γ
  /-- The references `GetById` returned that have not been released. -/
  held : θ → DeviceRef → ℕ
  /-- The number of devices created so far. -/
  created : ℕ
  /-- The devices deleted so far. -/
  deleted : List ℕ

namespace DeviceTable

variable {γ : Type u} {θ : Type v} [DecidableEq γ] [DecidableEq θ]

/-- Before the first call. -/
def empty : DeviceTable γ θ where
  heap := fun _ ↦ none
  sDeviceList := []
  sDeviceListMutex := none
  pc := fun _ ↦ .idle
  held := fun _ _ ↦ 0
  created := 0
  deleted := []

/-- `std::ranges::find(sDeviceList, deviceId, &SharedDevice::mId)`. -/
def find (s : DeviceTable γ θ) (id : γ) : Option ℕ :=
  s.sDeviceList.find? fun a ↦ (s.heap a).any fun d ↦ d.mId = id

/-- Set the position of a thread. -/
def goto (s : DeviceTable γ θ) (t : θ) (p : DevicePc γ) : DeviceTable γ θ :=
  { s with pc := Function.update s.pc t p }

/-- Set how many references of one kind a thread holds. -/
def hold (s : DeviceTable γ θ) (t : θ) (r : DeviceRef) (n : ℕ) : DeviceTable γ θ :=
  { s with held := Function.update s.held t (Function.update (s.held t) r n) }

/-- `AddRef` on the device `d` found at `a`, and the reference `GetById` returns. -/
def addRef (s : DeviceTable γ θ) (t : θ) (a : ℕ) (d : SharedDevice γ) : DeviceTable γ θ :=
  { (s.hold t ⟨a, d.serial⟩ (s.held t ⟨a, d.serial⟩ + 1)).goto t .leaving with
    heap := Function.update s.heap a (some { d with mRef := d.mRef + 1 }) }

/-- A new device at `a`, at the end of the list, with the reference of the
caller. -/
def create (s : DeviceTable γ θ) (t : θ) (id : γ) (a : ℕ) : DeviceTable γ θ :=
  { (s.hold t ⟨a, s.created⟩ (s.held t ⟨a, s.created⟩ + 1)).goto t .leaving with
    heap := Function.update s.heap a (some { mId := id, mRef := 1, serial := s.created })
    sDeviceList := s.sDeviceList ++ [a]
    created := s.created + 1 }

/-- `mRef.fetch_sub(1)` in `Release`, on the device `d` at the address of the
reference. -/
def release (s : DeviceTable γ θ) (t : θ) (r : DeviceRef) (d : SharedDevice γ) :
    DeviceTable γ θ :=
  { (s.hold t r (s.held t r - 1)).goto t
      (if d.mRef - 1 = 0 then .disposing r.addr else .idle) with
    heap := Function.update s.heap r.addr (some { d with mRef := d.mRef - 1 }) }

/-- The body of `dispose`: a device found in the list is deleted and erased. -/
def erase (s : DeviceTable γ θ) (t : θ) (a : ℕ) : DeviceTable γ θ :=
  if a ∈ s.sDeviceList then
    { s.goto t .leaving with
      heap := Function.update s.heap a none
      sDeviceList := s.sDeviceList.erase a
      deleted := s.deleted ++ ((s.heap a).map SharedDevice.serial).toList }
  else s.goto t .leaving

end DeviceTable

/-- What a thread does next. -/
inductive DeviceOp (γ : Type u) (θ : Type v) where
  /-- Call `GetById` and lock the list mutex. -/
  | getById (t : θ) (id : γ)
  /-- Search the list. -/
  | find (t : θ)
  /-- `AddRef` on the device that was found. -/
  | addRef (t : θ)
  /-- Create a device, at an address that is free. -/
  | create (t : θ) (a : ℕ)
  /-- Fail to create a device. -/
  | createFail (t : θ)
  /-- Unlock the list mutex and return. -/
  | unlock (t : θ)
  /-- Call `Release` on a reference and lower the count. -/
  | release (t : θ) (r : DeviceRef)
  /-- Lock the list mutex in `dispose`. -/
  | lockDispose (t : θ)
  /-- Search the list in `dispose` and delete the device. -/
  | erase (t : θ)
  /-- Hand a reference to another thread. -/
  | pass (t t' : θ) (r : DeviceRef)

open DeviceTable in
/-- One atomic step of one thread. -/
inductive DeviceStep {γ : Type u} {θ : Type v} [DecidableEq γ] [DecidableEq θ] :
    DeviceTable γ θ → DeviceOp γ θ → DeviceTable γ θ → Prop
  | getById {s : DeviceTable γ θ} {t : θ} {id : γ} (idle : s.pc t = .idle)
      (free : s.sDeviceListMutex = none) :
      DeviceStep s (.getById t id) { s.goto t (.finding id) with sDeviceListMutex := some t }
  | found {s : DeviceTable γ θ} {t : θ} {id : γ} {a : ℕ} (h : s.pc t = .finding id)
      (hf : s.find id = some a) : DeviceStep s (.find t) (s.goto t (.adding a))
  | missing {s : DeviceTable γ θ} {t : θ} {id : γ} (h : s.pc t = .finding id)
      (hf : s.find id = none) : DeviceStep s (.find t) (s.goto t (.creating id))
  | addRef {s : DeviceTable γ θ} {t : θ} {a : ℕ} {d : SharedDevice γ} (h : s.pc t = .adding a)
      (hd : s.heap a = some d) : DeviceStep s (.addRef t) (s.addRef t a d)
  | create {s : DeviceTable γ θ} {t : θ} {id : γ} {a : ℕ} (h : s.pc t = .creating id)
      (free : s.heap a = none) : DeviceStep s (.create t a) (s.create t id a)
  | createFail {s : DeviceTable γ θ} {t : θ} {id : γ} (h : s.pc t = .creating id) :
      DeviceStep s (.createFail t) (s.goto t .leaving)
  | unlock {s : DeviceTable γ θ} {t : θ} (h : s.pc t = .leaving) :
      DeviceStep s (.unlock t) { s.goto t .idle with sDeviceListMutex := none }
  | release {s : DeviceTable γ θ} {t : θ} {r : DeviceRef} {d : SharedDevice γ}
      (idle : s.pc t = .idle) (holds : 0 < s.held t r) (hd : s.heap r.addr = some d) :
      DeviceStep s (.release t r) (s.release t r d)
  | lockDispose {s : DeviceTable γ θ} {t : θ} {a : ℕ} (h : s.pc t = .disposing a)
      (free : s.sDeviceListMutex = none) :
      DeviceStep s (.lockDispose t) { s.goto t (.erasing a) with sDeviceListMutex := some t }
  | erase {s : DeviceTable γ θ} {t : θ} {a : ℕ} (h : s.pc t = .erasing a) :
      DeviceStep s (.erase t) (s.erase t a)
  | pass {s : DeviceTable γ θ} {t t' : θ} {r : DeviceRef} (idle : s.pc t = .idle)
      (holds : 0 < s.held t r) :
      DeviceStep s (.pass t t' r)
        ((s.hold t r (s.held t r - 1)).hold t' r ((s.hold t r (s.held t r - 1)).held t' r + 1))

end Dsoal
