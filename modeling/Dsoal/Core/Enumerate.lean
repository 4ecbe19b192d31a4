import Dsoal.Core.PropSet

/-!
# The enumeration functions

`DirectSoundEnumerate` and `DirectSoundCaptureEnumerate`, each in the two forms of `dsoal.cpp`.
The form that ends in `W` hands the arguments of `enumerate_mmdev` on.  The one that ends in `A`
converts the two names into a buffer, and hands out pointers into it.
-/

universe u

namespace Dsoal

/-! ## Strings in a buffer -/

/-- The string at a position of a buffer: the characters before the next zero. -/
def cString (buf : List UInt8) (pos : ℕ) : List UInt8 := (buf.drop pos).takeWhile (· ≠ 0)

/-- Store characters from a position of a buffer on. -/
def storeChars (buf : List UInt8) (pos : ℕ) (chars : List UInt8) : List UInt8 :=
  buf.take pos ++ chars ++ buf.drop (pos + chars.length)

/-- What a callback of type `LPDSENUMCALLBACKA` finds at its pointers. -/
structure EnumCallA where
  guid : Option Guid
  description : List UInt8
  moduleName : List UInt8
  deriving DecidableEq, Repr

variable {σ : Type u}

section

variable [WinStrings]

open WinStrings

/-- The characters of a name that are converted: `ds::saturate_cast<int>` of its length. -/
def convertible (name : WString) : WString := name.take 0x7fffffff

/-- `dlen` and `mlen`. -/
def multiByteLength (name : WString) : ℕ :=
  if name.isEmpty then 0 else (wideCharToMultiByte none (convertible name)).length

/-- Convert a name that is not empty to a position of a buffer, where there is room for a number
of characters. -/
def storeName (buf : List UInt8) (pos : ℕ) (name : WString) (room : ℕ) : List UInt8 :=
  if name.isEmpty then buf
  else storeChars buf pos (wideCharToMultiByte (some room) (convertible name))

/-- `do_enum` of the functions that end in `A`. -/
def doEnumA (callback : σ → EnumCallA → Bool × σ) (user : σ) (call : EnumCall) :
    Option (Bool × σ) :=
  call.devname.map fun dname ↦
    let mname := call.drvname
    let dlen := multiByteLength dname
    let mlen := multiByteLength mname
    let descA := List.replicate (dlen + mlen + 2) 0
    let modA := dlen + 1
    let descA := storeName descA 0 dname dlen
    let descA := storeName descA modA mname mlen
    callback user ⟨call.guid, cString descA 0, cString descA modA⟩

/-! ## The functions -/

/-- What the four functions have in common: they enumerate one flow, unless there is no
callback. -/
def enumerateFlow (sys : MMSystem) (flow : DataFlow)
    (doEnum : Option (σ → EnumCall → Option (Bool × σ))) (user : σ) (lists : DeviceLists) :
    Option (HResult × DeviceLists × σ) :=
  match doEnum with
  | none => some (.invalidParam, lists, user)
  | some doEnum => do
    let (res, devlist, user) ← enumerateMmdev sys flow (lists.get flow) doEnum user
    some (res.status, lists.set flow devlist, user)

/-- `DirectSoundEnumerateA`. -/
def directSoundEnumerateA (sys : MMSystem) (callback : Option (σ → EnumCallA → Bool × σ))
    (user : σ) (lists : DeviceLists) : Option (HResult × DeviceLists × σ) :=
  enumerateFlow sys .render (callback.map doEnumA) user lists

/-- `DirectSoundEnumerateW`. -/
def directSoundEnumerateW (sys : MMSystem)
    (callback : Option (σ → EnumCall → Option (Bool × σ))) (user : σ) (lists : DeviceLists) :
    Option (HResult × DeviceLists × σ) :=
  enumerateFlow sys .render callback user lists

/-- `DirectSoundCaptureEnumerateA`. -/
def directSoundCaptureEnumerateA (sys : MMSystem)
    (callback : Option (σ → EnumCallA → Bool × σ)) (user : σ) (lists : DeviceLists) :
    Option (HResult × DeviceLists × σ) :=
  enumerateFlow sys .capture (callback.map doEnumA) user lists

/-- `DirectSoundCaptureEnumerateW`. -/
def directSoundCaptureEnumerateW (sys : MMSystem)
    (callback : Option (σ → EnumCall → Option (Bool × σ))) (user : σ) (lists : DeviceLists) :
    Option (HResult × DeviceLists × σ) :=
  enumerateFlow sys .capture callback user lists

/-- The function that ends in `A` for a flow. -/
def enumerateFlowA : DataFlow → MMSystem → Option (σ → EnumCallA → Bool × σ) → σ → DeviceLists →
    Option (HResult × DeviceLists × σ)
  | .render => directSoundEnumerateA
  | .capture => directSoundCaptureEnumerateA

/-- The function that ends in `W` for a flow. -/
def enumerateFlowW : DataFlow → MMSystem → Option (σ → EnumCall → Option (Bool × σ)) → σ →
    DeviceLists → Option (HResult × DeviceLists × σ)
  | .render => directSoundEnumerateW
  | .capture => directSoundCaptureEnumerateW

end

end Dsoal
