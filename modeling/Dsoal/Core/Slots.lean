import Dsoal.Lib.BitScan
import Mathlib.Data.PNat.Basic

/-!
# Preallocated groups of buffers

Secondary buffers live in groups of 64 slots (`BufferSubList`): a bit mask of
the free slots and the storage of the group.  Buffers are constructed and
destroyed in place, the vector of groups only grows, and a buffer that releases
itself is found again by subtracting the base address of every group from its
own address.

The file is generic in the type `α` of the objects, so that the same definitions
serve the allocator on its own and the whole `DSound8OAL` object.  Memory is
modelled by provenance: a pointer is the base address of the array it points
into together with an index, and its numeric address is what the pointer
difference of `dispose` computes with.  A slot holds `some x` when an object has
been constructed there and not been destroyed since, and `none` when it is raw
storage.
-/

universe u

namespace Dsoal

open BitScan

/-- What the model leaves to the platform: the size of a `Buffer` object. -/
class Abi where
  /-- `sizeof(Buffer)`. -/
  sizeofBuffer : ℕ+

/-- A `Buffer*`: the array it points into and the element. -/
structure Ptr where
  /-- Address of the first element of the array. -/
  base : ℕ
  /-- Position in the array. -/
  idx : Fin 64
  deriving DecidableEq, Repr

/-- The array a group owns. -/
structure Storage (α : Type u) where
  /-- Address of the first element. -/
  base : ℕ
  /-- The objects constructed in it. -/
  elems : Fin 64 → Option α

/-- `struct BufferSubList`. -/
structure BufferSubList (α : Type u) where
  /-- A set bit is a free slot. -/
  mFreeMask : BitVec 64 := ~~~0#64
  /-- The owned array, `none` for a null pointer. -/
  mBuffers : Option (Storage α) := none

variable {α : Type u}

/-- The number of bytes of a group's array. -/
def groupBytes [Abi] : ℕ := 64 * Abi.sizeofBuffer

/-- The numeric value of a pointer. -/
def Ptr.addr [Abi] (p : Ptr) : ℕ := p.base + p.idx * Abi.sizeofBuffer

/-- `as_unsigned(buffer - group.mBuffers->data())` for a buffer at `addr` and a
group at `base`: a pointer difference counts elements (exactly, when both point
into one array) and wraps when it is read as unsigned. -/
def ptrIndex [Abi] (addr base : ℕ) : ℕ :=
  ((((addr : ℤ) - base) / Abi.sizeofBuffer) % 2 ^ 64).toNat

namespace BufferSubList

/-- `mBuffers->data()`. -/
def base (g : BufferSubList α) : ℕ := g.mBuffers.elim 0 Storage.base

/-- The object in a slot of the group. -/
def elem (g : BufferSubList α) (i : Fin 64) : Option α := g.mBuffers.bind fun st ↦ st.elems i

/-- Overwrite the memory of a slot. -/
def setElem (g : BufferSubList α) (i : Fin 64) (x : Option α) : BufferSubList α :=
  { g with mBuffers := g.mBuffers.map fun st ↦ { st with elems := Function.update st.elems i x } }

/-- `mFreeMask &= ~(1 << idx)`. -/
def markUsed (g : BufferSubList α) (i : ℕ) : BufferSubList α :=
  { g with mFreeMask := g.mFreeMask &&& ~~~bit 64 i }

/-- `mFreeMask |= 1 << idx`. -/
def markFree (g : BufferSubList α) (i : ℕ) : BufferSubList α :=
  { g with mFreeMask := g.mFreeMask ||| bit 64 i }

/-- The slots the loop `usemask = ~mFreeMask; while(usemask) ...` visits, in its
order. -/
def usedSlots (g : BufferSubList α) : List (Fin 64) := scanFin (~~~g.mFreeMask)

/-- The move constructor: the new group and what is left of the old one. -/
def moveFrom (rhs : BufferSubList α) : BufferSubList α × BufferSubList α :=
  ({ mFreeMask := rhs.mFreeMask, mBuffers := rhs.mBuffers },
    { rhs with mFreeMask := ~~~0#64, mBuffers := none })

/-- The slots `~BufferSubList` destroys. -/
def destroyedSlots (g : BufferSubList α) : List (Fin 64) :=
  match g.mBuffers with
  | none => []
  | some _ => g.usedSlots

/-- A group over a freshly allocated array. -/
def allocated (base : ℕ) : BufferSubList α :=
  { mBuffers := some { base := base, elems := fun _ ↦ none } }

end BufferSubList

open BufferSubList

/-! ## The vector of groups -/

/-- `mSecondaryBuffers.emplace_back(std::move(group))`.  When the vector has to
`grow`, its elements are moved to new storage and the old ones destroyed.  The
second component lists the buffers those destructors destroy. -/
def emplaceBack (grow : Bool) (gs : List (BufferSubList α)) (g : BufferSubList α) :
    List (BufferSubList α) × List (Fin 64) :=
  if grow then
    (gs.map (fun h ↦ h.moveFrom.1) ++ [g.moveFrom.1],
      gs.flatMap (fun h ↦ h.moveFrom.2.destroyedSlots))
  else (gs ++ [g.moveFrom.1], [])

/-- The object a pointer points to. -/
def lookup (p : Ptr) (gs : List (BufferSubList α)) : Option α :=
  (gs.find? fun g ↦ g.base = p.base).bind fun g ↦ g.elem p.idx

/-- Write through a pointer to a constructed object. -/
def modify (p : Ptr) (f : α → α) (gs : List (BufferSubList α)) : List (BufferSubList α) :=
  gs.map fun g ↦ if g.base = p.base then g.setElem p.idx ((g.elem p.idx).map f) else g

/-- `std::destroy_at(buffer)`. -/
def destroyAt (p : Ptr) (gs : List (BufferSubList α)) : List (BufferSubList α) :=
  gs.map fun g ↦ if g.base = p.base then g.setElem p.idx none else g

/-- Construct `x` in the lowest free slot of group `k` and mark the slot used. -/
def construct (k : ℕ) (x : α) (gs : List (BufferSubList α)) :
    Option (Ptr × List (BufferSubList α)) := do
  let g ← gs[k]?
  let idx := lowest g.mFreeMask
  if h : idx < 64 then
    some (⟨g.base, ⟨idx, h⟩⟩, gs.set k ((g.setElem ⟨idx, h⟩ (some x)).markUsed idx))
  else none

/-- `DSound8OAL::createSecondaryBuffer`, for the constructed object `x`.
`alloc` is the array the allocator returns if it is asked for one and `grow`
whether the vector has to reallocate; without an array no buffer is created. -/
def createSecondaryBuffer (x : α) (alloc : Option ℕ) (grow : Bool)
    (gs : List (BufferSubList α)) : Option (Ptr × List (BufferSubList α)) :=
  match gs.findIdx? fun g ↦ g.mFreeMask ≠ 0#64 with
  | some k => construct k x gs
  | none =>
    match alloc with
    | some base => construct gs.length x (emplaceBack grow gs (.allocated base)).1
    | none => none

/-- The group and slot `DSound8OAL::dispose` picks: the first group whose base
address is fewer than 64 elements below the buffer. -/
def findGroup [Abi] (p : Ptr) : List (BufferSubList α) → Option (ℕ × ℕ)
  | [] => none
  | g :: gs =>
    let idx := ptrIndex p.addr g.base
    if idx < 64 then some (0, idx) else (findGroup p gs).map fun q ↦ (q.1 + 1, q.2)

/-- `DSound8OAL::dispose`, as far as the groups are concerned. -/
def dispose [Abi] (p : Ptr) (gs : List (BufferSubList α)) : List (BufferSubList α) :=
  match findGroup p gs with
  | none => gs
  | some (k, idx) => (destroyAt p gs).modify k fun g ↦ g.markFree idx

/-- The loop of `DSound8OAL::Initialize` that preallocates groups: it stops at
the first failed allocation. -/
def preallocate : List (Option ℕ × Bool) → List (BufferSubList α) → List (BufferSubList α)
  | [], gs => gs
  | (none, _) :: _, gs => gs
  | (some base, grow) :: rest, gs => preallocate rest (emplaceBack grow gs (.allocated base)).1

/-- The buffers a walk over the masks of all groups visits, in its order. -/
def livePtrs (gs : List (BufferSubList α)) : List Ptr :=
  gs.flatMap fun g ↦ g.usedSlots.map fun i ↦ ⟨g.base, i⟩

end Dsoal
