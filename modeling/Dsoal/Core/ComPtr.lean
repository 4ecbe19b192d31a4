import Dsoal.Lib.RefHeap

/-!
# `ComPtr`

References to the objects of the library and of COM are held by variables of type `ComPtr`.  This
is the template with its assignments, for a program that constructs, assigns and destroys such
variables in any order, the same variable on both sides included, and that also handles
references as plain pointers: those a `new`, an `AddRef` or an output parameter has given it.

A call on an object that does not exist any more is `none`.

The objects are of the type the template is given, which has an `AddRef` and a `Release` of its
own.  The count is a natural number: what a `ULONG` counts as long as the program does not have
`2 ^ 32` references to one object.
-/

namespace Dsoal

variable {ν : Type} [DecidableEq ν]

/-- The objects by address, the variables in scope, and the references there are besides. -/
structure ComPtrs (ν : Type) where
  objects : RefHeap ℕ Unit := fun _ ↦ none
  scope : Finset ν := ∅
  mPtr : ν → Option ℕ := fun _ ↦ none
  /-- How many references a program holds as plain pointers. -/
  plain : ℕ → ℕ := fun _ ↦ 0

namespace ComPtrs

/-- `if(ptr) ptr->AddRef()`. -/
def addRef (s : ComPtrs ν) : Option ℕ → Option (ComPtrs ν)
  | none => some s
  | some a => (s.objects.addRef a).map fun objects ↦ { s with objects := objects }

/-- `if(ptr) ptr->Release()`. -/
def releaseRef (s : ComPtrs ν) : Option ℕ → Option (ComPtrs ν)
  | none => some s
  | some a => (s.objects.release a).map fun r ↦ { s with objects := r.2 }

/-- `mPtr = ptr`. -/
def setPtr (s : ComPtrs ν) (x : ν) (ptr : Option ℕ) : ComPtrs ν :=
  { s with mPtr := Function.update s.mPtr x ptr }

/-- A variable comes into scope. -/
def enter (s : ComPtrs ν) (x : ν) (ptr : Option ℕ) : ComPtrs ν :=
  { s.setPtr x ptr with scope := insert x s.scope }

/-- The program gets a plain pointer. -/
def gain (s : ComPtrs ν) : Option ℕ → ComPtrs ν
  | none => s
  | some a => { s with plain := Function.update s.plain a (s.plain a + 1) }

/-- The program hands a plain pointer on. -/
def lose (s : ComPtrs ν) : Option ℕ → ComPtrs ν
  | none => s
  | some a => { s with plain := Function.update s.plain a (s.plain a - 1) }

/-- `ComPtr(const ComPtr&)`. -/
def copyConstruct (s : ComPtrs ν) (x rhs : ν) : Option (ComPtrs ν) :=
  (s.enter x (s.mPtr rhs)).addRef (s.mPtr rhs)

/-- `ComPtr(ComPtr&&)`. -/
def moveConstruct (s : ComPtrs ν) (x rhs : ν) : ComPtrs ν :=
  (s.enter x (s.mPtr rhs)).setPtr rhs none

/-- `~ComPtr`. -/
def destroy (s : ComPtrs ν) (x : ν) : Option (ComPtrs ν) := do
  let s ← s.releaseRef (s.mPtr x)
  some { s with scope := s.scope.erase x }

/-- `release`: the reference goes to the program. -/
def release (s : ComPtrs ν) (x : ν) : ComPtrs ν := (s.setPtr x none).gain (s.mPtr x)

/-- `operator=(const ComPtr&)`; `nothrow` says which branch of the `if constexpr` it is. -/
def copyAssign (s : ComPtrs ν) (nothrow : Bool) (x rhs : ν) : Option (ComPtrs ν) :=
  if nothrow then do
    let s ← s.addRef (s.mPtr rhs)
    let s ← s.releaseRef (s.mPtr x)
    some (s.setPtr x (s.mPtr rhs))
  else do
    -- `ComPtr tmp{rhs}`, which is null when it is destroyed
    let tmp := s.mPtr rhs
    let s ← s.addRef tmp
    let s ← s.releaseRef (s.mPtr x)
    some (s.setPtr x tmp)

/-- `operator=(ComPtr&&)`. -/
def moveAssign (s : ComPtrs ν) (x rhs : ν) : Option (ComPtrs ν) :=
  if rhs ≠ x then do
    let s ← s.releaseRef (s.mPtr x)
    some ((s.setPtr rhs none).setPtr x (s.mPtr rhs))
  else some s

/-- `reset`, of a plain pointer. -/
def reset (s : ComPtrs ν) (x : ν) (ptr : Option ℕ) : Option (ComPtrs ν) := do
  let s ← s.releaseRef (s.mPtr x)
  some ((s.setPtr x ptr).lose ptr)

/-- `swap`. -/
def swap (s : ComPtrs ν) (x rhs : ν) : ComPtrs ν :=
  (s.setPtr x (s.mPtr rhs)).setPtr rhs (s.mPtr x)

/-- `ds::out_ptr`, in a call of a function that stores `ptr` in its output parameter: the
destructor of `out_ptr_t` comes after the call. -/
def outPtr (s : ComPtrs ν) (x : ν) (ptr : Option ℕ) : Option (ComPtrs ν) :=
  (s.gain ptr).reset x ptr

end ComPtrs

/-- What a program does. -/
inductive ComPtrOp (ν : Type) where
  /-- `new`, or a function that creates an object. -/
  | new (a : ℕ)
  /-- `AddRef` or `Release` of a plain pointer. -/
  | addRef (a : ℕ)
  | release (a : ℕ)
  | construct (x : ν)
  /-- `explicit ComPtr(T*)`. -/
  | adopt (x : ν) (ptr : Option ℕ)
  | copyConstruct (x rhs : ν)
  | moveConstruct (x rhs : ν)
  | destroy (x : ν)
  | copyAssign (nothrow : Bool) (x rhs : ν)
  | moveAssign (x rhs : ν)
  | reset (x : ν) (ptr : Option ℕ)
  | releasePtr (x : ν)
  | swap (x rhs : ν)
  /-- A call with `ds::out_ptr(x)`, of a function that creates an object. -/
  | outNew (x : ν) (a : ℕ)
  /-- A call with `ds::out_ptr(x)`, of a function that returns an object that there is a
  reference to, or null. -/
  | outOld (x : ν) (ptr : Option ℕ)

namespace ComPtrs

/-- The plain pointer is null, or one that the program holds a reference as. -/
def Holds (s : ComPtrs ν) (ptr : Option ℕ) : Prop := ∀ a ∈ ptr, 0 < s.plain a

/-- There is a reference to the object, in a variable or as a plain pointer. -/
def Known (s : ComPtrs ν) (ptr : Option ℕ) : Prop :=
  ∀ a ∈ ptr, 0 < s.plain a ∨ ∃ x ∈ s.scope, s.mPtr x = some a

/-- What the language and the caller ensure: variables are constructed once and used in scope,
new objects are at new addresses, and plain pointers are used that there is a reference for. -/
def Legal (s : ComPtrs ν) : ComPtrOp ν → Prop
  | .new a => s.objects a = none
  | .addRef a => s.Known (some a)
  | .release a => s.Holds (some a)
  | .construct x => x ∉ s.scope
  | .adopt x ptr => x ∉ s.scope ∧ s.Holds ptr
  | .copyConstruct x rhs | .moveConstruct x rhs => x ∉ s.scope ∧ rhs ∈ s.scope
  | .destroy x | .releasePtr x => x ∈ s.scope
  | .copyAssign _ x rhs | .moveAssign x rhs | .swap x rhs => x ∈ s.scope ∧ rhs ∈ s.scope
  | .reset x ptr => x ∈ s.scope ∧ s.Holds ptr
  | .outNew x a => x ∈ s.scope ∧ s.objects a = none
  | .outOld x ptr => x ∈ s.scope ∧ s.Known ptr

/-- Do it. -/
def exec (s : ComPtrs ν) : ComPtrOp ν → Option (ComPtrs ν)
  | .new a => some ({ s with objects := s.objects.alloc a () }.gain (some a))
  | .addRef a => (s.addRef (some a)).map fun s ↦ s.gain (some a)
  | .release a => (s.releaseRef (some a)).map fun s ↦ s.lose (some a)
  | .construct x => some (s.enter x none)
  | .adopt x ptr => some ((s.enter x ptr).lose ptr)
  | .copyConstruct x rhs => s.copyConstruct x rhs
  | .moveConstruct x rhs => some (s.moveConstruct x rhs)
  | .destroy x => s.destroy x
  | .copyAssign nothrow x rhs => s.copyAssign nothrow x rhs
  | .moveAssign x rhs => s.moveAssign x rhs
  | .reset x ptr => s.reset x ptr
  | .releasePtr x => some (s.release x)
  | .swap x rhs => some (s.swap x rhs)
  | .outNew x a => { s with objects := s.objects.alloc a () }.outPtr x (some a)
  | .outOld x ptr => (s.addRef ptr).bind fun s ↦ s.outPtr x ptr

/-- A program that has just begun. -/
def IsNew (s : ComPtrs ν) : Prop := s = {}

end ComPtrs

/-- One step. -/
def ComPtrStep (s : ComPtrs ν) (op : ComPtrOp ν) (s' : ComPtrs ν) : Prop :=
  s.Legal op ∧ s.exec op = some s'

end Dsoal
