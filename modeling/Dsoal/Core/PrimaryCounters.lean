import Dsoal.Core.FullDuplex

/-!
# The counters of the primary buffer

`AddRef` and `Release` of the three interfaces of the primary buffer in their atomic steps, for
any number of threads.  `Release` of the buffer reads `mDsRef` and exchanges it until nothing has
come in between, and stops at zero; the others lower their counter.  `mTotalRef` is changed before
the counter of the interface by `AddRef`, and after it by `Release`.

The listener and the property set are released by threads that have a reference to them.  The
buffer may be released by anyone at any time.
-/

namespace Dsoal

/-- Where a thread is in a call. -/
inductive PrimaryRefPc where
  | idle
  /-- In `AddRef`, after `mTotalRef` has been raised, which was `prev` before. -/
  | adding (i : RefCounter) (prev : UInt32)
  /-- In `AddRef`, before `mFlags = 0`. -/
  | clearing
  /-- In the loop of `PrimaryBuffer::Release`, where `ret` is what `mDsRef` was. -/
  | exchanging (ret : UInt32)
  /-- In `Release`, before `mTotalRef` is lowered. -/
  | releasing
  deriving DecidableEq

/-- The counters, the threads, and the references to the listener and to the property set that
each thread has. -/
structure PrimaryCounters (θ : Type) where
  mTotalRef : UInt32 := 0
  mRef : RefCounter → UInt32 := fun _ ↦ 0
  mFlags : UInt32 := 0
  pc : θ → PrimaryRefPc := fun _ ↦ .idle
  held : θ → RefCounter → ℕ := fun _ _ ↦ 0

/-- A step of a thread. -/
inductive PrimaryCounterOp (θ : Type) where
  /-- `AddRef` of an interface, maybe in `QueryInterface`, begins. -/
  | addRef (t : θ) (i : RefCounter)
  | addRefDone (t : θ)
  | clearFlags (t : θ)
  /-- `PrimaryBuffer::Release` begins and reads `mDsRef`. -/
  | load (t : θ)
  /-- `compare_exchange_weak`, which fails for no reason if `spurious`. -/
  | exchange (t : θ) (spurious : Bool)
  /-- `Release` of the listener or of the property set begins. -/
  | release (t : θ) (i : RefCounter)
  | releaseDone (t : θ)
  /-- A reference is handed to another thread. -/
  | pass (t t' : θ) (i : RefCounter)
  /-- Another method stores the flags. -/
  | setFlags (mFlags : UInt32)

namespace PrimaryCounters

variable {θ : Type} [DecidableEq θ]

/-- Set the position of a thread. -/
def goto (s : PrimaryCounters θ) (t : θ) (pc : PrimaryRefPc) : PrimaryCounters θ :=
  { s with pc := Function.update s.pc t pc }

/-- Set the counter of an interface. -/
def setRef (s : PrimaryCounters θ) (i : RefCounter) (ref : UInt32) : PrimaryCounters θ :=
  { s with mRef := Function.update s.mRef i ref }

/-- Set the number of references a thread has. -/
def hold (s : PrimaryCounters θ) (t : θ) (i : RefCounter) (n : ℕ) : PrimaryCounters θ :=
  { s with held := Function.update s.held t (Function.update (s.held t) i n) }

/-- The interfaces of the primary buffer. -/
def isPrimaryRef (i : RefCounter) : Bool := i = .mDsRef ∨ i = .mDs3dRef ∨ i = .mPropRef

/-- Perform one step. -/
def exec (s : PrimaryCounters θ) : PrimaryCounterOp θ → Option (PrimaryCounters θ)
  | .addRef t i =>
    if s.pc t = .idle ∧ isPrimaryRef i then
      some ({ s with mTotalRef := s.mTotalRef + 1 }.goto t (.adding i s.mTotalRef))
    else none
  | .addRefDone t =>
    match s.pc t with
    | .adding i prev =>
      let s := (s.setRef i (s.mRef i + 1)).hold t i (s.held t i + 1)
      some (s.goto t (if i = .mDsRef ∧ prev = 0 then .clearing else .idle))
    | _ => none
  | .clearFlags t =>
    match s.pc t with
    | .clearing => some ({ s with mFlags := 0 }.goto t .idle)
    | _ => none
  | .load t => if s.pc t = .idle then some (s.goto t (.exchanging (s.mRef .mDsRef))) else none
  | .exchange t spurious =>
    match s.pc t with
    | .exchanging ret =>
      if ret = 0 then some (s.goto t .idle)
      else if !spurious ∧ s.mRef .mDsRef = ret then
        some ((s.setRef .mDsRef (ret - 1)).goto t .releasing)
      else some (s.goto t (.exchanging (s.mRef .mDsRef)))
    | _ => none
  | .release t i =>
    if s.pc t = .idle ∧ isPrimaryRef i ∧ i ≠ .mDsRef ∧ 0 < s.held t i then
      some (((s.setRef i (s.mRef i - 1)).hold t i (s.held t i - 1)).goto t .releasing)
    else none
  | .releaseDone t =>
    match s.pc t with
    | .releasing => some ({ s with mTotalRef := s.mTotalRef - 1 }.goto t .idle)
    | _ => none
  | .pass t t' i =>
    if s.pc t = .idle ∧ i ≠ .mDsRef ∧ 0 < s.held t i then
      let s := s.hold t i (s.held t i - 1)
      some (s.hold t' i (s.held t' i + 1))
    else none
  | .setFlags mFlags => some { s with mFlags := mFlags }

end PrimaryCounters

end Dsoal
