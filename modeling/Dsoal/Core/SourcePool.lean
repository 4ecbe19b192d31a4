import Mathlib.Algebra.BigOperators.Group.Finset.Basic
import Mathlib.Data.Finset.Card
import Mathlib.Data.Finset.Prod

/-!
# The hardware and software source pools

A `SharedDevice` has a limited number of hardware and of software sources, and
counts the ones in use in `mCurrentHwSources` and `mCurrentSwSources`.  A buffer
takes one in `setLocation` with a compare-and-swap loop and returns it with an
atomic decrement, in `setLocation` as well or in its destructor.  All
`DSound8OAL` objects on the device use the same two counters, each under a mutex
of its own.

The model takes these functions apart into their atomic operations.  What an
object does under its mutex is a `Task`; an object does one at a time, and the
tasks of different objects interleave.
-/

universe u

namespace Dsoal

/-- The two pools. -/
inductive Pool where
  | hw | sw
  deriving DecidableEq, Repr

/-- `Buffer::LocStatus`; `Any` is the same value as `None`. -/
inductive LocStatus where
  /-- `LocStatus::None`, and `LocStatus::Any` as a request. -/
  | none
  /-- `LocStatus::Hardware` or `LocStatus::Software`. -/
  | loc (k : Pool)
  deriving DecidableEq, Repr

namespace LocStatus

@[match_pattern] abbrev hardware : LocStatus := loc .hw

@[match_pattern] abbrev software : LocStatus := loc .sw

end LocStatus

/-- What an object is doing to the buffer `b`, under its mutex. -/
inductive Task where
  | idle
  /-- `setLocation(want)`: about to return the slot of the old location. -/
  | release (b : ℕ) (want : LocStatus)
  /-- `setLocation(want)`: about to set `mLocStatus = LocStatus::None`. -/
  | clear (b : ℕ) (want : LocStatus)
  /-- `setLocation(want)`: about to load the counter in `incHwSources` or
  `incSwSources`. -/
  | load (b : ℕ) (want : LocStatus) (k : Pool)
  /-- The loop of `incHwSources` or `incSwSources`, with `cur` loaded. -/
  | loop (b : ℕ) (want : LocStatus) (k : Pool) (cur : UInt32)
  /-- `setLocation`: has a slot, about to set `mLocStatus`. -/
  | store (b : ℕ) (k : Pool)
  /-- `~Buffer`: about to return the slot, if it has one. -/
  | destroy (b : ℕ)
  /-- `~Buffer`: about to end the lifetime of the buffer. -/
  | destroyed (b : ℕ)
  deriving DecidableEq, Repr

namespace Task

/-- The buffer a task is about. -/
def buffer : Task → Option ℕ
  | idle => none
  | release b _ | clear b _ | load b _ _ | loop b _ _ _ | store b _ | destroy b | destroyed b =>
    some b

/-- `setLocation` without a slot: which pool it tries first. -/
def acquire (b : ℕ) (want : LocStatus) : Task :=
  if want ≠ .software then load b want .hw else load b want .sw

/-- The head of `setLocation`, for a buffer whose `mLocStatus` is `l`. -/
def setLocation (b : ℕ) (l want : LocStatus) : Task :=
  if want ≠ .none ∧ l = want then idle
  else if want = .none ∧ l ≠ .none then idle
  else if l ≠ .none then release b want
  else acquire b want

/-- What follows when the pool `k` is full: the software pool is tried after the
hardware pool unless hardware was asked for, otherwise `setLocation` returns
`DSERR_ALLOCATED`. -/
def full (b : ℕ) (want : LocStatus) : Pool → Task
  | .hw => if want ≠ .hardware then load b want .sw else idle
  | .sw => idle

end Task

/-- The counters of a device and the buffers of the objects `δ` that share it. -/
structure SourcePool (δ : Type u) where
  /-- `mMaxHwSources` and `mMaxSwSources`. -/
  mMaxSources : Pool → UInt32
  /-- `mCurrentHwSources` and `mCurrentSwSources`. -/
  mCurrentSources : Pool → UInt32
  /-- The live buffers: an object and a slot of it. -/
  live : Finset (δ × ℕ)
  /-- `mLocStatus` of the buffers. -/
  mLocStatus : δ × ℕ → LocStatus
  /-- What the objects are doing. -/
  task : δ → Task

namespace SourcePool

variable {δ : Type u} [DecidableEq δ]

/-- A device with nothing on it. -/
def new (max : Pool → UInt32) : SourcePool δ where
  mMaxSources := max
  mCurrentSources := fun _ ↦ 0
  live := ∅
  mLocStatus := fun _ ↦ .none
  task := fun _ ↦ .idle

/-- Set what an object does next. -/
def goto (s : SourcePool δ) (o : δ) (p : Task) : SourcePool δ :=
  { s with task := Function.update s.task o p }

/-- Set the location of a buffer. -/
def locate (s : SourcePool δ) (o : δ) (b : ℕ) (l : LocStatus) : SourcePool δ :=
  { s with mLocStatus := Function.update s.mLocStatus (o, b) l }

/-- `fetch_add(1)`, as the successful compare-and-swap does it. -/
def inc (s : SourcePool δ) (k : Pool) : SourcePool δ :=
  { s with mCurrentSources := Function.update s.mCurrentSources k (s.mCurrentSources k + 1) }

/-- `decHwSources` and `decSwSources`. -/
def dec (s : SourcePool δ) (k : Pool) : SourcePool δ :=
  { s with mCurrentSources := Function.update s.mCurrentSources k (s.mCurrentSources k - 1) }

/-- `decHwSources` or `decSwSources`, by location. -/
def decLoc (s : SourcePool δ) : LocStatus → SourcePool δ
  | .none => s
  | .loc k => s.dec k

/-- `dwFreeHw3DAllBuffers` and its siblings in `GetCaps`. -/
def freeHwSources (s : SourcePool δ) : UInt32 := s.mMaxSources .hw - s.mCurrentSources .hw

end SourcePool

/-- What an object does next. -/
inductive PoolTask (δ : Type u) where
  /-- Construct a buffer in a free slot. -/
  | create (o : δ) (b : ℕ)
  /-- Call `setLocation` on a buffer. -/
  | setLocation (o : δ) (b : ℕ) (want : LocStatus)
  /-- Destroy a buffer. -/
  | destroy (o : δ) (b : ℕ)
  /-- Perform the next atomic operation of the task. -/
  | run (o : δ)

open SourcePool in
/-- One atomic operation of one object. -/
inductive PoolTaskStep {δ : Type u} [DecidableEq δ] :
    SourcePool δ → PoolTask δ → SourcePool δ → Prop
  | create {s : SourcePool δ} {o : δ} {b : ℕ} (idle : s.task o = .idle) (free : (o, b) ∉ s.live) :
      PoolTaskStep s (.create o b) { s.locate o b .none with live := insert (o, b) s.live }
  | setLocation {s : SourcePool δ} {o : δ} {b : ℕ} {want : LocStatus} (idle : s.task o = .idle)
      (live : (o, b) ∈ s.live) :
      PoolTaskStep s (.setLocation o b want)
        (s.goto o (.setLocation b (s.mLocStatus (o, b)) want))
  | release {s : SourcePool δ} {o : δ} {b : ℕ} {want : LocStatus} (h : s.task o = .release b want) :
      PoolTaskStep s (.run o) ((s.decLoc (s.mLocStatus (o, b))).goto o (.clear b want))
  | clear {s : SourcePool δ} {o : δ} {b : ℕ} {want : LocStatus} (h : s.task o = .clear b want) :
      PoolTaskStep s (.run o) ((s.locate o b .none).goto o (.acquire b want))
  | load {s : SourcePool δ} {o : δ} {b : ℕ} {want : LocStatus} {k : Pool}
      (h : s.task o = .load b want k) :
      PoolTaskStep s (.run o) (s.goto o (.loop b want k (s.mCurrentSources k)))
  | full {s : SourcePool δ} {o : δ} {b : ℕ} {want : LocStatus} {k : Pool} {cur : UInt32}
      (h : s.task o = .loop b want k cur) (hcur : cur = s.mMaxSources k) :
      PoolTaskStep s (.run o) (s.goto o (.full b want k))
  /-- The compare-and-swap succeeds. -/
  | swap {s : SourcePool δ} {o : δ} {b : ℕ} {want : LocStatus} {k : Pool} {cur : UInt32}
      (h : s.task o = .loop b want k cur) (hcur : cur ≠ s.mMaxSources k)
      (hsame : s.mCurrentSources k = cur) :
      PoolTaskStep s (.run o) ((s.inc k).goto o (.store b k))
  /-- The compare-and-swap fails, as a weak one may at any time, and loads the
  counter anew. -/
  | retry {s : SourcePool δ} {o : δ} {b : ℕ} {want : LocStatus} {k : Pool} {cur : UInt32}
      (h : s.task o = .loop b want k cur) (hcur : cur ≠ s.mMaxSources k) :
      PoolTaskStep s (.run o) (s.goto o (.loop b want k (s.mCurrentSources k)))
  | store {s : SourcePool δ} {o : δ} {b : ℕ} {k : Pool} (h : s.task o = .store b k) :
      PoolTaskStep s (.run o) ((s.locate o b (.loc k)).goto o .idle)
  | destroy {s : SourcePool δ} {o : δ} {b : ℕ} (idle : s.task o = .idle)
      (live : (o, b) ∈ s.live) : PoolTaskStep s (.destroy o b) (s.goto o (.destroy b))
  | destroyRun {s : SourcePool δ} {o : δ} {b : ℕ} (h : s.task o = .destroy b) :
      PoolTaskStep s (.run o) ((s.decLoc (s.mLocStatus (o, b))).goto o (.destroyed b))
  | destroyDone {s : SourcePool δ} {o : δ} {b : ℕ} (h : s.task o = .destroyed b) :
      PoolTaskStep s (.run o)
        { (s.locate o b .none).goto o .idle with live := s.live.erase (o, b) }

end Dsoal
