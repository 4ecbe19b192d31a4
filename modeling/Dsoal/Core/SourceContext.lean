import Dsoal.Core.Buffer

/-!
# The sources of a context

The sources of all buffers on a device are generated on one OpenAL context, which has
room for as many as the two pools of the `SharedDevice` together.  `setLocation` counts
the sources it generates in these pools; `Prop::Set` generates one for a buffer without
a source and counts it nowhere.  Neither looks at the result of `alGenSources`, which
leaves `mSource` at 0 where it fails.

The methods of `Buffer` that may generate a source take `room` here, which says whether
`alGenSources` succeeds; with `room` they are the methods of `Core/Buffer`.
-/

namespace Dsoal

namespace Buffer

/-! ## Generating a source -/

/-- `if(mSource == 0) alGenSources(1, &mSource)`. -/
def genSourceIn (room : Bool) (b : Buffer) : Buffer :=
  { b with mSource := b.mSource.or (if room then some {} else none) }

/-- `Buffer::setLocation`. -/
def setLocationIn (room : Bool) (parent : Parent) (b : Buffer) (dev : DeviceSources)
    (want : LocStatus) : Option (HResult × Buffer × DeviceSources) :=
  if want ≠ .none ∧ b.mLocStatus = want then some (.ok, b, dev)
  else if want = .none ∧ b.mLocStatus ≠ .none then some (.ok, b, dev)
  else
    let (b, dev) := b.leaveLocation dev
    match dev.acquire want with
    | none => some (.allocated, b, dev)
    | some (k, dev) => do
      let sb ← b.mBuffer
      let b := b.genSourceIn room
      some (.ok, { b.writeSource (b.locationWrites parent sb) with mLocStatus := .loc k }, dev)

/-- How `Play` and `AcquireResources` locate a buffer with `DSBCAPS_LOCDEFER`. -/
def deferredLocationIn (room : Bool) (parent : Parent) (b : Buffer) (dev : DeviceSources)
    (flags : UInt32) : Option (HResult × Buffer × DeviceSources) :=
  if hasFlag flags PlayFlags.locSoftware ∧ hasFlag flags PlayFlags.locHardware then
    some (.invalidParam, b, dev)
  else
    let loc := wantedLocation flags
    if loc ≠ .none ∧ b.mLocStatus ≠ .none ∧ loc ≠ b.mLocStatus ∧ isPlaying b.mSource then
      some (.invalidParam, b, dev)
    else b.setLocationIn room parent dev loc

/-- The second half of `Buffer::Initialize`. -/
def initLocationIn (room : Bool) (parent : Parent) (b : Buffer) (dev : DeviceSources) :
    Option (HResult × Buffer × DeviceSources) := do
  let sb ← b.mBuffer
  let (hr, b, dev) ←
    if hasFlag sb.mFlags Caps.locDefer then some (.ok, b, dev)
    else b.setLocationIn room parent dev (describedLocation sb.mFlags)
  some (hr, { b with mIsInitialized := hr.succeeded }, dev)

/-- `Buffer::Play`. -/
def playIn (room : Bool) (parent : Parent) (b : Buffer) (dev : DeviceSources)
    (priority flags : UInt32) (started : Bool) :
    Option (HResult × Buffer × DeviceSources × Bool) := do
  if b.mBufferLost then some (.bufferLost, b, dev, false)
  else
    let sb ← b.mBuffer
    if hasFlag sb.mFlags Caps.locDefer then
      let (hr, b, dev) ← b.deferredLocationIn room parent dev flags
      if hr.failed then some (hr, b, dev, false)
      else
        let (hr, b, notify) := b.start sb flags started
        some (hr, b, dev, notify)
    else if priority ≠ 0 then some (.invalidParam, b, dev, false)
    else
      let (hr, b, notify) := b.start sb flags started
      some (hr, b, dev, notify)

/-- `Buffer::AcquireResources`. -/
def acquireResourcesIn (room : Bool) (parent : Parent) (b : Buffer) (dev : DeviceSources)
    (flags effectsCount : UInt32) (resultCodes : Bool) :
    Option (HResult × Buffer × DeviceSources) := do
  if b.mBufferLost then some (.bufferLost, b, dev)
  else if effectsCount ≠ 0 ∨ resultCodes then some (.invalidParam, b, dev)
  else
    let sb ← b.mBuffer
    if hasFlag sb.mFlags Caps.locDefer then b.deferredLocationIn room parent dev flags
    else some (.ok, b, dev)

/-- What `Prop::Set` does to the buffer for a property of an EAX source. -/
def propSetIn (room : Bool) (parent : Parent) (b : Buffer) : Buffer :=
  if parent.mExtensions.eax then b.genSourceIn room else b

/-! ### The calls of `setLocation` -/

/-- `setLocation(want)` gives up the location of the buffer, if any, and looks for
another. -/
def Moves (b : Buffer) (want : LocStatus) : Prop :=
  if want = .none then b.mLocStatus = .none else b.mLocStatus ≠ want

instance (b : Buffer) (want : LocStatus) : Decidable (b.Moves want) :=
  inferInstanceAs (Decidable (ite _ _ _))

/-- The location `deferredLocation` asks `setLocation` for, if it calls it. -/
def deferredCall (b : Buffer) (flags : UInt32) : Option LocStatus :=
  let loc := wantedLocation flags
  if hasFlag flags PlayFlags.locSoftware ∧ hasFlag flags PlayFlags.locHardware then none
  else if loc ≠ .none ∧ b.mLocStatus ≠ .none ∧ loc ≠ b.mLocStatus ∧ isPlaying b.mSource then none
  else some loc

/-- The location `Play` asks `setLocation` for. -/
def playCall (b : Buffer) (flags : UInt32) : Option LocStatus :=
  if !b.mBufferLost ∧ b.hasCaps Caps.locDefer then b.deferredCall flags else none

/-- The location `AcquireResources` asks `setLocation` for. -/
def acquireCall (b : Buffer) (flags effectsCount : UInt32) (resultCodes : Bool) :
    Option LocStatus :=
  if effectsCount ≠ 0 ∨ resultCodes then none else b.playCall flags

/-- The location `Initialize` asks `setLocation` for. -/
def initCall (b : Buffer) : Option LocStatus :=
  b.mBuffer.bind fun sb ↦
    if hasFlag sb.mFlags Caps.locDefer then none else some (describedLocation sb.mFlags)

/-! ### With room

With room for the source these are the methods that always generate one. -/

theorem genSourceIn_true (b : Buffer) : b.genSourceIn true = b.genSource := by
  unfold genSourceIn genSource
  cases b.mSource <;> rfl

theorem setLocationIn_true (parent : Parent) (b : Buffer) (dev : DeviceSources)
    (want : LocStatus) : b.setLocationIn true parent dev want = b.setLocation parent dev want := by
  simp only [setLocationIn, setLocation, genSourceIn_true]
  rfl

theorem deferredLocationIn_true (parent : Parent) (b : Buffer) (dev : DeviceSources)
    (flags : UInt32) :
    b.deferredLocationIn true parent dev flags = b.deferredLocation parent dev flags := by
  simp only [deferredLocationIn, deferredLocation, setLocationIn_true]

theorem initLocationIn_true (parent : Parent) (b : Buffer) (dev : DeviceSources) :
    b.initLocationIn true parent dev = b.initLocation parent dev := by
  simp only [initLocationIn, initLocation, setLocationIn_true]

theorem playIn_true (parent : Parent) (b : Buffer) (dev : DeviceSources)
    (priority flags : UInt32) (started : Bool) :
    b.playIn true parent dev priority flags started = b.play parent dev priority flags started := by
  simp only [playIn, play, deferredLocationIn_true]

theorem acquireResourcesIn_true (parent : Parent) (b : Buffer) (dev : DeviceSources)
    (flags effectsCount : UInt32) (resultCodes : Bool) :
    b.acquireResourcesIn true parent dev flags effectsCount resultCodes =
      b.acquireResources parent dev flags effectsCount resultCodes := by
  simp only [acquireResourcesIn, acquireResources, deferredLocationIn_true]

end Buffer

/-! ## The context -/

/-- `MaxHwSources`. -/
def maxHwSources : UInt32 := 128

namespace DeviceSources

/-- The pools `CreateDeviceShare` makes of the sources of the device. -/
def create (totalSources : UInt32) : Option DeviceSources :=
  if totalSources < 128 then none
  else
    let maxHw := if totalSources > maxHwSources * 2 then maxHwSources else maxHwSources / 2
    some {
      mMaxSources := fun
        | .hw => maxHw
        | .sw => totalSources - maxHw
      mCurrentSources := fun _ ↦ 0 }

/-- The number of sources the context has room for. -/
def capacity (dev : DeviceSources) : ℕ :=
  (dev.mMaxSources .hw).toNat + (dev.mMaxSources .sw).toNat

end DeviceSources

/-- A context: the counters of its device, and the live buffers on it. -/
structure SourceContext where
  dev : DeviceSources
  buffers : List Buffer

/-- A call of a method, with what the buffer reads of its object at that time. -/
inductive ContextOp where
  /-- `CreateSoundBuffer` of a secondary buffer, from its construction on. -/
  | createSoundBuffer (parent : Parent) (is8 : Bool) (desc : BufferDesc) (memory : Bool)
  /-- `DuplicateSoundBuffer` of the buffer `i`. -/
  | duplicateSoundBuffer (i : ℕ) (parent : Parent) (is8 : Bool)
  /-- The last `Release` of the buffer `i`. -/
  | release (i : ℕ)
  | play (i : ℕ) (parent : Parent) (priority flags : UInt32) (started : Bool)
  | acquireResources (i : ℕ) (parent : Parent) (flags effectsCount : UInt32) (resultCodes : Bool)
  /-- `Prop::Set` of a property of an EAX source. -/
  | propSet (i : ℕ) (parent : Parent)
  /-- Any other change of the buffer `i`, to `b`: neither does it get or lose a source,
  nor does its location change. -/
  | other (i : ℕ) (b : Buffer)

namespace SourceContext

/-- The context of a new device. -/
def IsNew (s : SourceContext) : Prop :=
  s.buffers = [] ∧ ∃ totalSources, DeviceSources.create totalSources = some s.dev

/-- The number of sources the buffers of a list have. -/
def numSources (l : List Buffer) : ℕ := l.countP fun b ↦ b.mSource.isSome

/-- Whether `alGenSources` succeeds while the buffers `l` have sources. -/
def hasRoom (s : SourceContext) (l : List Buffer) : Bool := numSources l < s.dev.capacity

/-- Initialize a constructed buffer; if that fails, it is destroyed again. -/
def initializeBuffer (s : SourceContext) (parent : Parent) (b : Buffer) (desc : Option BufferDesc)
    (memory : Bool) : Option SourceContext :=
  match b.attach parent.mExtensions desc memory with
  | .error _ => some s
  | .ok b => do
    let (hr, b, dev) ← b.initLocationIn (s.hasRoom s.buffers) parent s.dev
    if hr.succeeded then some ⟨dev, s.buffers ++ [b]⟩
    else some { s with dev := dev.decSources b.mLocStatus }

/-- Perform a call. -/
def exec (s : SourceContext) : ContextOp → Option SourceContext
  | .createSoundBuffer parent is8 desc memory =>
    s.initializeBuffer parent (.fresh s.buffers.length is8) (some desc) memory
  | .duplicateSoundBuffer i parent is8 => do
    let orig ← s.buffers[i]?
    let sb ← orig.mBuffer
    if hasFlag sb.mFlags Caps.ctrlFX then some s
    else
      let b ← Buffer.duplicate s.buffers.length is8 orig
      s.initializeBuffer parent b none true
  | .release i => do
    let b ← s.buffers[i]?
    some ⟨s.dev.decSources b.mLocStatus, s.buffers.eraseIdx i⟩
  | .play i parent priority flags started => do
    let b ← s.buffers[i]?
    let room := s.hasRoom (s.buffers.eraseIdx i)
    let (_, b, dev, _) ← b.playIn room parent s.dev priority flags started
    some ⟨dev, s.buffers.set i b⟩
  | .acquireResources i parent flags effectsCount resultCodes => do
    let b ← s.buffers[i]?
    let room := s.hasRoom (s.buffers.eraseIdx i)
    let (_, b, dev) ← b.acquireResourcesIn room parent s.dev flags effectsCount resultCodes
    some ⟨dev, s.buffers.set i b⟩
  | .propSet i parent => do
    let b ← s.buffers[i]?
    let room := s.hasRoom (s.buffers.eraseIdx i)
    some { s with buffers := s.buffers.set i (b.propSetIn room parent) }
  | .other i b' => do
    let b ← s.buffers[i]?
    if b'.mSource.isSome = b.mSource.isSome ∧ b'.mLocStatus = b.mLocStatus then
      some { s with buffers := s.buffers.set i b' }
    else none

end SourceContext

end Dsoal
