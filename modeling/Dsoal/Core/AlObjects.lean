import Dsoal.Core.Resources

/-!
# OpenAL sources, OpenAL buffers and the samples

`alBufferDataStatic` lets an OpenAL buffer read the samples where they are, in the memory of the
`SharedBuffer`, and `Play` attaches the OpenAL buffer to the source of the buffer.  Neither may
outlive the samples.  A `SharedBuffer` is destroyed with the last `ComPtr` to it, and
`alDeleteBuffers` fails for an OpenAL buffer that a source still has.

Here are the secondary buffers of all objects on one OpenAL context, each with what its methods
do to sources, OpenAL buffers and `SharedBuffer`s.  Every call is under the mutex of its object, so
that it is one step; the order is any.

`mRef` of a `SharedBuffer` is a natural number here.  It counts the `mBuffer` of one live `Buffer`
each, and one more while a call is creating a `Buffer`; a `ULONG` would only wrap around with
`2 ^ 32` live `Buffer`s.
-/

namespace Dsoal

/-- The sources and the buffers of an OpenAL context. -/
structure AlContext where
  sources : Finset AlName := ∅
  /-- `AL_SOURCE_STATE` of the sources. -/
  state : AlName → ALState := fun _ ↦ .initial
  /-- `AL_BUFFER` of the sources, 0 for none. -/
  attached : AlName → AlName := fun _ ↦ 0
  buffers : Finset AlName := ∅
  /-- The `SharedBuffer` where a buffer reads its samples. -/
  data : AlName → ℕ := fun _ ↦ 0

namespace AlContext

/-- `alGenSourcesDirect`. -/
def genSource (c : AlContext) (name : AlName) : AlContext :=
  { c with
    sources := insert name c.sources
    state := Function.update c.state name .initial
    attached := Function.update c.attached name 0 }

/-- `alDeleteSourcesDirect`, of one name. -/
def deleteSource (c : AlContext) (name : AlName) : AlContext :=
  { c with sources := c.sources.erase name }

/-- `alGenBuffersDirect` and `alBufferDataStaticDirect`. -/
def genBuffer (c : AlContext) (name : AlName) (data : ℕ) : AlContext :=
  { c with buffers := insert name c.buffers, data := Function.update c.data name data }

/-- `alDeleteBuffersDirect`, of one name: there is an error if a source has the buffer. -/
def deleteBuffer (c : AlContext) (name : AlName) : AlContext :=
  if ∃ src ∈ c.sources, c.attached src = name then c
  else { c with buffers := c.buffers.erase name }

/-- `AL_SOURCE_STATE` of a name, if it is that of a source. -/
def sourceState (c : AlContext) (src : AlName) : Option ALState :=
  if src ∈ c.sources then some (c.state src) else none

/-- `alSourceiDirect` of `AL_BUFFER`, for a source that is not playing or paused. -/
def attach (c : AlContext) (src name : AlName) : AlContext :=
  if src ∈ c.sources ∧ (name = 0 ∨ name ∈ c.buffers) then
    { c with attached := Function.update c.attached src name }
  else c

/-- The state of a source changes. -/
def setState (c : AlContext) (src : AlName) (st : ALState) : AlContext :=
  { c with state := Function.update c.state src st }

end AlContext

/-- A `SharedBuffer`. -/
structure SharedSamples where
  mAlBuffer : AlName := 0
  mFlags : UInt32
  deriving DecidableEq

/-- What a `Buffer` has of all this. -/
structure BufferObjects where
  mSource : AlName := 0
  /-- The address of the `SharedBuffer`. -/
  mBuffer : Option ℕ := none
  mLocStatus : LocStatus := .none
  mIs8 : Bool
  mIsInitialized : Bool := false

/-- The context, the `SharedBuffer`s and the secondary buffers. -/
structure AlObjects where
  context : AlContext := {}
  shared : RefHeap ℕ SharedSamples := fun _ ↦ none
  live : Finset ℕ := ∅
  buffer : ℕ → BufferObjects := fun _ ↦ { mIs8 := false }

/-- What happens in a call of `setLocation`: whether there is a source in either pool, and what
`alGenSources` returns, or 0 if it fails. -/
structure LocationOutcome where
  hw : Bool
  sw : Bool
  source : AlName

/-- What happens in `SharedBuffer::Create`: whether there is memory, at which address, and what
`alGenBuffers` returns, or 0 if it fails. -/
structure SamplesOutcome where
  memory : Bool
  shared : ℕ
  alBuffer : AlName

namespace AlObjects

/-- Store a buffer. -/
def setBuffer (s : AlObjects) (p : ℕ) (b : BufferObjects) : AlObjects :=
  { s with buffer := Function.update s.buffer p b }

/-- `if(mSource == 0) alGenSourcesDirect(mContext, 1, &mSource)`. -/
def genSourceAt (s : AlObjects) (p : ℕ) (source : AlName) : AlObjects :=
  if (s.buffer p).mSource = 0 ∧ source ≠ 0 then
    { s.setBuffer p { s.buffer p with mSource := source } with
      context := s.context.genSource source }
  else s

/-- `if(const auto srcid = std::exchange(mSource, 0))`, and then `alDeleteSourcesDirect`. -/
def deleteSourceAt (s : AlObjects) (p : ℕ) : AlObjects :=
  if (s.buffer p).mSource ≠ 0 then
    { s.setBuffer p { s.buffer p with mSource := 0 } with
      context := s.context.deleteSource (s.buffer p).mSource }
  else s

/-- The pool in which `setLocation` finds a source. -/
def findPool (env : LocationOutcome) (want : LocStatus) : Option Pool :=
  if want ≠ .software ∧ env.hw then some .hw
  else if want ≠ .hardware ∧ env.sw then some .sw
  else none

/-- `Buffer::setLocation`. -/
def setLocation (s : AlObjects) (p : ℕ) (want : LocStatus) (env : LocationOutcome) :
    HResult × AlObjects :=
  if want ≠ .none ∧ (s.buffer p).mLocStatus = want then (.ok, s)
  else if want = .none ∧ (s.buffer p).mLocStatus ≠ .none then (.ok, s)
  else
    let s := if (s.buffer p).mLocStatus ≠ .none then
        let s := s.deleteSourceAt p
        s.setBuffer p { s.buffer p with mLocStatus := .none }
      else s
    match findPool env want with
    | none => (.allocated, s)
    | some k =>
      let s := s.genSourceAt p env.source
      (.ok, s.setBuffer p { s.buffer p with mLocStatus := .loc k })

/-- `Release` of a `ComPtr<SharedBuffer>`, with `~SharedBuffer`. -/
def releaseShared (s : AlObjects) (a : ℕ) : Option AlObjects := do
  let (freed, shared) ← s.shared.release a
  let s := { s with shared := shared }
  match freed with
  | none => some s
  | some samples =>
    if samples.mAlBuffer ≠ 0 then
      some { s with context := s.context.deleteBuffer samples.mAlBuffer }
    else some s

/-- The constructor of `Buffer`, which copies the pointer of an original. -/
def construct (s : AlObjects) (p : ℕ) (is8 : Bool) (original : Option ℕ) : Option AlObjects :=
  let mBuffer := original.bind fun orig ↦ (s.buffer orig).mBuffer
  let s := { s.setBuffer p { mIs8 := is8, mBuffer := mBuffer } with live := insert p s.live }
  match mBuffer with
  | none => some s
  | some a => (s.shared.addRef a).map fun shared ↦ { s with shared := shared }

/-- `SharedBuffer::Create`, into `mBuffer`. -/
def createShared (s : AlObjects) (p : ℕ) (bufferDesc : BufferDesc) (format : WaveFormat)
    (exts : Extensions) (env : SamplesOutcome) : HResult × AlObjects :=
  match SharedBuffer.create bufferDesc format exts env.memory with
  | .error hr => (hr, s)
  | .ok sb =>
    let samples : SharedSamples := { mAlBuffer := env.alBuffer, mFlags := sb.mFlags }
    let context := if env.alBuffer = 0 then s.context
      else s.context.genBuffer env.alBuffer env.shared
    (.ok, { s.setBuffer p { s.buffer p with mBuffer := some env.shared } with
      shared := s.shared.alloc env.shared samples
      context := context })

/-- Where `Buffer::Initialize` has its samples from. -/
def obtainShared (s : AlObjects) (p : ℕ) (dsBufferDesc : Option BufferDesc) (exts : Extensions)
    (env : SamplesOutcome) : HResult × AlObjects :=
  match (s.buffer p).mBuffer, dsBufferDesc with
  | some _, _ => (.ok, s)
  | none, none => (.invalidParam, s)
  | none, some desc =>
    match desc.lpwfxFormat with
    | none => (.invalidParam, s)
    | some format =>
      if hasFlag desc.dwFlags Caps.ctrl3D ∧ format.nChannels ≠ 1 ∧ (s.buffer p).mIs8 then
        (.invalidParam, s)
      else s.createShared p desc format exts env

/-- The flags of the description of a buffer. -/
def flags (s : AlObjects) (p : ℕ) : Option UInt32 := do
  let a ← (s.buffer p).mBuffer
  let cell ← s.shared a
  some cell.value.mFlags

/-- `Buffer::Initialize`. -/
def initializeBuffer (s : AlObjects) (p : ℕ) (dsBufferDesc : Option BufferDesc)
    (exts : Extensions) (samples : SamplesOutcome) (env : LocationOutcome) :
    Option (HResult × AlObjects) :=
  if (s.buffer p).mIsInitialized then some (.alreadyInitialized, s)
  else
    let (hr, s) := s.obtainShared p dsBufferDesc exts samples
    if hr.failed then some (hr, s)
    else do
      let mFlags ← s.flags p
      let (hr, s) := if hasFlag mFlags Caps.locDefer then (.ok, s)
        else s.setLocation p (Buffer.describedLocation mFlags) env
      some (hr, s.setBuffer p { s.buffer p with mIsInitialized := hr.succeeded })

/-- The part of `Play` from the first call of `alSourcei` on; `started` says whether
`alSourcePlay` succeeds. -/
def start (s : AlObjects) (p : ℕ) (started : Bool) : Option (HResult × AlObjects) := do
  let a ← (s.buffer p).mBuffer
  let cell ← s.shared a
  let src := (s.buffer p).mSource
  match s.context.sourceState src with
  | none => some (.generic, s)
  | some .playing => some (.ok, s)
  | some st =>
    let context := if st = .initial then s.context.attach src cell.value.mAlBuffer else s.context
    if started then some (.ok, { s with context := context.setState src .playing })
    else some (.generic, { s with context := context })

/-- `Play` of a buffer that is not lost. -/
def play (s : AlObjects) (p : ℕ) (priority flags : UInt32) (env : LocationOutcome)
    (started : Bool) : Option (HResult × AlObjects) := do
  let mFlags ← s.flags p
  if hasFlag mFlags Caps.locDefer then
    if hasFlag flags PlayFlags.locSoftware ∧ hasFlag flags PlayFlags.locHardware then
      some (.invalidParam, s)
    else
      let loc := Buffer.wantedLocation flags
      if loc ≠ .none ∧ (s.buffer p).mLocStatus ≠ .none ∧ loc ≠ (s.buffer p).mLocStatus ∧
          s.context.sourceState (s.buffer p).mSource = some .playing then
        some (.invalidParam, s)
      else
        let (hr, s) := s.setLocation p loc env
        if hr.failed then some (hr, s) else s.start p started
  else if priority ≠ 0 then some (.invalidParam, s)
  else s.start p started

/-- `AcquireResources` of a buffer that is not lost, without effects. -/
def acquireResources (s : AlObjects) (p : ℕ) (flags : UInt32) (env : LocationOutcome) :
    Option (HResult × AlObjects) := do
  let mFlags ← s.flags p
  if hasFlag mFlags Caps.locDefer then
    if hasFlag flags PlayFlags.locSoftware ∧ hasFlag flags PlayFlags.locHardware then
      some (.invalidParam, s)
    else
      let loc := Buffer.wantedLocation flags
      if loc ≠ .none ∧ (s.buffer p).mLocStatus ≠ .none ∧ loc ≠ (s.buffer p).mLocStatus ∧
          s.context.sourceState (s.buffer p).mSource = some .playing then
        some (.invalidParam, s)
      else some (s.setLocation p loc env)
  else some (.ok, s)

/-- `alSourcePauseDirect`, in `Stop`. -/
def pauseAt (s : AlObjects) (p : ℕ) : AlObjects :=
  let src := (s.buffer p).mSource
  if s.context.sourceState src = some .playing then
    { s with context := s.context.setState src .paused }
  else s

/-- `~Buffer`. -/
def destroy (s : AlObjects) (p : ℕ) : Option AlObjects :=
  let s := s.deleteSourceAt p
  let mBuffer := (s.buffer p).mBuffer
  let s := { s with live := s.live.erase p }
  match mBuffer with
  | none => some s
  | some a => s.releaseShared a

end AlObjects

/-- A call, or what OpenAL does by itself. -/
inductive AlObjectsOp where
  /-- `createSecondaryBuffer`. -/
  | construct (p : ℕ) (is8 : Bool) (original : Option ℕ)
  | initializeBuffer (p : ℕ) (dsBufferDesc : Option BufferDesc) (exts : Extensions)
    (samples : SamplesOutcome) (env : LocationOutcome)
  | play (p : ℕ) (priority flags : UInt32) (env : LocationOutcome) (started : Bool)
  | acquireResources (p : ℕ) (flags : UInt32) (env : LocationOutcome)
  | stop (p : ℕ)
  /-- `Prop::Set` of a property of the source. -/
  | propSet (p : ℕ) (source : AlName)
  /-- A source has come to its end. -/
  | ended (src : AlName)
  /-- The last `Release` of a buffer, or the destruction of its `DSound8OAL`. -/
  | destroy (p : ℕ)

namespace AlObjects

/-- What OpenAL and the allocator ensure: a new name is of nothing that exists. -/
def FreshSource (s : AlObjects) (source : AlName) : Prop :=
  source = 0 ∨ source ∉ s.context.sources

instance (s : AlObjects) (source : AlName) : Decidable (s.FreshSource source) :=
  inferInstanceAs (Decidable (_ ∨ _))

/-- What `SharedBuffer::Create` is given is new. -/
def FreshSamples (s : AlObjects) (env : SamplesOutcome) : Prop :=
  (s.shared env.shared).isNone ∧ (env.alBuffer = 0 ∨ env.alBuffer ∉ s.context.buffers)

instance (s : AlObjects) (env : SamplesOutcome) : Decidable (s.FreshSamples env) :=
  inferInstanceAs (Decidable (_ ∧ _))

/-- Methods are called on live buffers, buffers are constructed elsewhere, from live originals,
and new names are new. -/
def Legal (s : AlObjects) : AlObjectsOp → Prop
  | .construct p _ original => p ∉ s.live ∧ ∀ orig ∈ original, orig ∈ s.live
  | .initializeBuffer p _ _ samples env =>
    p ∈ s.live ∧ s.FreshSamples samples ∧ s.FreshSource env.source
  | .play p _ _ env _ | .acquireResources p _ env => p ∈ s.live ∧ s.FreshSource env.source
  | .stop p | .destroy p => p ∈ s.live
  | .propSet p source => p ∈ s.live ∧ s.FreshSource source
  | .ended src => s.context.sourceState src = some .playing

/-- Do it. -/
def exec (s : AlObjects) : AlObjectsOp → Option AlObjects
  | .construct p is8 original => s.construct p is8 original
  | .initializeBuffer p dsBufferDesc exts samples env =>
    (s.initializeBuffer p dsBufferDesc exts samples env).map Prod.snd
  | .play p priority flags env started => (s.play p priority flags env started).map Prod.snd
  | .acquireResources p flags env => (s.acquireResources p flags env).map Prod.snd
  | .stop p => some (s.pauseAt p)
  | .propSet p source => some (s.genSourceAt p source)
  | .ended src => some { s with context := s.context.setState src .stopped }
  | .destroy p => s.destroy p

/-- A new context. -/
def IsNew (s : AlObjects) : Prop := s = {}

end AlObjects

/-- One step. -/
def AlObjectsStep (s : AlObjects) (op : AlObjectsOp) (s' : AlObjects) : Prop :=
  s.Legal op ∧ s.exec op = some s'

end Dsoal
