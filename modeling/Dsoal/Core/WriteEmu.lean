import Dsoal.Core.Methods

/-!
# The write-emulation buffer

At the level `DSSCL_WRITEPRIMARY` the primary buffer has a secondary buffer, `mWriteEmu`,
that plays what the application writes.  `Play`, `Stop` and `SetPan` of the primary buffer
are passed on to it, and the primary buffer notes what they have done in `mPlaying` and
`mPan`.  `createWriteEmu` makes it in three places: `SetCooperativeLevel` when the level is
entered, `SetFormat`, and `Initialize` of the primary buffer.

The model adds to the runs of an object whether the write-emulation buffer has been
started, and not stopped, since it was created.  Only `Play` and `Stop` of the primary buffer
call its `Play` and `Stop`, and the note is made in these calls, of what they return.  The source
of the buffer shows it (`DSound8OAL.EmuSounds`), and the object does not depend on it
(`EmuRun.exec_object`).
-/

namespace Dsoal

/-- A call of `createWriteEmu`, with the object it is made in. -/
structure EmuCall where
  object : DSound8OAL
  flags : UInt32
  mem : Memory

namespace EmuCall

/-- The call makes a buffer: there is memory for it, its description is valid, and there
is a hardware source. -/
def Succeeds (c : EmuCall) : Prop :=
  c.mem.emu ∧ ∃ emu dev,
    (Buffer.fresh c.object.nextBorn false).attach c.object.mExtensions
      (some (c.object.mPrimaryBuffer.emuDesc c.flags)) c.mem.samples = .ok emu ∧
    c.object.mShared = some dev ∧ (dev.acquire .hardware).isSome

end EmuCall

namespace DSound8OAL

/-- The call in `Initialize` of the primary buffer, which comes after its checks. -/
def initializeCall (s : DSound8OAL) (dsBufferDesc : Option BufferDesc) (mem : Memory) :
    Option EmuCall := do
  let desc ← dsBufferDesc
  if desc.lpwfxFormat.isSome ∨ desc.dwBufferBytes ≠ 0 then none
  else if hasFlag desc.dwFlags (Caps.ctrlFX ||| Caps.ctrlPositionNotify) then none
  else if s.mPrimaryBuffer.mFlags ≠ 0 then none
  else if s.mPrioLevel = Level.writePrimary then
    s.destroyWriteEmu.map fun s ↦ ⟨s, desc.dwFlags, mem⟩
  else none

/-- The call in `CreateSoundBuffer` of the primary buffer. -/
def createCall (s : DSound8OAL) (bufferDesc : Option BufferDesc) (dsBuffer outer : Bool)
    (mem : Memory) : Option EmuCall := do
  let desc ← bufferDesc
  if !dsBuffer ∨ outer ∨ desc.dwSize < sizeofBufferDesc1 ∨ s.mShared.isNone then none
  else if hasFlag desc.dwFlags Caps.primaryBuffer then
    let (ref, primary) := s.mPrimaryBuffer.addRef
    let s := { s with mPrimaryBuffer := primary }
    if ref = 1 ∧ primary.mFlags = 0 then s.initializeCall (some desc) mem else none
  else none

/-- The call in `SetFormat`. -/
def formatCall (s : DSound8OAL) (wfx : Option WaveFormat) (mem : Memory) : Option EmuCall := do
  let wfx ← wfx
  if s.mPrioLevel < Level.priority then none
  else if wfx.wFormatTag = formatExtensible ∧ wfx.cbSize < extExtraSize then none
  else
    let format ← PrimaryBuffer.copyFormat wfx
    let s := { s with mPrimaryBuffer := { s.mPrimaryBuffer with mFormat := format } }
    if s.mPrimaryBuffer.mWriteEmu.isSome then
      s.destroyWriteEmu.map fun s ↦ ⟨s, s.mPrimaryBuffer.mFlags, mem⟩
    else none

/-- The call in `SetCooperativeLevel`. -/
def levelCall (s : DSound8OAL) (level : UInt32) (mem : Memory) : Option EmuCall :=
  if s.mShared.isNone ∨ level ≠ Level.writePrimary ∨ s.mPrioLevel = Level.writePrimary then none
  else do
    let s ← s.destroyWriteEmu
    let (hr, s) ← s.loseBuffers (livePtrs s.mSecondaryBuffers)
    if hr.failed ∨ s.mPrimaryBuffer.mFlags = 0 then none
    else some ⟨s, s.mPrimaryBuffer.mFlags, mem⟩

/-- The call of `createWriteEmu` an operation makes. -/
def emuCall (s : DSound8OAL) : Op → Option EmuCall
  | .createSoundBuffer bufferDesc dsBuffer outer mem => s.createCall bufferDesc dsBuffer outer mem
  | .setCooperativeLevel level mem => s.levelCall level mem
  | .primary (.initializePrimary dsBufferDesc mem) => s.initializeCall dsBufferDesc mem
  | .primary (.setFormat wfx mem) => s.formatCall wfx mem
  | _ => none

end DSound8OAL

/-- An object, and whether its write-emulation buffer has been started and not stopped
since it was created. -/
structure EmuRun where
  object : DSound8OAL
  started : Bool := false

namespace EmuRun

/-- `mWriteEmu->Play`: the buffer has been started if it succeeds. -/
def playEmu (r : EmuRun) (emu : Buffer) (priority flags : UInt32) (started : Bool) :
    Option (HResult × EmuRun) := do
  let dev ← r.object.mShared
  let (hr, emu, dev, _) ← emu.play r.object.parent dev priority flags started
  some (hr, {
    object := { r.object with
      mShared := some dev
      mPrimaryBuffer := { r.object.mPrimaryBuffer with mWriteEmu := some emu } }
    started := if hr.succeeded then true else r.started })

/-- `mWriteEmu->Stop`, which succeeds: the buffer is not started any more.  Then
`mWriteEmu->SetCurrentPosition(0)`. -/
def stopEmu (r : EmuRun) (emu : Buffer) : Option (HResult × EmuRun) := do
  let sb ← emu.mBuffer
  let emu := match emu.mSource with
    | none => emu
    | some src => { emu.pause with mLastPos := Buffer.stopPos sb src.pause }
  let (_, emu) ← emu.setCurrentPosition 0
  some (.ok, {
    object := { r.object with
      mPrimaryBuffer := { r.object.mPrimaryBuffer with mWriteEmu := some emu } }
    started := false })

/-- `mPlaying` is stored if the call has succeeded. -/
def setPlaying (playing : Bool) (hr : HResult) (r : EmuRun) : HResult × EmuRun :=
  (hr, if hr.succeeded then
    { r with object := { r.object with
        mPrimaryBuffer := { r.object.mPrimaryBuffer with mPlaying := playing } } }
  else r)

/-- `PrimaryBuffer::Play`. -/
def play (r : EmuRun) (priority flags : UInt32) (started : Bool) : Option (HResult × EmuRun) :=
  if !hasFlag flags PlayFlags.looping then some (.invalidParam, r)
  else
    match r.object.mPrimaryBuffer.mWriteEmu with
    | none => some (setPlaying true .ok r)
    | some emu => do
      let (hr, r) ← r.playEmu emu priority flags started
      some (setPlaying true hr r)

/-- `PrimaryBuffer::Stop`. -/
def stop (r : EmuRun) : Option (HResult × EmuRun) :=
  match r.object.mPrimaryBuffer.mWriteEmu with
  | none => some (setPlaying false .ok r)
  | some emu => do
    let (hr, r) ← r.stopEmu emu
    some (setPlaying false hr r)

/-- The write-emulation buffer of `s'` is not one of the buffers constructed up to `s`. -/
def created (s s' : DSound8OAL) : Bool :=
  s'.mPrimaryBuffer.mWriteEmu.any fun emu ↦ s.nextBorn ≤ emu.born

/-- Perform an operation.  A new write-emulation buffer has not been started. -/
def exec [Abi] (r : EmuRun) (op : Op) : Option (HResult × EmuRun) :=
  match op with
  | .primary (.play priority flags started) => r.play priority flags started
  | .primary .stop => r.stop
  | op => (r.object.exec op).map fun (hr, s) ↦
      (hr, { object := s, started := !created r.object s && r.started })

/-- A run begins with a new object. -/
def IsNew (r : EmuRun) : Prop := r.object.IsNew ∧ r.started = false

end EmuRun

/-- One step of an object. -/
def EmuStep [Abi] (r : EmuRun) (op : Op) (r' : EmuRun) : Prop :=
  op.Legal r.object ∧ ∃ hr, r.exec op = some (hr, r')

end Dsoal
