import Dsoal.Core.Methods
import Dsoal.Lib.Dues

/-!
# The ends of a playback

What a buffer with entries for `DSBPN_OFFSETSTOP` owes and settles over a run: these entries
become due when it goes from playing to not playing, be it that its source ends or that `Stop`
pauses it, and a poll that signals them settles them.

The log of the run is not part of the program.
-/

namespace Dsoal

/-- The entries of a list that are for the end of the playback. -/
def stopEntries (notifies : List (PositionNotify EventHandle)) :
    List (PositionNotify EventHandle) :=
  notifies.filter fun notify ↦ notify.dwOffset = offsetStop

namespace DSound8OAL

/-- The source of the buffer at `p` is playing. -/
def playsAt (s : DSound8OAL) (p : Ptr) : Bool :=
  (s.getBuffer p).any fun b ↦ isPlaying b.mSource

/-- The entries of the buffer at `p` for the end of its playback. -/
def stopsAt (s : DSound8OAL) (p : Ptr) : List (PositionNotify EventHandle) :=
  (s.getBuffer p).elim [] fun b ↦ stopEntries b.mNotifies

/-- What a poll of the buffer at `p` signals. -/
def hitsAt (s : DSound8OAL) (p : Ptr) : List (PositionNotify EventHandle) :=
  ((s.getBuffer p).bind Buffer.updateNotify).elim [] Prod.fst

/-- The state in which a call polls the registered buffers, if it does. -/
def pollState (s : DSound8OAL) : Op → Option DSound8OAL
  | .poll => some s
  | .stop q => do
    let b ← s.getBuffer q
    let sb ← b.mBuffer
    if b.mSource.isSome ∧ hasFlag sb.mFlags Caps.ctrlPositionNotify then
      some (s.setBuffer q b.pause)
    else none
  | .setNotificationPositions q notifies => do
    let b ← s.getBuffer q
    if notifies.isSome ∧ ¬ isPlaying b.mSource ∧ b.mSource.isSome ∧ s.isPendingNotify q then
      some s
    else none
  | _ => none

/-- The entries for the end of its playback that a call signals for the buffer at `p`. -/
def stopsSignalled (s : DSound8OAL) (op : Op) (p : Ptr) : List (PositionNotify EventHandle) :=
  (s.pollState op).elim [] fun t ↦ if t.isPendingNotify p then stopEntries (t.hitsAt p) else []

end DSound8OAL

/-- An object, and what the buffer at some pointer owes and settles. -/
structure StopRun where
  object : DSound8OAL
  log : List (Due (List (PositionNotify EventHandle))) := []

/-- An entry of the log, if it is about anything. -/
def due (f : List (PositionNotify EventHandle) → Due (List (PositionNotify EventHandle)))
    (entries : List (PositionNotify EventHandle)) :
    List (Due (List (PositionNotify EventHandle))) :=
  if entries.isEmpty then [] else [f entries]

namespace StopRun

/-- Perform a step. -/
def exec [Abi] (p : Ptr) (r : StopRun) (op : Op) : Option StopRun := do
  let (_, object) ← r.object.exec op
  let ended := if r.object.playsAt p && !object.playsAt p then r.object.stopsAt p else []
  some {
    object := object
    log := r.log ++ (due .incur ended ++ due .settle (r.object.stopsSignalled op p)) }

end StopRun

/-- A call that plays or stops buffers or replaces their notifications, a poll, the mixing of
a source, or what other objects do on the device. -/
def Op.affectsPlaying : Op → Bool
  | .play .. | .stop _ | .acquireResources .. | .setNotificationPositions .. | .poll | .mix ..
  | .otherSources _ => true
  | _ => false

end Dsoal
