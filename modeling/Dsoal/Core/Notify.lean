import Mathlib.Data.List.Sort

/-!
# Position notifications

A playing buffer with notification positions is polled: `Buffer::updateNotify`
compares the play position with the one of the last poll (`mLastPos`) and signals
the events of the positions in between.  A position equal to `DSBPN_OFFSETSTOP`
stands for the end of the playback.

Signalling is modelled by the list of the notifications whose events are set, in
the order of the calls.
-/

universe u

namespace Dsoal

/-- The state of an AL source. -/
inductive ALState where
  | initial | playing | paused | stopped
  deriving DecidableEq, Repr

/-- `DSBPOSITIONNOTIFY`, over the type `ε` of event handles. -/
structure PositionNotify (ε : Type u) where
  dwOffset : UInt32
  hEventNotify : ε
  deriving DecidableEq, Repr

/-- `DSBPN_OFFSETSTOP`. -/
def offsetStop : UInt32 := 0xFFFFFFFF

variable {ε : Type u}

/-- The notifications a poll signals for the play position `offset`. -/
def hitNotifies (notifies : List (PositionNotify ε)) (lastPos offset : UInt32) :
    List (PositionNotify ε) :=
  if offset > lastPos then
    notifies.filter fun notify ↦ notify.dwOffset ≥ lastPos ∧ notify.dwOffset < offset
  else if offset < lastPos then
    notifies.filter fun notify ↦
      (notify.dwOffset ≥ lastPos ∨ notify.dwOffset < offset) ∧ notify.dwOffset ≠ offsetStop
  else []

/-- The play position a poll works with: the end of the data if the source has
stopped. -/
def pollOffset (dataSize : ℕ) (state : ALState) (ioffset : UInt32) : UInt32 :=
  if state = .stopped then UInt32.ofNat dataSize else ioffset

/-- `Buffer::updateNotify`: the events it sets, the new `mLastPos`, and whether the
buffer is to be polled again. -/
def updateNotify (dataSize : ℕ) (notifies : List (PositionNotify ε)) (lastPos : UInt32)
    (state : ALState) (ioffset : UInt32) : List (PositionNotify ε) × UInt32 × Bool :=
  let offset := pollOffset dataSize state ioffset
  let hit := hitNotifies notifies lastPos offset
  if state ≠ .playing then
    (hit ++ notifies.filter fun notify ↦ notify.dwOffset = offsetStop, offset, false)
  else (hit, offset, true)

/-- The check and the sorting of `SetNotificationPositions`; `none` if a position is
out of range. -/
def notificationPositions (dataSize : ℕ) (notifies : List (PositionNotify ε)) :
    Option (List (PositionNotify ε)) :=
  if notifies.all fun notify ↦ notify.dwOffset.toNat < dataSize ∨ notify.dwOffset = offsetStop then
    some (notifies.mergeSort fun a b ↦ a.dwOffset ≤ b.dwOffset)
  else none

end Dsoal
