import Dsoal.Core.Notify
import Dsoal.Lib.Laps
import Mathlib.Tactic.Ring

/-!
# Every pass of a position is signalled once

An uninterrupted playback as the polls see it: the source runs on from poll to
poll by less than the size of the buffer, and ends, if it does, by reaching the end
of the data or by being paused for `Stop`.  The events of a position are set
exactly as often as the cursor passes the position, and those of `DSBPN_OFFSETSTOP`
at the last poll only.
-/

universe u

namespace Dsoal

open Laps

variable {ε : Type u}

/-- What a poll finds: the state of the source, and how far it has come in all since
the start of the data. -/
structure Poll where
  state : ALState
  pos : ℕ
  deriving DecidableEq

/-- `AL_BYTE_OFFSET` at a poll. -/
def Poll.ioffset (dataSize : ℕ) (q : Poll) : UInt32 := UInt32.ofNat (q.pos % dataSize)

/-- The source can have come from `prev` to where the poll finds it: by less than the
size of the data, or, if it has stopped, by playing on to the next end of it. -/
def Poll.Follows (dataSize prev : ℕ) (q : Poll) : Prop :=
  match q.state with
  | .initial => False
  | .playing | .paused => prev ≤ q.pos ∧ q.pos < prev + dataSize
  | .stopped => prev < q.pos ∧ q.pos ≤ prev + dataSize ∧ dataSize ∣ q.pos

/-- An uninterrupted playback from `prev`: the source is playing at every poll but
perhaps the last. -/
def Playback (dataSize : ℕ) : ℕ → List Poll → Prop
  | _, [] => True
  | prev, q :: polls =>
    q.Follows dataSize prev ∧ (q.state = .playing ∨ polls = []) ∧ Playback dataSize q.pos polls

/-- Where a playback from `start` ends. -/
def finalPos : ℕ → List Poll → ℕ
  | start, [] => start
  | _, q :: polls => finalPos q.pos polls

/-- The events set at each poll. -/
def signalled (dataSize : ℕ) (notifies : List (PositionNotify ε)) :
    UInt32 → List Poll → List (List (PositionNotify ε))
  | _, [] => []
  | lastPos, q :: polls =>
    let r := updateNotify dataSize notifies lastPos q.state (q.ioffset dataSize)
    r.1 :: signalled dataSize notifies r.2.1 polls

/-! ## One poll -/

section Poll

variable [DecidableEq ε] {dataSize prev : ℕ} {notifies : List (PositionNotify ε)}
  {e : PositionNotify ε} {q : Poll}

/-- Filtering keeps all or none of the occurrences of an entry. -/
theorem count_filter_ite (p : PositionNotify ε → Bool) :
    (notifies.filter p).count e = if p e then notifies.count e else 0 := by
  by_cases hp : p e = true
  · rw [if_pos hp, List.count_filter hp]
  · rw [if_neg hp, List.count_eq_zero]
    exact fun hmem ↦ hp (List.of_mem_filter hmem)

/-- Which polls signal an entry that is not for the end of the playback. -/
theorem count_hitNotifies (hstop : e.dwOffset ≠ offsetStop) (lastPos offset : UInt32) :
    (hitNotifies notifies lastPos offset).count e =
      if (lastPos < offset ∧ lastPos ≤ e.dwOffset ∧ e.dwOffset < offset) ∨
        (offset < lastPos ∧ (lastPos ≤ e.dwOffset ∨ e.dwOffset < offset))
      then notifies.count e else 0 := by
  unfold hitNotifies
  by_cases hlt : lastPos < offset
  · have hgt : ¬ offset < lastPos := UInt32.not_lt.mpr (UInt32.le_of_lt hlt)
    rw [if_pos hlt, count_filter_ite]
    simp [hlt, hgt]
  · by_cases hgt : offset < lastPos
    · rw [if_neg hlt, if_pos hgt, count_filter_ite]
      simp [hlt, hgt, hstop]
    · rw [if_neg hlt, if_neg hgt, List.count_nil]
      simp [hlt, hgt]

/-- Polls leave the entries for the end of the playback to the last one. -/
theorem count_hitNotifies_stop (hstop : e.dwOffset = offsetStop) (lastPos offset : UInt32) :
    (hitNotifies notifies lastPos offset).count e = 0 := by
  have hmax : ¬ offsetStop < offset := by
    rw [UInt32.lt_iff_toNat_lt]
    exact Nat.not_lt.mpr (Nat.le_sub_one_of_lt offset.toNat_lt)
  unfold hitNotifies
  split_ifs
  · rw [count_filter_ite, hstop]
    simp [hmax]
  · rw [count_filter_ite, hstop]
    simp
  · rfl

theorem toNat_ofNat_mod (hsize : 0 < dataSize) (hmax : dataSize < 2 ^ 32) (x : ℕ) :
    (UInt32.ofNat (x % dataSize)).toNat = x % dataSize :=
  UInt32.toNat_ofNat_of_lt' ((Nat.mod_lt x hsize).trans hmax)

/-- A source that has stopped is at the next end of the data. -/
theorem Poll.Follows.stopped_pos (hq : q.Follows dataSize prev) (hstate : q.state = .stopped)
    (hsize : 0 < dataSize) : q.pos = (prev / dataSize + 1) * dataSize := by
  simp only [Poll.Follows, hstate] at hq
  obtain ⟨hlt, hle, c, hc⟩ := hq
  rw [hc] at hlt hle
  rw [hc, Nat.mul_comm]
  congr 1
  have hlo : prev / dataSize < c := Nat.div_lt_of_lt_mul hlt
  have hhi : c ≤ prev / dataSize + 1 := by
    have := Nat.le_div_iff_mul_le hsize |>.mpr ((Nat.mul_comm _ _).trans_le hle)
    rwa [Nat.add_div_right _ hsize] at this
  omega

/-- **Step lemma**: one poll signals an entry if the cursor has passed its position
since the last one. -/
theorem count_updateNotify (notifies : List (PositionNotify ε)) (hmax : dataSize < 2 ^ 32)
    (he : e.dwOffset.toNat < dataSize) (hq : q.Follows dataSize prev) :
    (updateNotify dataSize notifies (UInt32.ofNat (prev % dataSize)) q.state
        (q.ioffset dataSize)).1.count e + notifies.count e * passes e.dwOffset.toNat dataSize prev =
      notifies.count e * passes e.dwOffset.toNat dataSize q.pos := by
  have hsize : 0 < dataSize := Nat.zero_lt_of_lt he
  have hstop : e.dwOffset ≠ offsetStop := by
    intro h
    have hval : offsetStop.toNat = 2 ^ 32 - 1 := rfl
    rw [h, hval] at he
    omega
  have hhit : (updateNotify dataSize notifies (UInt32.ofNat (prev % dataSize)) q.state
      (q.ioffset dataSize)).1.count e = (hitNotifies notifies (UInt32.ofNat (prev % dataSize))
        (pollOffset dataSize q.state (q.ioffset dataSize))).count e := by
    unfold updateNotify
    split_ifs
    · rw [List.count_append, count_filter_ite]
      simp [hstop]
    · rfl
  rw [hhit, count_hitNotifies hstop]
  simp only [UInt32.lt_iff_toNat_lt, UInt32.le_iff_toNat_le, toNat_ofNat_mod hsize hmax]
  by_cases hstate : q.state = .stopped
  · -- the end of the data
    have hlast := hq.stopped_pos hstate hsize
    have hoff : (pollOffset dataSize q.state (q.ioffset dataSize)).toNat = dataSize := by
      rw [pollOffset, if_pos hstate, UInt32.toNat_ofNat_of_lt' hmax]
    have hrem := Nat.mod_lt prev hsize
    rw [hoff, hlast, passes_lap_end he]
    split_ifs <;> first | (exfalso; omega) | ring
  · have hoff : (pollOffset dataSize q.state (q.ioffset dataSize)).toNat = q.pos % dataSize := by
      rw [pollOffset, if_neg hstate, Poll.ioffset, toNat_ofNat_mod hsize hmax]
    have hrange : prev ≤ q.pos ∧ q.pos < prev + dataSize := by
      unfold Poll.Follows at hq
      split at hq
      · cases hq
      · exact hq
      · exact hq
      · exact absurd ‹_› hstate
    rw [hoff]
    rcases lap_cases hsize hrange.1 hrange.2 with ⟨hlap, hres⟩ | ⟨hlap, hres⟩
    · rw [passes_ahead hlap hres]
      split_ifs <;> first | (exfalso; omega) | ring
    · rw [passes_around hlap hres]
      split_ifs <;> first | (exfalso; omega) | ring

/-- The entries for the end of the playback are signalled when the source is found
not playing. -/
theorem count_updateNotify_stop (hstop : e.dwOffset = offsetStop) (lastPos ioffset : UInt32)
    (state : ALState) :
    (updateNotify dataSize notifies lastPos state ioffset).1.count e =
      if state = .playing then 0 else notifies.count e := by
  unfold updateNotify
  by_cases hstate : state = .playing
  · simp [hstate, count_hitNotifies_stop hstop]
  · simp [hstate, count_hitNotifies_stop hstop, hstop]

end Poll

/-! ## A playback -/

section Playback

variable [DecidableEq ε] {dataSize : ℕ} {notifies : List (PositionNotify ε)}
  {e : PositionNotify ε}

omit [DecidableEq ε] in
/-- A poll of a playing source leaves the position it has seen. -/
theorem updateNotify_lastPos {q : Poll} (hq : q.state = .playing) (lastPos : UInt32) :
    (updateNotify dataSize notifies lastPos q.state (q.ioffset dataSize)).2.1 =
      UInt32.ofNat (q.pos % dataSize) := by
  rw [hq]
  rfl

/-- **Run lemma**: over a playback the polls signal what the cursor passes. -/
theorem count_signalled (notifies : List (PositionNotify ε)) (hmax : dataSize < 2 ^ 32)
    (he : e.dwOffset.toNat < dataSize) {prev : ℕ} {polls : List Poll}
    (hplay : Playback dataSize prev polls) :
    (signalled dataSize notifies (UInt32.ofNat (prev % dataSize)) polls).flatten.count e +
        notifies.count e * passes e.dwOffset.toNat dataSize prev =
      notifies.count e * passes e.dwOffset.toNat dataSize (finalPos prev polls) := by
  induction polls generalizing prev with
  | nil => simp [signalled, finalPos]
  | cons q polls ih =>
      obtain ⟨hq, hlast, hrest⟩ := hplay
      have hpoll := count_updateNotify notifies hmax he hq
      simp only [signalled, List.flatten_cons, List.count_append, finalPos]
      rcases hlast with hplaying | rfl
      · have htail := ih hrest
        rw [updateNotify_lastPos hplaying]
        omega
      · simp only [signalled, finalPos, List.flatten_nil, List.count_nil]
        omega

/-- **Notifications are signalled exactly.**  Over any uninterrupted playback from
`start`, the events of an entry for the position `n` are set once for each time the
cursor passes `n`, and those of an entry for the end of the playback once, at the
poll that finds the source not playing. -/
theorem notifications_exact (notifies : List (PositionNotify ε)) (hmax : dataSize < 2 ^ 32)
    {start : ℕ} (hstart : start < dataSize) {polls : List Poll}
    (hplay : Playback dataSize start polls) :
    (∀ e : PositionNotify ε, e.dwOffset.toNat < dataSize →
      (signalled dataSize notifies (UInt32.ofNat start) polls).flatten.count e =
        notifies.count e * {m : ℕ | start ≤ e.dwOffset.toNat + m * dataSize ∧
          e.dwOffset.toNat + m * dataSize < finalPos start polls}.ncard) ∧
    ∀ e : PositionNotify ε, e.dwOffset = offsetStop →
      (signalled dataSize notifies (UInt32.ofNat start) polls).map (List.count e) =
        polls.map fun q ↦ if q.state = .playing then 0 else notifies.count e := by
  refine ⟨fun e he ↦ ?_, fun e he ↦ ?_⟩
  · have hcount := count_signalled notifies hmax he hplay
    rw [Nat.mod_eq_of_lt hstart] at hcount
    rw [ncard_passes he, Nat.mul_sub]
    omega
  · generalize UInt32.ofNat start = lastPos
    clear hplay
    induction polls generalizing lastPos with
    | nil => rfl
    | cons q polls ih =>
        rw [signalled, List.map_cons, List.map_cons, count_updateNotify_stop he, ih]

end Playback

/-- A loop round the end of the data that ends there the next time. -/
theorem notifications_exact_loop :
    Playback 100 10 [⟨.playing, 60⟩, ⟨.playing, 130⟩, ⟨.stopped, 200⟩] ∧
    (signalled 100 [⟨50, 7⟩, ⟨offsetStop, 8⟩] (UInt32.ofNat 10)
        [⟨.playing, 60⟩, ⟨.playing, 130⟩, ⟨.stopped, 200⟩]).flatten.count ⟨50, 7⟩ = 2 ∧
    {m : ℕ | 10 ≤ 50 + m * 100 ∧ 50 + m * 100 < 200}.ncard = 2 := by
  have hplay : Playback 100 10 [⟨.playing, 60⟩, ⟨.playing, 130⟩, ⟨.stopped, 200⟩] := by
    simp [Playback, Poll.Follows]
  have hcount : (signalled 100 [⟨50, 7⟩, ⟨offsetStop, 8⟩] (UInt32.ofNat 10)
      [⟨.playing, 60⟩, ⟨.playing, 130⟩, ⟨.stopped, 200⟩]).flatten.count ⟨50, 7⟩ = 2 := by decide
  have hexact := (notifications_exact [⟨50, 7⟩, ⟨offsetStop, 8⟩] (by decide) (by decide)
    hplay).1 ⟨50, 7⟩ (by decide)
  have hone : ([⟨50, 7⟩, ⟨offsetStop, 8⟩] : List (PositionNotify ℕ)).count ⟨50, 7⟩ = 1 := by decide
  rw [hcount, hone, Nat.one_mul] at hexact
  exact ⟨hplay, hcount, hexact.symm⟩

end Dsoal
