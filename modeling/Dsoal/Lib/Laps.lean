import Mathlib.Data.Set.Card
import Mathlib.Order.Interval.Finset.Nat
import Mathlib.Data.Nat.Cast.Order.Basic

/-!
# Laps

A cursor runs round a track of length `size`; its absolute position says how far
it has come in all.  A mark at `n < size` is passed when the cursor leaves one of
the positions `n`, `n + size`, `n + 2 * size`, ...  `passes n size x` is how often a
cursor that started at zero has passed the mark when it is at `x`.

What an observer sees of a position is its residue.  The second half tells how many
passes there are between two observations less than a lap apart.
-/

namespace Laps

variable {n size x y : ℕ}

/-- How often a cursor at `x` has passed the mark `n`. -/
def passes (n size x : ℕ) : ℕ := x / size + if n < x % size then 1 else 0

/-- The `m`th pass is over when the cursor is beyond `n + m * size`. -/
theorem lt_passes_iff (hn : n < size) (m : ℕ) : m < passes n size x ↔ n + m * size < x := by
  have hx := Nat.div_add_mod x size
  have hr := Nat.mod_lt x (Nat.zero_lt_of_lt hn)
  set q := x / size
  set r := x % size
  rw [Nat.mul_comm] at hx
  unfold passes
  rcases lt_trichotomy m q with h | h | h
  · have hmul : (m + 1) * size ≤ q * size := Nat.mul_le_mul_right size h
    rw [Nat.succ_mul] at hmul
    split <;> omega
  · subst h
    split <;> omega
  · have hmul : (q + 1) * size ≤ m * size := Nat.mul_le_mul_right size h
    rw [Nat.succ_mul] at hmul
    split <;> omega

/-- The passes of a run from `x` to `y` are the multiples of the track length that
put the mark between the two. -/
theorem ncard_passes (hn : n < size) :
    {m : ℕ | x ≤ n + m * size ∧ n + m * size < y}.ncard =
      passes n size y - passes n size x := by
  have hset : {m : ℕ | x ≤ n + m * size ∧ n + m * size < y} =
      ↑(Finset.Ico (passes n size x) (passes n size y)) := by
    ext m
    rw [Finset.coe_Ico, Set.mem_Ico, Set.mem_ofPred_eq, lt_passes_iff hn, ← not_lt, ← not_lt,
      lt_passes_iff hn]
  rw [hset, Set.ncard_coe_finset, Nat.card_Ico]

/-! ## Between two observations -/

/-- Less than a lap on, the cursor is in the same lap or in the next. -/
theorem lap_cases (hsize : 0 < size) (h : x ≤ y) (hlt : y < x + size) :
    (y / size = x / size ∧ x % size ≤ y % size) ∨
      (y / size = x / size + 1 ∧ y % size < x % size) := by
  have hx := Nat.div_add_mod x size
  have hy := Nat.div_add_mod y size
  have hxr := Nat.mod_lt x hsize
  have hyr := Nat.mod_lt y hsize
  have hle : x / size ≤ y / size := Nat.div_le_div_right h
  have hge : y / size ≤ x / size + 1 := by
    have := Nat.div_le_div_right (c := size) hlt.le
    rwa [Nat.add_div_right _ hsize] at this
  rcases Nat.lt_or_eq_of_le hge with hq | hq
  · left
    have heq : y / size = x / size := by omega
    rw [heq] at hy
    exact ⟨heq, by omega⟩
  · right
    rw [hq, Nat.mul_succ] at hy
    exact ⟨hq, by omega⟩

/-- What is passed from one residue on to a larger one. -/
theorem passes_ahead (hq : y / size = x / size) (hr : x % size ≤ y % size) :
    passes n size y = passes n size x + if x % size ≤ n ∧ n < y % size then 1 else 0 := by
  unfold passes
  rw [hq]
  split_ifs <;> omega

/-- What is passed from one residue round to a smaller one. -/
theorem passes_around (hq : y / size = x / size + 1) (hr : y % size < x % size) :
    passes n size y = passes n size x + if x % size ≤ n ∨ n < y % size then 1 else 0 := by
  unfold passes
  rw [hq]
  split_ifs <;> omega

/-- What is passed from a residue to the end of the lap. -/
theorem passes_lap_end (hn : n < size) :
    passes n size ((x / size + 1) * size) =
      passes n size x + if x % size ≤ n then 1 else 0 := by
  have hsize : 0 < size := Nat.zero_lt_of_lt hn
  unfold passes
  rw [Nat.mul_div_cancel _ hsize, Nat.mul_mod_left]
  split_ifs <;> omega

end Laps
