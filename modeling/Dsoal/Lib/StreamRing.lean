import Dsoal.Lib.Ring
import Mathlib.Data.List.Range
import Mathlib.Data.Nat.ModEq

/-!
# Streams on a ring

What is stored one after the other on a ring of `size` places is a stream: its element `c` is
at the place `c % size`, until `size` more have been stored.

* `Holds size stream count ring`: the ring has the last elements of the first `count`;
* a piece that ends at the end of the ring can be stored from the next place on
  (`Holds.store`), and one that does not goes on at the beginning (`Holds.store_split`);
* what is read from there, as one interval or two, are elements of the stream
  (`Holds.read`).
-/

universe u

namespace Ring

variable {α : Type u} {size start len count c : ℕ} {stream : ℕ → α} {ring : ℕ → α}

/-- Store the first `len` elements of `xs` from `start` on. -/
def store (ring : ℕ → α) (start len : ℕ) (xs : ℕ → α) (n : ℕ) : α :=
  if start ≤ n ∧ n < start + len then xs (n - start) else ring n

/-- Of the first `count` elements of a stream, the ring has the last. -/
def Holds (size : ℕ) (stream : ℕ → α) (count : ℕ) (ring : ℕ → α) : Prop :=
  ∀ c < count, count ≤ c + size → ring (c % size) = stream c

theorem Holds.zero (ring : ℕ → α) : Holds size stream 0 ring :=
  fun _ hc ↦ absurd hc (Nat.not_lt_zero _)

/-! ## Places -/

/-- The places after the one of `count`, up to the end of the ring. -/
theorem add_mod_of_lt {i : ℕ} (hi : count % size + i < size) :
    (count + i) % size = count % size + i := by
  rw [← Nat.mod_add_mod, Nat.mod_eq_of_lt hi]

/-- How far the place of a later element is ahead. -/
theorem ahead_mod (hsize : 0 < size) (hle : c ≤ count) :
    ahead size (c % size) (count % size) = (count - c) % size := by
  have hlt : c % size < size := Nat.mod_lt c hsize
  have hsum : count + (size - c % size) = count - c + size * (c / size + 1) := by
    have hdiv := Nat.mod_add_div c size
    rw [Nat.mul_succ]
    omega
  rw [ahead, Nat.mod_add_mod, hsum, Nat.add_mul_mod_self_left]

/-- **Less than a lap** ahead, the place tells the number. -/
theorem ahead_mod_of_lt (hle : c ≤ count) (hlt : count < c + size) :
    ahead size (c % size) (count % size) = count - c := by
  rw [ahead_mod (by omega) hle, Nat.mod_eq_of_lt (by omega)]

/-! ## Storing -/

/-- **The next piece**, which ends at the end of the ring at the latest. -/
theorem Holds.store (h : Holds size stream count ring) (hfit : count % size + len ≤ size) :
    Holds size stream (count + len)
      (store ring (count % size) len fun i ↦ stream (count + i)) := by
  intro c hc hlap
  rcases Nat.lt_or_ge c count with hold | hnew
  · -- an old element, which is not where the piece goes
    have hout : ¬ (count % size ≤ c % size ∧ c % size < count % size + len) := by
      rintro ⟨hle, hlt⟩
      have hahead : ahead size (c % size) (count % size) = count - c :=
        ahead_mod_of_lt hold.le (by omega)
      have hplace : c % size < size := Nat.mod_lt c (by omega)
      rcases hle.eq_or_lt with heq | hlt'
      · rw [heq, ahead_of_le le_rfl hplace] at hahead
        omega
      · rw [ahead_of_lt hlt' hplace.le] at hahead
        omega
    rw [Ring.store, if_neg hout]
    exact h c hold (by omega)
  · obtain ⟨i, rfl⟩ := Nat.exists_eq_add_of_le hnew
    rw [add_mod_of_lt (by omega), Ring.store, if_pos (by omega), Nat.add_sub_cancel_left]

/-- A piece without elements. -/
theorem store_zero (ring xs : ℕ → α) (start : ℕ) : store ring start 0 xs = ring :=
  funext fun n ↦ if_neg (by omega)

/-- **The next piece**, as an interval up to the end of the ring and one from its beginning. -/
theorem Holds.store_split (h : Holds size stream count ring) (hsize : 0 < size)
    (hlen : len ≤ size) :
    Holds size stream (count + len)
      (Ring.store (Ring.store ring (count % size) (min len (size - count % size))
          fun i ↦ stream (count + i))
        0 (len - (size - count % size))
        fun i ↦ stream (count + min len (size - count % size) + i)) := by
  have hlt : count % size < size := Nat.mod_lt count hsize
  have hfit : count % size + min len (size - count % size) ≤ size := by omega
  have hfirst := h.store hfit
  rcases Nat.le_total len (size - count % size) with hle | hle
  · rw [Nat.min_eq_left hle] at hfirst ⊢
    rw [Nat.sub_eq_zero_of_le hle, store_zero]
    exact hfirst
  · -- the first interval ends where the ring does
    rw [Nat.min_eq_right hle] at hfirst ⊢
    have hnext : (count + (size - count % size)) % size = 0 := by
      rw [← Nat.mod_add_mod, Nat.add_sub_cancel' hlt.le, Nat.mod_self]
    have hrest : (count + (size - count % size)) % size + (len - (size - count % size)) ≤ size := by
      rw [hnext]
      omega
    have hsecond := hfirst.store hrest
    rwa [hnext, Nat.add_assoc, Nat.add_sub_cancel' hle] at hsecond

/-- Only the places of the ring count. -/
theorem Holds.congr {ring' : ℕ → α} (h : Holds size stream count ring) (hsize : 0 < size)
    (hring : ∀ n < size, ring' n = ring n) : Holds size stream count ring' :=
  fun c hc hlap ↦ (hring _ (Nat.mod_lt c hsize)).trans (h c hc hlap)

/-! ## Reading -/

/-- What is read from `start` on. -/
def read (ring : ℕ → α) (start len : ℕ) : List α := (List.range len).map fun i ↦ ring (start + i)

theorem read_add (ring : ℕ → α) (start a b : ℕ) :
    read ring start (a + b) = read ring start a ++ read ring (start + a) b := by
  simp only [read, List.range_add, List.map_append, List.map_map]
  refine congrArg _ (List.map_congr_left fun i _ ↦ ?_)
  rw [Function.comp_apply, Nat.add_assoc]

/-- An interval that ends at the end of the ring at the latest. -/
theorem Holds.read_interval (h : Holds size stream count ring) (hlap : count ≤ c + size)
    (hfit : c % size + len ≤ size) (hlen : c + len ≤ count) :
    read ring (c % size) len = read stream c len := by
  refine List.map_congr_left fun i hi ↦ ?_
  have hi : i < len := List.mem_range.mp hi
  rw [← add_mod_of_lt (by omega)]
  exact h (c + i) (by omega) (by omega)

/-- **Elements of the stream** that have been stored and have not been stored over, as an
interval up to the end of the ring and one from its beginning. -/
theorem Holds.read (h : Holds size stream count ring) (hsize : 0 < size)
    (hlap : count ≤ c + size) (hlen : c + len ≤ count) :
    Ring.read ring (c % size) (min len (size - c % size)) ++
      Ring.read ring 0 (len - (size - c % size)) = Ring.read stream c len := by
  have hlt : c % size < size := Nat.mod_lt c hsize
  rcases Nat.le_total len (size - c % size) with hle | hle
  · rw [Nat.min_eq_left hle, Nat.sub_eq_zero_of_le hle,
      h.read_interval hlap (by omega) (by omega)]
    exact List.append_nil _
  · -- the second interval begins a lap after the first one's ring
    have hnext : (c + (size - c % size)) % size = 0 := by
      rw [← Nat.mod_add_mod, Nat.add_sub_cancel' hlt.le, Nat.mod_self]
    have hsecond : Ring.read ring 0 (len - (size - c % size)) =
        Ring.read stream (c + (size - c % size)) (len - (size - c % size)) := by
      rw [← hnext]
      exact h.read_interval (by omega) (by omega) (by omega)
    rw [Nat.min_eq_right hle, h.read_interval hlap (by omega) (by omega), hsecond, ← read_add,
      Nat.add_sub_cancel' hle]

end Ring
