import Mathlib.Algebra.Order.Ring.Nat
import Mathlib.Data.Set.Lattice
import Mathlib.Order.CompletePartialOrder
import Mathlib.Order.Interval.Set.Defs

/-!
# Ranges on a ring

The positions of a ring of `size` bytes are `0`, …, `size - 1`.  `ahead size start n` is
how far `n` is ahead of `start`, and the range of `len` bytes from `start` consists of the
positions fewer than `len` bytes ahead.

* A range of at most a lap is one interval or two (`mem_split`, `disjoint_split`).
* From the two ends of a range alone one can tell what lies between them, but not how many
  laps there are (`between_iff`).
* A range can be gone through in pieces, each of which ends at the end of the ring at the
  latest (`frames_add`, `frames_eq`).
-/

namespace Ring

variable {size start n len k a b block : ℕ}

/-- How far `n` is ahead of `start`. -/
def ahead (size start n : ℕ) : ℕ := (n + (size - start)) % size

theorem ahead_of_le (hle : start ≤ n) (hn : n < size) : ahead size start n = n - start := by
  have h : n + (size - start) = n - start + size := by omega
  rw [ahead, h, Nat.add_mod_right, Nat.mod_eq_of_lt (by omega)]

theorem ahead_of_lt (hlt : n < start) (hstart : start ≤ size) :
    ahead size start n = n + (size - start) :=
  Nat.mod_eq_of_lt (by omega)

theorem ahead_lt (hsize : 0 < size) : ahead size start n < size := Nat.mod_lt _ hsize

/-! ## Splitting at the end -/

/-- **A range** is an interval up to the end of the ring and one from its beginning, which
reaches the first if there is more than a lap. -/
theorem mem_split (hstart : start < size) (hn : n < size) :
    (n ∈ Set.Ico start (start + min len (size - start)) ∨
      n ∈ Set.Ico 0 (len - (size - start))) ↔ ahead size start n < len := by
  simp only [Set.mem_Ico]
  rcases Nat.lt_or_ge n start with h | h
  · rw [ahead_of_lt h hstart.le]
    omega
  · rw [ahead_of_le h hn]
    omega

/-- The two intervals have no position in common. -/
theorem disjoint_split (hstart : start < size) (hlen : len ≤ size) :
    Disjoint (Set.Ico start (start + min len (size - start)))
      (Set.Ico 0 (len - (size - start))) := by
  rw [Set.disjoint_left]
  simp only [Set.mem_Ico]
  omega

/-! ## Between two ends -/

/-- What is met on the way from `old` to `new`, if there is less than a lap between. -/
def Between (old new n : ℕ) : Prop := if new < old then old ≤ n ∨ n < new else old ≤ n ∧ n < new

instance (old new n : ℕ) : Decidable (Between old new n) := by
  unfold Between
  infer_instance

/-- **The way between the ends of a range** is the range without its full laps. -/
theorem between_iff (hstart : start < size) (hn : n < size) :
    Between start ((start + k) % size) n ↔ ahead size start n < k % size := by
  have hk : k % size < size := Nat.mod_lt k (by omega)
  rw [← Nat.add_mod_mod]
  unfold Between
  rcases Nat.lt_or_ge (start + k % size) size with hlt | hge
  · rw [Nat.mod_eq_of_lt hlt, if_neg (by omega)]
    rcases Nat.lt_or_ge n start with h | h
    · rw [ahead_of_lt h hstart.le]
      omega
    · rw [ahead_of_le h hn]
      omega
  · rw [Nat.mod_eq_sub_mod hge, Nat.mod_eq_of_lt (by omega), if_pos (by omega)]
    rcases Nat.lt_or_ge n start with h | h
    · rw [ahead_of_lt h hstart.le]
      omega
    · rw [ahead_of_le h hn]
      omega

/-- Leaving out the full laps leaves out a position unless the range is shorter than the
ring, or the position is in its last lap as well. -/
theorem lt_mod_iff (hsize : 0 < size) :
    (ahead size start n < k % size ↔ ahead size start n < k) ↔
      k < size ∨ ahead size start n < k % size := by
  have hlt : ahead size start n < size := ahead_lt hsize
  rcases Nat.lt_or_ge k size with h | h
  · rw [Nat.mod_eq_of_lt h]
    exact ⟨fun _ ↦ .inl h, fun _ ↦ Iff.rfl⟩
  · omega

/-! ## Going through in pieces -/

/-- The places of `count` frames of `block` bytes that are stored from `start` on. -/
def frames (size start block count : ℕ) : List ℕ :=
  (List.range count).map fun i ↦ (start + i * block) % size

/-- **Frames can be stored in pieces**, each where the one before ends. -/
theorem frames_add : frames size start block (a + b) =
    frames size start block a ++ frames size ((start + a * block) % size) block b := by
  unfold frames
  rw [List.range_add, List.map_append, List.map_map]
  refine congrArg _ (List.map_congr_left fun i _ ↦ ?_)
  show (start + (a + i) * block) % size = ((start + a * block) % size + i * block) % size
  rw [Nat.mod_add_mod, Nat.add_mul, Nat.add_assoc]

/-- The frames of a piece that ends at the end of the ring at the latest. -/
theorem frames_eq (hblock : 0 < block) (hfit : start + a * block ≤ size) :
    frames size start block a = (List.range a).map fun i ↦ start + i * block := by
  refine List.map_congr_left fun i hi ↦ Nat.mod_eq_of_lt ?_
  have hmul : (i + 1) * block ≤ a * block :=
    Nat.mul_le_mul_right block (List.mem_range.mp hi)
  rw [Nat.succ_mul] at hmul
  omega

/-- The bytes of consecutive frames. -/
theorem mem_Ico_mul (hblock : 0 < block) :
    n ∈ Set.Ico start (start + a * block) ↔
      ∃ x ∈ (List.range a).map fun i ↦ start + i * block, n ∈ Set.Ico x (x + block) := by
  simp only [Set.mem_Ico, List.mem_map, List.mem_range]
  constructor
  · rintro ⟨hle, hlt⟩
    have hdiv : (n - start) / block < a := (Nat.div_lt_iff_lt_mul hblock).mpr (by omega)
    have hmod := Nat.mod_lt (n - start) hblock
    have hsum := Nat.div_add_mod' (n - start) block
    exact ⟨_, ⟨_, hdiv, rfl⟩, by omega, by omega⟩
  · rintro ⟨_, ⟨i, hi, rfl⟩, hle, hlt⟩
    have hmul : (i + 1) * block ≤ a * block := Nat.mul_le_mul_right block hi
    rw [Nat.succ_mul] at hmul
    omega

/-- **The bytes of the frames** that are stored from `start` on are those less than their
total size ahead. -/
theorem mem_frames_iff {count : ℕ} (hblock : 0 < block) (hsize : block ∣ size)
    (hdvd : block ∣ start) (hstart : start < size) (hn : n < size) :
    (∃ x ∈ frames size start block count, n ∈ Set.Ico x (x + block)) ↔
      ahead size start n < count * block := by
  simp only [frames, Set.mem_Ico, List.mem_map, List.mem_range]
  constructor
  · rintro ⟨_, ⟨i, hi, rfl⟩, hle, hlt⟩
    have hmul : (i + 1) * block ≤ count * block := Nat.mul_le_mul_right block hi
    rw [Nat.succ_mul] at hmul
    have hahead : ahead size start n ≤
        i * block + (n - (start + i * block) % size) := by
      have hsum : n + (size - start) =
          (start + i * block) % size + (size - start) + (n - (start + i * block) % size) := by
        omega
      have hround : ((start + i * block) % size + (size - start)) % size =
          i * block % size := by
        rw [Nat.mod_add_mod, show start + i * block + (size - start) = i * block + size by omega,
          Nat.add_mod_right]
      rw [ahead, hsum, Nat.add_mod, hround, ← Nat.add_mod]
      exact Nat.mod_le _ _
    omega
  · intro hlt
    set d := ahead size start n with hd
    have hdlt : d < size := ahead_lt (by omega)
    have hround : (start + d) % size = n := by
      rw [hd, ahead, Nat.add_mod_mod, show start + (n + (size - start)) = n + size by omega,
        Nat.add_mod_right, Nat.mod_eq_of_lt hn]
    have hsum := Nat.div_add_mod' d block
    have hmod := Nat.mod_lt d hblock
    have hdiv : d / block < count := (Nat.div_lt_iff_lt_mul hblock).mpr hlt
    -- the frame begins at a multiple of `block` before the end of the ring, so it fits
    have hplace : block ∣ (start + d / block * block) % size :=
      (Nat.dvd_mod_iff hsize).mpr (Nat.dvd_add hdvd (Nat.dvd_mul_left _ _))
    have hfit : (start + d / block * block) % size + block ≤ size := by
      obtain ⟨u, hu⟩ := hplace
      obtain ⟨v, hv⟩ := hsize
      have hulv : (start + d / block * block) % size < size := Nat.mod_lt _ (by omega)
      rw [hu, hv] at hulv ⊢
      rw [← Nat.mul_succ]
      exact Nat.mul_le_mul_left block (lt_of_mul_lt_mul_left' hulv)
    have hn' : n = (start + d / block * block) % size + d % block := by
      rw [← hround, ← Nat.mod_eq_of_lt
        (show (start + d / block * block) % size + d % block < size by omega), Nat.mod_add_mod,
        Nat.add_assoc, hsum]
    exact ⟨_, ⟨_, hdiv, rfl⟩, by omega, by omega⟩

end Ring
