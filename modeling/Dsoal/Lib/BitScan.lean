import Mathlib.Data.List.Sort
import Mathlib.Data.BitVec

/-!
# Scanning the set bits of a word

The loop

```
while(mask) { i = countr_zero(mask); mask &= ~(1 << i); visit(i); }
```

visits the set bits of a word from the lowest to the highest.  `clearLowest` is
its body and `scan` its list of visits.  The facts a user needs are that the
loop ends (`clearLowest_iterate_eq_zero`: after as many iterations as the word
has bits nothing is left), that it visits exactly the set bits (`mem_scan`) and
that it visits each of them once, in increasing order (`scan_pairwise`,
`scan_nodup`).
-/

namespace BitScan

variable {w : ℕ}

/-- The index of the lowest set bit, `w` for the zero word. -/
def lowest (m : BitVec w) : ℕ := m.ctz.toNat

/-- The word whose only set bit is `i`. -/
def bit (w i : ℕ) : BitVec w := 1#w <<< i

/-- One iteration of the loop: the lowest set bit is cleared. -/
def clearLowest (m : BitVec w) : BitVec w := m &&& ~~~bit w (lowest m)

/-- The visits of at most `n` iterations of the loop. -/
def scanFuel : ℕ → BitVec w → List ℕ
  | 0, _ => []
  | n + 1, m => if m = 0#w then [] else lowest m :: scanFuel n (clearLowest m)

/-- The visits of the loop. -/
def scan (m : BitVec w) : List ℕ := scanFuel w m

@[simp] theorem getLsbD_bit {i j : ℕ} :
    (bit w i).getLsbD j = (decide (j < w) && decide (j = i)) := by
  unfold bit
  rw [BitVec.getLsbD_shiftLeft, BitVec.getLsbD_one]
  by_cases hw : j < w
  · by_cases h : j = i
    · subst h
      have h0 : 0 < w := by omega
      simp [hw, h0]
    · by_cases hlt : j < i
      · simp [hlt, h]
      · have hne : j - i ≠ 0 := by omega
        simp [h, hne]
  · simp [hw]

/-- The bit the loop picks is set. -/
theorem getLsbD_lowest {m : BitVec w} (h : m ≠ 0#w) : m.getLsbD (lowest m) = true :=
  BitVec.getLsbD_true_ctz_of_ne_zero h

/-- The bit the loop picks is below every other set bit. -/
theorem lowest_le {m : BitVec w} {i : ℕ} (h : m.getLsbD i = true) : lowest m ≤ i := by
  by_contra hlt
  rw [BitVec.getLsbD_false_of_lt_ctz (not_le.mp hlt)] at h
  exact Bool.false_ne_true h

/-- The bit the loop picks is inside the word. -/
theorem lowest_lt {m : BitVec w} (h : m ≠ 0#w) : lowest m < w :=
  BitVec.lt_of_getLsbD (getLsbD_lowest h)

theorem eq_zero_of_getLsbD {m : BitVec w} (h : ∀ i, m.getLsbD i = false) : m = 0#w :=
  BitVec.eq_of_getLsbD_eq fun i _ ↦ by rw [h, BitVec.getLsbD_zero]

/-- Clearing the lowest set bit clears that bit and no other. -/
theorem getLsbD_clearLowest (m : BitVec w) (i : ℕ) :
    (clearLowest m).getLsbD i = (m.getLsbD i && decide (i ≠ lowest m)) := by
  unfold clearLowest
  rw [BitVec.getLsbD_and, BitVec.getLsbD_not, getLsbD_bit]
  by_cases hi : i < w
  · by_cases h : i = lowest m <;> simp [hi, h]
  · simp [BitVec.getLsbD_of_ge m i (not_lt.mp hi)]

/-- Whatever is set after `n` iterations was set before and lies at `n` or
above: every iteration pushes the lowest set bit up. -/
theorem le_of_getLsbD_iterate (m : BitVec w) (n : ℕ) :
    ∀ i, (clearLowest^[n] m).getLsbD i = true → n ≤ i := by
  induction n with
  | zero => exact fun i _ ↦ Nat.zero_le i
  | succ n ih =>
      intro i hi
      rw [Function.iterate_succ_apply', getLsbD_clearLowest] at hi
      obtain ⟨hset, hne⟩ : (clearLowest^[n] m).getLsbD i = true ∧
          i ≠ lowest (clearLowest^[n] m) := by
        simpa using hi
      have hle : lowest (clearLowest^[n] m) ≤ i := lowest_le hset
      have hz : clearLowest^[n] m ≠ 0#w := fun hz ↦ by simp [hz] at hset
      have hn : n ≤ lowest (clearLowest^[n] m) := ih _ (getLsbD_lowest hz)
      omega

/-- **The loop ends.**  After `w` iterations no bit is left to visit. -/
theorem clearLowest_iterate_eq_zero (m : BitVec w) : clearLowest^[w] m = 0#w := by
  refine eq_zero_of_getLsbD fun i ↦ ?_
  by_contra h
  have hset : (clearLowest^[w] m).getLsbD i = true := by simpa using h
  exact absurd (BitVec.lt_of_getLsbD hset) (not_lt.mpr (le_of_getLsbD_iterate m w i hset))

/-- The visits of `n` iterations are bits that are set in the word, and every
set bit that is not visited is still set afterwards. -/
theorem mem_scanFuel (n : ℕ) (m : BitVec w) (i : ℕ) :
    m.getLsbD i = true ↔ i ∈ scanFuel n m ∨ (clearLowest^[n] m).getLsbD i = true := by
  induction n generalizing m with
  | zero => simp [scanFuel]
  | succ n ih =>
      rw [Function.iterate_succ_apply]
      by_cases hz : m = 0#w
      · subst hz
        have hc : clearLowest (0#w) = 0#w := by simp [clearLowest]
        have hit : ∀ k, clearLowest^[k] (0#w) = 0#w := fun k ↦ Function.iterate_fixed hc k
        simp [scanFuel, hc, hit]
      · have hstep := ih (clearLowest m)
        rw [getLsbD_clearLowest] at hstep
        simp only [scanFuel, hz, if_false, List.mem_cons]
        by_cases hi : i = lowest m
        · simp [hi, getLsbD_lowest hz]
        · simpa [hi] using hstep

/-- **The loop visits exactly the set bits.** -/
theorem mem_scan {m : BitVec w} {i : ℕ} : i ∈ scan m ↔ m.getLsbD i = true := by
  rw [mem_scanFuel w m i, clearLowest_iterate_eq_zero]
  simp [scan]

/-- The visits of the loop come in increasing order. -/
theorem scanFuel_pairwise (n : ℕ) (m : BitVec w) : (scanFuel n m).Pairwise (· < ·) := by
  induction n generalizing m with
  | zero => exact List.Pairwise.nil
  | succ n ih =>
      by_cases hz : m = 0#w
      · simp [scanFuel, hz]
      · simp only [scanFuel, hz, if_false, List.pairwise_cons]
        refine ⟨fun i hi ↦ ?_, ih _⟩
        have hset := (mem_scanFuel n (clearLowest m) i).mpr (Or.inl hi)
        rw [getLsbD_clearLowest] at hset
        obtain ⟨hm, hne⟩ : m.getLsbD i = true ∧ i ≠ lowest m := by simpa using hset
        exact lt_of_le_of_ne (lowest_le hm) (Ne.symm hne)

theorem scan_pairwise (m : BitVec w) : (scan m).Pairwise (· < ·) := scanFuel_pairwise w m

/-- **The loop visits no bit twice.** -/
theorem scan_nodup (m : BitVec w) : (scan m).Nodup :=
  (scan_pairwise m).imp fun h ↦ ne_of_lt h

/-- Every visit is a position of the word. -/
theorem lt_of_mem_scan {m : BitVec w} {i : ℕ} (h : i ∈ scan m) : i < w :=
  BitVec.lt_of_getLsbD (mem_scan.mp h)

/-- The visits of the loop, as positions of the word. -/
def scanFin (m : BitVec w) : List (Fin w) := (scan m).pmap Fin.mk fun _ h ↦ lt_of_mem_scan h

theorem mem_scanFin {m : BitVec w} {i : Fin w} : i ∈ scanFin m ↔ m.getLsbD i = true := by
  rw [← mem_scan, scanFin, List.mem_pmap]
  constructor
  · rintro ⟨a, ha, rfl⟩
    exact ha
  · exact fun h ↦ ⟨i, h, rfl⟩

theorem scanFin_nodup (m : BitVec w) : (scanFin m).Nodup :=
  (scan_nodup m).pmap fun _ _ _ _ h ↦ congrArg Fin.val h

end BitScan
