import Mathlib.Algebra.Group.Nat.Defs
import Mathlib.Tactic.TypeStar

/-!
# Packed records

The layout of a record without padding: its fields one after the other, each number with its
low byte first.  A reader takes a field off the front and returns the rest.  Reading is total:
bytes that are missing at the end read as zero, so that a record that has been cut off reads
as one whose last fields are zero.
-/

namespace Packed

/-- A number as `n` bytes. -/
def bytes : ℕ → ℕ → List UInt8
  | 0, _ => []
  | n + 1, x => UInt8.ofNat x :: bytes n (x / 256)

/-- The number some bytes stand for. -/
def value : List UInt8 → ℕ
  | [] => 0
  | b :: bs => b.toNat + 256 * value bs

/-- Take a number of `n` bytes off the front. -/
def read (n : ℕ) (bs : List UInt8) : ℕ × List UInt8 := (value (bs.take n), bs.drop n)

@[simp] theorem length_bytes (n x : ℕ) : (bytes n x).length = n := by
  induction n generalizing x with
  | zero => rfl
  | succ n ih => simp [bytes, ih]

theorem value_bytes {n x : ℕ} (h : x < 256 ^ n) : value (bytes n x) = x := by
  induction n generalizing x with
  | zero =>
      rw [Nat.pow_zero, Nat.lt_one_iff] at h
      simp [bytes, value, h]
  | succ n ih =>
      have hdiv : x / 256 < 256 ^ n := Nat.div_lt_of_lt_mul (by rwa [Nat.pow_succ'] at h)
      rw [bytes, value, ih hdiv, UInt8.toNat_ofNat']
      omega

/-- What has been written in front is what is read. -/
theorem read_bytes_append {n x : ℕ} (h : x < 256 ^ n) (rest : List UInt8) :
    read n (bytes n x ++ rest) = (x, rest) := by
  rw [read, List.take_left' (length_bytes n x), List.drop_left' (length_bytes n x), value_bytes h]

@[simp] theorem read_nil (n : ℕ) : read n [] = (0, []) := by simp [read, value]

/-! ## Words -/

/-- The bytes of a 16-bit field. -/
def word (x : UInt16) : List UInt8 := bytes 2 x.toNat

/-- The bytes of a 32-bit field. -/
def dword (x : UInt32) : List UInt8 := bytes 4 x.toNat

/-- Take a 16-bit field off the front. -/
def readWord (bs : List UInt8) : UInt16 × List UInt8 := (UInt16.ofNat (read 2 bs).1, (read 2 bs).2)

/-- Take a 32-bit field off the front. -/
def readDword (bs : List UInt8) : UInt32 × List UInt8 :=
  (UInt32.ofNat (read 4 bs).1, (read 4 bs).2)

@[simp] theorem length_word (x : UInt16) : (word x).length = 2 := length_bytes _ _

@[simp] theorem length_dword (x : UInt32) : (dword x).length = 4 := length_bytes _ _

@[simp] theorem readWord_append (x : UInt16) (rest : List UInt8) :
    readWord (word x ++ rest) = (x, rest) := by
  have h : x.toNat < 256 ^ 2 := x.toNat_lt
  simp [readWord, word, read_bytes_append h]

@[simp] theorem readDword_append (x : UInt32) (rest : List UInt8) :
    readDword (dword x ++ rest) = (x, rest) := by
  have h : x.toNat < 256 ^ 4 := x.toNat_lt
  simp [readDword, dword, read_bytes_append h]

@[simp] theorem readWord_nil : readWord [] = (0, []) := by simp [readWord]

@[simp] theorem readDword_nil : readDword [] = (0, []) := by simp [readDword]

end Packed
