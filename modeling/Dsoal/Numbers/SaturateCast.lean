import Dsoal.Capture.Loop
import Dsoal.Core.SaturateCast

/-!
# Saturating conversions

`ds::saturate_cast` clamps for every pair of types, and none of the conversions on the way
changes a value (`saturateCast_clamps`).
-/

namespace Dsoal

open Evaluation IntegralType

variable {R T : IntegralType} {val : ℤ}

/-- The integer clamped to the range of a type. -/
def clampTo (R : IntegralType) (val : ℤ) : ℤ := Max.max R.min (Min.min val R.max)

theorem clampTo_of_has (h : R.Has val) : clampTo R val = val := by
  unfold clampTo
  rw [min_eq_left h.2, max_eq_right h.1]

theorem clampTo_of_lt_min (h : val < R.min) : clampTo R val = R.min := by
  have hrange : R.min ≤ R.max := R.min_le_max
  unfold clampTo
  rw [min_eq_left (h.le.trans hrange), max_eq_left h.le]

theorem clampTo_of_max_lt (h : R.max < val) : clampTo R val = R.max := by
  unfold clampTo
  rw [min_eq_right h.le, max_eq_right R.min_le_max]

/-- **The last part** of the function is exact if the value is not too large, and not too
small for a type with a sign. -/
theorem gives_convert_unsigned (h : T.Has val) (hmax : val ≤ R.max)
    (hmin : R.signed = true → T.signed = true → R.min ≤ val) :
    (if (!R.signed) = true ∧ T.signed = true then do
        if ← less T .int val 0 then convert R 0 else convert R val
      else convert R val : Evaluation ℤ).Gives (clampTo R val) := by
  split_ifs with hsigns
  · obtain ⟨hR, hT⟩ := hsigns
    have hzero : R.min = 0 := min_of_unsigned (Bool.not_eq_true' R.signed ▸ hR)
    refine (gives_less_signed hT rfl h has_zero).branch (fun hneg ↦ ?_) (fun hnonneg ↦ ?_)
    · have hneg : val < R.min := hzero ▸ of_decide_eq_true hneg
      rw [clampTo_of_lt_min hneg, hzero]
      exact gives_convert has_zero
    · have hfits : R.Has val := ⟨hzero ▸ not_lt.mp (of_decide_eq_false hnonneg), hmax⟩
      rw [clampTo_of_has hfits]
      exact gives_convert hfits
  · have hfits : R.Has val := by
      refine ⟨?_, hmax⟩
      cases hT : T.signed with
      | false => exact R.min_nonpos.trans (min_of_unsigned hT ▸ h.1)
      | true =>
          cases hR : R.signed with
          | false => exact absurd ⟨by rw [hR]; rfl, hT⟩ hsigns
          | true => exact hmin hR hT
    rw [clampTo_of_has hfits]
    exact gives_convert hfits

/-- The comparison with the largest value of a type with fewer digits. -/
theorem gives_less_max (h : T.Has val) (hdigits : R.digits < T.digits)
    {y z : Evaluation ℤ} {r : ℤ} (hy : R.max < val → y.Gives r) (hz : val ≤ R.max → z.Gives r) :
    (do
      let m ← convert T R.max
      if ← less T T m val then y else z : Evaluation ℤ).Gives r := by
  have hfits : T.Has R.max := has_max_of_digits hdigits.le
  refine (gives_convert hfits).bind ((gives_less_self hfits h).branch (fun hlt ↦ ?_) fun hle ↦ ?_)
  · exact hy (of_decide_eq_true hlt)
  · exact hz (not_lt.mp (of_decide_eq_false hle))

/-- **`ds::saturate_cast`** clamps. -/
theorem gives_saturateCast (h : T.Has val) :
    (saturateCast R T val).Gives (clampTo R val) := by
  unfold saturateCast
  dsimp only
  by_cases hdigits : R.digits < T.digits
  · rw [if_pos hdigits]
    by_cases hsigns : R.signed = true ∧ T.signed = true
    · rw [if_pos hsigns]
      obtain ⟨hR, hT⟩ := hsigns
      have hfits : R.Has R.min := ⟨le_rfl, R.min_le_max⟩
      refine (gives_less_signed hT hR h hfits).branch (fun hlt ↦ ?_) (fun hle ↦ ?_)
      · rw [clampTo_of_lt_min (of_decide_eq_true hlt)]
        exact gives_pure _
      · refine gives_less_max h hdigits (fun hlt ↦ ?_) fun hmax ↦ ?_
        · rw [clampTo_of_max_lt hlt]
          exact gives_pure _
        · exact gives_convert_unsigned h hmax fun _ _ ↦ not_lt.mp (of_decide_eq_false hle)
    · rw [if_neg hsigns]
      refine gives_less_max h hdigits (fun hlt ↦ ?_) fun hmax ↦ ?_
      · rw [clampTo_of_max_lt hlt]
        exact gives_pure _
      · exact gives_convert_unsigned h hmax fun hR hT ↦ absurd ⟨hR, hT⟩ hsigns
  · rw [if_neg hdigits]
    have hdigits := not_lt.mp hdigits
    refine gives_convert_unsigned h (h.2.trans (has_max_of_digits hdigits).2) fun hR hT ↦ ?_
    exact (h.mono (hT.trans hR.symm) hdigits).1

/-- **`ds::saturate_cast<R>(v)`**, for every pair of integral types and every value of the
second, is the value clamped to the range of the first, and no conversion made on the way
changes what it converts. -/
theorem saturateCast_clamps (R T : IntegralType) (v : T.Value) :
    (saturateCast R T v).value = Max.max R.min (Min.min (v : ℤ) R.max) ∧
      ∀ c ∈ (saturateCast R T v).conversions, c.Exact :=
  gives_saturateCast v.2

/-! ## The conversions of the capture thread -/

/-- `ALCuint`, and `DWORD`. -/
def alcUint : IntegralType := ⟨32, false⟩

theorem has_toNat (n : UInt32) : alcUint.Has n.toNat := by
  have hlt := n.toNat_lt
  constructor
  · exact Int.natCast_nonneg _
  · change (n.toNat : ℤ) ≤ 2 ^ 32 - 1
    omega

theorem has_toInt (n : Int32) : IntegralType.int.Has n.toInt := by
  have hlt := n.toInt_lt
  constructor
  · exact n.le_toInt
  · change n.toInt ≤ 2 ^ 31 - 1
    omega

/-- The number of frames that are asked for, as an `ALCsizei`. -/
theorem saturateSizei_eq (n : UInt32) :
    ((saturateSizei n).toNat : ℤ) = (saturateCast .int alcUint n.toNat).value := by
  rw [(gives_saturateCast (has_toNat n)).1]
  change _ = Max.max (-2 ^ 31) (Min.min (n.toNat : ℤ) (2 ^ 31 - 1))
  unfold saturateSizei
  split_ifs with hgt
  · have hgt : 0x7FFFFFFF < n.toNat := UInt32.lt_iff_toNat_lt.mp hgt
    rw [min_eq_right (by omega)]
    rfl
  · have hle : n.toNat ≤ 0x7FFFFFFF := UInt32.le_iff_toNat_le.mp (UInt32.not_lt.mp hgt)
    rw [min_eq_left (by omega), max_eq_right (by omega)]

/-- The number of frames OpenAL has, as an unsigned number. -/
theorem saturateUnsigned_eq (n : Int32) :
    ((saturateUnsigned n).toNat : ℤ) = (saturateCast alcUint .int n.toInt).value := by
  have hlt := n.toInt_lt
  rw [(gives_saturateCast (has_toInt n)).1, CaptureRing.toNat_saturateUnsigned]
  change (n.toInt.toNat : ℤ) = Max.max 0 (Min.min n.toInt (2 ^ 32 - 1))
  rw [min_eq_left (by omega)]
  omega

end Dsoal
