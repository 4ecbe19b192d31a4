import Mathlib

/-!
# The values of floating-point numbers

A `Float32` is a real number, an infinity or no number at all: its `value` is an extended
real or `none`.  The ordered comparisons are those of the values, and are false if there is
none (`lt_iff`, `le_iff`).

Two finite numbers are compared by their exponents first.  That is the order of the values
because an exponent above the smallest comes with a mantissa of full length (`Canonical`).
-/

namespace FloatValue

open Float.Model UnpackedFloat

variable {spec : Format} {a b : UnpackedFloat}

/-! ## Unpacked numbers -/

/-- The number with the mantissa `m` and the exponent `e`. -/
noncomputable def magnitude (m : ℕ) (e : ℤ) : ℝ := m * 2 ^ e

/-- The value of an unpacked number. -/
noncomputable def ofUnpacked : UnpackedFloat → Option EReal
  | .notANumber => none
  | .infinity .positive => some ⊤
  | .infinity .negative => some ⊥
  | .zero _ => some 0
  | .finite .positive m e _ => some (magnitude m e)
  | .finite .negative m e _ => some ((-magnitude m e : ℝ) : EReal)

/-- The smallest exponent of a number that has been unpacked. -/
def lowest (spec : Format) : ℤ := 1 - (spec.exponentBias + spec.mantissaBitsWithoutImplicit)

/-- A mantissa and an exponent as `unpack` returns them. -/
structure Fits (spec : Format) (m : ℕ) (e : ℤ) : Prop where
  short : m < 2 ^ (spec.mantissaBitsWithoutImplicit + 1)
  exponent : lowest spec ≤ e
  full : lowest spec < e → 2 ^ spec.mantissaBitsWithoutImplicit ≤ m

/-- A number as `unpack` returns it. -/
def Canonical (spec : Format) : UnpackedFloat → Prop
  | .finite _ m e _ => Fits spec m e
  | _ => True

theorem toNat_implicit {w : ℕ} (v : BitVec w) : (1#1 ++ v).toNat = 2 ^ w + v.toNat := by
  rw [BitVec.toNat_append, ← Nat.shiftLeft_add_eq_or_of_lt v.isLt, Nat.shiftLeft_eq]
  simp

theorem canonical_unpack (x : BitVec spec.numBits) :
    Canonical spec (UnpackedFloat.unpack spec x) := by
  have hshort := (unpackMantissa x).isLt
  unfold UnpackedFloat.unpack
  dsimp only
  split_ifs with hall hmantissa hzero hmantissa
  · trivial
  · trivial
  · trivial
  · have hexp : (unpackExponent x).toNat = 0 := by
      rw [hzero]
      simp
    have hle : lowest spec = (unpackExponent x).toNat
        - (spec.exponentBias + spec.mantissaBitsWithoutImplicit : ℤ) + 1 := by
      unfold lowest
      omega
    refine ⟨by omega, hle.le, fun hlt ↦ absurd hlt (not_lt.mpr hle.ge)⟩
  · have hexp : (unpackExponent x).toNat ≠ 0 := fun h ↦
      hzero (BitVec.eq_of_toNat_eq (h.trans BitVec.toNat_zero.symm))
    have hm := toNat_implicit (unpackMantissa x)
    refine ⟨by omega, ?_, fun _ ↦ by omega⟩
    unfold lowest
    omega

/-- Of two magnitudes the one with the larger exponent is larger. -/
theorem magnitude_lt {m₁ m₂ : ℕ} {e₁ e₂ : ℤ} (h₁ : Fits spec m₁ e₁) (h₂ : Fits spec m₂ e₂)
    (h : e₁ < e₂) : magnitude m₁ e₁ < magnitude m₂ e₂ := by
  have hshort : (m₁ : ℝ) < 2 ^ (spec.mantissaBitsWithoutImplicit + 1) := mod_cast h₁.short
  have hfull : (2 : ℝ) ^ spec.mantissaBitsWithoutImplicit ≤ m₂ :=
    mod_cast h₂.full (h₁.exponent.trans_lt h)
  have hpow : (0 : ℝ) < 2 ^ e₁ := zpow_pos two_pos e₁
  have hnext : (0 : ℝ) ≤ 2 ^ (e₁ + 1) := (zpow_pos two_pos (e₁ + 1)).le
  have hle : (2 : ℝ) ^ (e₁ + 1) ≤ 2 ^ e₂ := zpow_le_zpow_right₀ one_le_two (by omega)
  calc magnitude m₁ e₁ = (m₁ : ℝ) * 2 ^ e₁ := rfl
    _ < 2 ^ (spec.mantissaBitsWithoutImplicit + 1) * 2 ^ e₁ := by gcongr
    _ = 2 ^ spec.mantissaBitsWithoutImplicit * 2 ^ (e₁ + 1) := by
      rw [pow_succ, zpow_add_one₀ two_ne_zero]
      ring
    _ ≤ m₂ * 2 ^ e₂ := by gcongr
    _ = magnitude m₂ e₂ := rfl

/-- **Two magnitudes** are ordered by their exponents, and then by their mantissas. -/
theorem compare_magnitudes {m₁ m₂ : ℕ} {e₁ e₂ : ℤ} (h₁ : Fits spec m₁ e₁) (h₂ : Fits spec m₂ e₂) :
    (compare e₁ e₂).then (compare m₁ m₂) = cmp (magnitude m₁ e₁) (magnitude m₂ e₂) := by
  rcases lt_trichotomy e₁ e₂ with hlt | rfl | hgt
  · rw [compare_lt_iff_lt.mpr hlt, (cmp_eq_lt_iff _ _).mpr (magnitude_lt h₁ h₂ hlt)]
    rfl
  · have hcast : cmp (m₁ : ℝ) m₂ = cmp m₁ m₂ := Nat.strictMono_cast.cmp_map_eq m₁ m₂
    rw [compare_eq_iff_eq.mpr rfl, magnitude, magnitude, cmp_mul_pos_right (zpow_pos two_pos e₁),
      hcast]
    exact (cmp_eq_compare m₁ m₂).symm
  · rw [compare_gt_iff_gt.mpr hgt, (cmp_eq_gt_iff _ _).mpr (magnitude_lt h₂ h₁ hgt)]
    rfl

/-- A finite number with a sign lies on its side of zero. -/
theorem magnitude_pos {m : ℕ} (hm : 0 < m) (e : ℤ) : 0 < magnitude m e :=
  mul_pos (Nat.cast_pos.mpr hm) (zpow_pos two_pos e)

/-- The order of two values, if there are two. -/
noncomputable def order (x y : Option EReal) : Option Ordering := do
  let v ← x
  let w ← y
  some (cmp v w)

variable {v w : EReal}

theorem order_lt (h : v < w) : order (some v) (some w) = some .lt :=
  congrArg some ((cmp_eq_lt_iff v w).mpr h)

theorem order_gt (h : w < v) : order (some v) (some w) = some .gt :=
  congrArg some ((cmp_eq_gt_iff v w).mpr h)

theorem order_self (v : EReal) : order (some v) (some v) = some .eq :=
  congrArg some (cmp_self_eq_eq v)

theorem order_coe (x y : ℝ) : order (some (x : EReal)) (some (y : EReal)) = some (cmp x y) :=
  congrArg some (EReal.coe_strictMono.cmp_map_eq x y)

theorem order_neg (x y : ℝ) :
    order (some ((-x : ℝ) : EReal)) (some ((-y : ℝ) : EReal)) = some (cmp y x) := by
  have hneg : StrictAnti fun x : ℝ ↦ -x := fun _ _ ↦ neg_lt_neg
  rw [order_coe]
  exact congrArg some (hneg.cmp_map_eq x y)

/-- **The comparison** of two unpacked numbers is that of their values. -/
theorem compare_eq (ha : Canonical spec a) (hb : Canonical spec b) :
    a.compare b = order (ofUnpacked a) (ofUnpacked b) := by
  cases a with
  | notANumber => rfl
  | infinity s =>
      cases b with
      | notANumber => cases s <;> rfl
      | infinity t =>
          cases s <;> cases t
          · exact (order_self _).symm
          · exact (order_lt bot_lt_top).symm
          · exact (order_gt bot_lt_top).symm
          · exact (order_self _).symm
      | zero t =>
          cases s
          · exact (order_lt (EReal.bot_lt_coe 0)).symm
          · exact (order_gt (EReal.coe_lt_top 0)).symm
      | finite t m e hm =>
          cases s <;> cases t
          · exact (order_lt (EReal.bot_lt_coe _)).symm
          · exact (order_lt (EReal.bot_lt_coe _)).symm
          · exact (order_gt (EReal.coe_lt_top _)).symm
          · exact (order_gt (EReal.coe_lt_top _)).symm
  | zero s =>
      cases b with
      | notANumber => rfl
      | infinity t =>
          cases t
          · exact (order_gt (EReal.bot_lt_coe 0)).symm
          · exact (order_lt (EReal.coe_lt_top 0)).symm
      | zero t => exact (order_self _).symm
      | finite t m e hm =>
          have hpos := magnitude_pos hm e
          cases t
          · exact (order_gt (EReal.coe_lt_coe_iff.mpr (neg_lt_zero.mpr hpos))).symm
          · exact (order_lt (EReal.coe_lt_coe_iff.mpr hpos)).symm
  | finite s m e hm =>
      have hpos := magnitude_pos hm e
      cases b with
      | notANumber => cases s <;> rfl
      | infinity t =>
          cases s <;> cases t
          · exact (order_gt (EReal.bot_lt_coe _)).symm
          · exact (order_lt (EReal.coe_lt_top _)).symm
          · exact (order_gt (EReal.bot_lt_coe _)).symm
          · exact (order_lt (EReal.coe_lt_top _)).symm
      | zero t =>
          cases s
          · exact (order_lt (EReal.coe_lt_coe_iff.mpr (neg_lt_zero.mpr hpos))).symm
          · exact (order_gt (EReal.coe_lt_coe_iff.mpr hpos)).symm
      | finite t n f hn =>
          have hpos' := magnitude_pos hn f
          have hmagnitudes := compare_magnitudes ha hb
          cases s <;> cases t
          · refine (congrArg some ?_).trans (order_neg _ _).symm
            rw [hmagnitudes, cmp_swap]
          · exact (order_lt (EReal.coe_lt_coe_iff.mpr
              ((neg_lt_zero.mpr hpos).trans hpos'))).symm
          · exact (order_gt (EReal.coe_lt_coe_iff.mpr
              ((neg_lt_zero.mpr hpos').trans hpos))).symm
          · exact (congrArg some hmagnitudes).trans (order_coe _ _).symm

/-! ## Packed numbers -/

/-- **The value of a number**, `none` for one that is not a number. -/
noncomputable def value (x : Float32) : Option EReal := ofUnpacked x.toModel.unpack

variable {x y : Float32}

theorem compare_value (x y : Float32) :
    x.toModel.unpack.compare y.toModel.unpack = order (value x) (value y) :=
  compare_eq (canonical_unpack _) (canonical_unpack _)

/-- **Less than**, which nothing is that is not a number. -/
theorem lt_iff : x < y ↔ ∃ v w, value x = some v ∧ value y = some w ∧ v < w := by
  have hlt : x < y ↔ order (value x) (value y) = some .lt := by
    rw [← compare_value]
    change decide (_ = true) = true ↔ _
    rw [decide_eq_true_eq]
    exact beq_iff_eq
  rw [hlt]
  cases value x with
  | none => simp [order]
  | some v =>
      cases value y with
      | none => simp [order]
      | some w => simp [order, cmp_eq_lt_iff]

/-- **Less than or equal**. -/
theorem le_iff : x ≤ y ↔ ∃ v w, value x = some v ∧ value y = some w ∧ v ≤ w := by
  have hle : x ≤ y ↔ (order (value x) (value y)).any (·.isLE) = true := by
    rw [← compare_value]
    change decide (_ = true) = true ↔ _
    rw [decide_eq_true_eq]
    rfl
  rw [hle]
  cases value x with
  | none => simp [order]
  | some v =>
      cases value y with
      | none => simp [order]
      | some w => simp [order, cmp_eq_compare, Ordering.isLE_iff_ne_gt, compare_le_iff_le]

/-! ## Ranges -/

/-- The number has a value, which lies in a range. -/
def InRange (lo hi : EReal) (x : Float32) : Prop := ∃ v, value x = some v ∧ lo ≤ v ∧ v ≤ hi

variable {lo hi : EReal} {z : Float32}

theorem InRange.value_ne_none (h : InRange lo hi x) : value x ≠ none := by
  obtain ⟨v, hv, -⟩ := h
  rw [hv]
  exact Option.some_ne_none v

/-- A check that tells what is **outside** a range does not catch it. -/
theorem not_lt_or_lt_iff (hx : value x = some lo) (hy : value y = some hi) :
    ¬ (y < z ∨ z < x) ↔ value z = none ∨ InRange lo hi z := by
  rw [lt_iff, lt_iff, hx, hy]
  unfold InRange
  cases value z with
  | none => simp
  | some v => simp [and_comm]

/-- A check against a lower bound alone. -/
theorem le_iff_inRange (hx : value x = some lo) : x ≤ z ↔ InRange lo ⊤ z := by
  rw [le_iff, hx]
  unfold InRange
  cases value z with
  | none => simp
  | some v => simp

theorem value_zero : value 0 = some 0 := rfl

end FloatValue
