import Mathlib.Algebra.Order.Ring.Int
import Mathlib.Data.List.Basic
import Mathlib.Tactic.Positivity
import Mathlib.Tactic.Ring

/-!
# Integral types

An integral type of C++ is given by its number of value digits and its signedness.  An
operand is converted before it is worked with: a type that `int` can represent is promoted
to `int`, and two operands are brought to a common type.  A conversion keeps what the new
type can represent, and changes everything else.

`Evaluation` computes a value and lists the conversions made on the way, so that one can
say of an expression that none of them has changed anything (`Exact`).
-/

/-- An integral type: `digits` and `is_signed` of `std::numeric_limits`. -/
structure IntegralType where
  digits : ℕ
  signed : Bool
  deriving DecidableEq, Repr

namespace IntegralType

/-- `bool`, the type with a single digit. -/
def bool : IntegralType := ⟨1, false⟩

/-- `int`. -/
def int : IntegralType := ⟨31, true⟩

/-- `std::numeric_limits<T>::min()`. -/
def min (T : IntegralType) : ℤ := if T.signed then -2 ^ T.digits else 0

/-- `std::numeric_limits<T>::max()`. -/
def max (T : IntegralType) : ℤ := 2 ^ T.digits - 1

/-- The type can represent the integer. -/
def Has (T : IntegralType) (v : ℤ) : Prop := T.min ≤ v ∧ v ≤ T.max

instance (T : IntegralType) (v : ℤ) : Decidable (T.Has v) := inferInstanceAs (Decidable (_ ∧ _))

/-- The values of a type. -/
abbrev Value (T : IntegralType) := { v : ℤ // T.Has v }

/-- The number of bits. -/
def width (T : IntegralType) : ℕ := T.digits + T.signed.toNat

/-! ## Conversions -/

/-- `static_cast<T>(v)`: the value of the type that agrees with `v` modulo `2 ^ width`, or for
`bool` whether `v` is different from zero. -/
def convert (T : IntegralType) (v : ℤ) : ℤ :=
  if T = bool then if v = 0 then 0 else 1
  else T.min + (v - T.min) % 2 ^ T.width

/-- Integral promotion. -/
def promote (T : IntegralType) : IntegralType :=
  if int.min ≤ T.min ∧ T.max ≤ int.max then int else T

/-- The common type of two promoted operands: the wider one, and if the signedness differs
the unsigned one unless the signed one can represent all its values. -/
def common (T U : IntegralType) : IntegralType :=
  if T.signed = U.signed then if T.digits < U.digits then U else T
  else
    let (S, V) := if T.signed then (T, U) else (U, T)
    if S.width ≤ V.width then V else S

/-- The type in which operands of the types `T` and `U` are compared. -/
def usual (T U : IntegralType) : IntegralType := T.promote.common U.promote

variable {T U : IntegralType} {v : ℤ}

theorem max_eq_min_add (T : IntegralType) : T.max = T.min + 2 ^ T.width - 1 := by
  obtain ⟨digits, signed⟩ := T
  cases signed with
  | false => simp [max, min, width]
  | true =>
      simp only [max, min, width, if_true, Bool.toNat_true, pow_succ]
      ring

theorem min_of_unsigned (h : T.signed = false) : T.min = 0 := by
  unfold min
  rw [h]
  rfl

theorem min_nonpos (T : IntegralType) : T.min ≤ 0 := by
  have hpow : (0 : ℤ) < 2 ^ T.digits := by positivity
  unfold min
  split_ifs <;> omega

theorem max_nonneg (T : IntegralType) : 0 ≤ T.max := by
  have hpow : (0 : ℤ) < 2 ^ T.digits := by positivity
  unfold max
  omega

theorem min_le_max (T : IntegralType) : T.min ≤ T.max := T.min_nonpos.trans T.max_nonneg

theorem has_zero : T.Has 0 := ⟨T.min_nonpos, T.max_nonneg⟩

/-- A type with as many digits can represent the largest value. -/
theorem has_max_of_digits (h : T.digits ≤ U.digits) : U.Has T.max := by
  have hpow : (2 : ℤ) ^ T.digits ≤ 2 ^ U.digits := pow_le_pow_right₀ (by decide) h
  refine ⟨U.min_nonpos.trans T.max_nonneg, ?_⟩
  unfold max
  omega

/-- **A conversion keeps** what the new type can represent. -/
theorem convert_of_has (h : T.Has v) : T.convert v = v := by
  unfold convert
  split_ifs with hT hv
  · exact hv.symm
  · subst hT
    have hlo : 0 ≤ v := h.1
    have hhi : v ≤ 1 := h.2
    omega
  · have hlt : v - T.min < 2 ^ T.width := by
      have hmax := T.max_eq_min_add
      have hhi := h.2
      omega
    rw [Int.emod_eq_of_lt (Int.sub_nonneg.mpr h.1) hlt]
    ring

/-- The digits order the types with signs like their ranges. -/
theorem Has.mono (h : T.Has v) (hsigned : T.signed = U.signed) (hdigits : T.digits ≤ U.digits) :
    U.Has v := by
  have hpow : (2 : ℤ) ^ T.digits ≤ 2 ^ U.digits := pow_le_pow_right₀ (by decide) hdigits
  obtain ⟨hlo, hhi⟩ := h
  unfold max at hhi
  refine ⟨le_trans ?_ hlo, ?_⟩
  · unfold min
    rw [hsigned]
    split_ifs <;> omega
  · unfold max
    omega

theorem Has.promote (h : T.Has v) : T.promote.Has v := by
  unfold IntegralType.promote
  split_ifs with hint
  · exact ⟨hint.1.trans h.1, h.2.trans hint.2⟩
  · exact h

/-- Two types of one signedness have a common type that represents what either does. -/
theorem Has.common_left (h : T.Has v) (hsigned : T.signed = U.signed) :
    (T.common U).Has v := by
  unfold IntegralType.common
  rw [if_pos hsigned]
  split_ifs with hlt
  · exact h.mono hsigned hlt.le
  · exact h

theorem Has.common_right (h : U.Has v) (hsigned : T.signed = U.signed) :
    (T.common U).Has v := by
  unfold IntegralType.common
  rw [if_pos hsigned]
  split_ifs with hlt
  · exact h
  · exact h.mono hsigned.symm (not_lt.mp hlt)

theorem signed_promote (h : T.signed = true) : T.promote.signed = true := by
  unfold IntegralType.promote
  split_ifs
  · rfl
  · exact h

end IntegralType

/-! ## Evaluating expressions -/

/-- A conversion of a value to a type. -/
structure Conversion where
  value : ℤ
  target : IntegralType
  deriving DecidableEq, Repr

/-- The conversion does not change the value. -/
def Conversion.Exact (c : Conversion) : Prop := c.target.convert c.value = c.value

instance (c : Conversion) : Decidable c.Exact := inferInstanceAs (Decidable (_ = _))

/-- A value, and the conversions that have been made to compute it. -/
structure Evaluation (α : Type) where
  conversions : List Conversion
  value : α

namespace Evaluation

variable {α β : Type}

instance : Monad Evaluation where
  pure a := ⟨[], a⟩
  bind x f := ⟨x.conversions ++ (f x.value).conversions, (f x.value).value⟩

/-- Convert a value. -/
def convert (T : IntegralType) (v : ℤ) : Evaluation ℤ := ⟨[⟨v, T⟩], T.convert v⟩

/-- `a < b` for operands of the types `T` and `U`. -/
def less (T U : IntegralType) (a b : ℤ) : Evaluation Bool := do
  let a ← convert (T.usual U) a
  let b ← convert (T.usual U) b
  pure (a < b)

/-- The evaluation gives `a`, and no conversion changes a value. -/
def Gives (x : Evaluation α) (a : α) : Prop := x.value = a ∧ ∀ c ∈ x.conversions, c.Exact

variable {x : Evaluation α} {f : α → Evaluation β} {a : α} {b : β}
variable {T U : IntegralType} {v w : ℤ}

theorem gives_pure (a : α) : (pure a : Evaluation α).Gives a :=
  ⟨rfl, fun _ hc ↦ absurd hc List.not_mem_nil⟩

theorem Gives.bind (hx : x.Gives a) (hf : (f a).Gives b) : (x >>= f).Gives b := by
  obtain ⟨rfl, hx⟩ := hx
  refine ⟨hf.1, fun c hc ↦ ?_⟩
  rcases List.mem_append.mp hc with hc | hc
  · exact hx c hc
  · exact hf.2 c hc

/-- A branch that is taken on a value that has been computed. -/
theorem Gives.branch {y z : Evaluation β} {c : Bool} {x : Evaluation Bool} (hx : x.Gives c)
    (hy : c = true → y.Gives b) (hz : c = false → z.Gives b) :
    (x >>= fun d ↦ if d = true then y else z).Gives b := by
  refine hx.bind ?_
  cases c with
  | true => exact hy rfl
  | false => exact hz rfl

/-- The type can represent the value that is converted. -/
theorem gives_convert (h : T.Has v) : (convert T v).Gives v := by
  have hv := IntegralType.convert_of_has h
  refine ⟨hv, fun c hc ↦ ?_⟩
  rw [List.mem_singleton.mp hc]
  exact hv

/-- **A comparison** whose operands have a common type that represents both is exact. -/
theorem gives_less (hv : (T.usual U).Has v) (hw : (T.usual U).Has w) :
    (less T U v w).Gives (v < w) :=
  (gives_convert hv).bind ((gives_convert hw).bind (gives_pure _))

/-- Two operands with signs are compared as they are. -/
theorem gives_less_signed (hT : T.signed = true) (hU : U.signed = true) (hv : T.Has v)
    (hw : U.Has w) : (less T U v w).Gives (v < w) := by
  have hsigned : T.promote.signed = U.promote.signed :=
    (IntegralType.signed_promote hT).trans (IntegralType.signed_promote hU).symm
  exact gives_less (hv.promote.common_left hsigned) (hw.promote.common_right hsigned)

/-- Two operands of one type are compared as they are. -/
theorem gives_less_self (hv : T.Has v) (hw : T.Has w) : (less T T v w).Gives (v < w) :=
  gives_less (hv.promote.common_left rfl) (hw.promote.common_left rfl)

end Evaluation
