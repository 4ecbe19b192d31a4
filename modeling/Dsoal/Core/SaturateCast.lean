import Dsoal.Lib.IntTypes

/-!
# Saturating conversions

`ds::saturate_cast` converts an integer to another integral type, and to the nearest value of
that type where it does not fit.  Which comparisons are made is decided by the two types.
-/

namespace Dsoal

open Evaluation

/-- `ds::saturate_cast<R>(val)`, for `val` of the type `T`.  The conditions without an arrow
are those of an `if constexpr`. -/
def saturateCast (R T : IntegralType) (val : ℤ) : Evaluation ℤ := do
  if R.digits < T.digits then
    if R.signed ∧ T.signed then
      if ← less T R val R.min then
        return R.min
    if ← less T T (← convert T R.max) val then
      return R.max
  if !R.signed ∧ T.signed then
    if ← less T .int val 0 then
      return ← convert R 0
  convert R val

end Dsoal
