import Mathlib.Data.List.Flatten

/-!
# Dues

A log of what has become due and of what has been settled.  It is `Settled` if everything that
became due has been settled before the next thing did, once and as it was, and nothing else has
been; only the last due may be open.
-/

universe u

/-- An entry of the log. -/
inductive Due (α : Type u) where
  | incur (a : α)
  | settle (a : α)
  deriving DecidableEq, Repr

namespace Due

variable {α : Type u} {a b : α} {log : List (Due α)} {owed : Option α}

/-- The log consists of dues that have been settled, and of the open one. -/
def Settled (log : List (Due α)) (owed : Option α) : Prop :=
  ∃ paid : List α, log = (paid.flatMap fun a ↦ [incur a, settle a]) ++ owed.toList.map incur

theorem Settled.nil : Settled ([] : List (Due α)) none := ⟨[], rfl⟩

/-- Something becomes due while nothing is open. -/
theorem Settled.incur (h : Settled log none) (a : α) : Settled (log ++ [.incur a]) (some a) := by
  obtain ⟨paid, rfl⟩ := h
  exact ⟨paid, by simp⟩

/-- What is open is settled. -/
theorem Settled.settle (h : Settled log (some a)) : Settled (log ++ [.settle a]) none := by
  obtain ⟨paid, rfl⟩ := h
  exact ⟨paid ++ [a], by simp⟩

/-- Nothing can become due while something is open. -/
theorem not_settled_incur_incur : ¬ Settled [.incur a, .incur b] owed := by
  rintro ⟨paid, hlog⟩
  cases paid with
  | nil => cases owed <;> simp at hlog
  | cons c paid => simp at hlog

end Due
