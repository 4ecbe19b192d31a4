import Mathlib.Logic.Function.Basic

/-!
# Stores and sequences of writes

A store keeps a value for every key.  A program writes to it in sequences; what a
sequence does is determined by the last value it writes to each key, if any.
Conditional writes are sequences that are empty if the condition fails.
-/

universe u v

namespace Store

variable {κ : Type u} {ν : Type v} [DecidableEq κ]

/-- A sequence of writes. -/
abbrev Writes (κ : Type u) (ν : Type v) := List (κ × ν)

/-- Perform a sequence of writes. -/
def write (ws : Writes κ ν) (a : κ → ν) : κ → ν :=
  ws.foldl (fun a w ↦ Function.update a w.1 w.2) a

/-- The last value a sequence writes to a key. -/
def last : Writes κ ν → κ → Option ν
  | [], _ => none
  | (k, x) :: ws, k' => (last ws k').or (if k' = k then some x else none)

/-- Writes under a condition. -/
def when (c : Bool) (ws : Writes κ ν) : Writes κ ν := if c then ws else []

omit [DecidableEq κ] in
@[simp] theorem when_true (ws : Writes κ ν) : when true ws = ws := rfl

omit [DecidableEq κ] in
@[simp] theorem when_false (ws : Writes κ ν) : when false ws = [] := rfl

@[simp] theorem write_nil (a : κ → ν) : write [] a = a := rfl

/-- Performing two sequences one after the other. -/
theorem write_append (ws ws' : Writes κ ν) (a : κ → ν) :
    write (ws ++ ws') a = write ws' (write ws a) := by
  simp [write]

@[simp] theorem last_nil (k : κ) : last ([] : Writes κ ν) k = none := rfl

theorem last_cons (w : κ × ν) (ws : Writes κ ν) (k : κ) :
    last (w :: ws) k = (last ws k).or (if k = w.1 then some w.2 else none) := rfl

/-- The later sequence decides, where it writes. -/
theorem last_append (ws ws' : Writes κ ν) (k : κ) :
    last (ws ++ ws') k = (last ws' k).or (last ws k) := by
  induction ws with
  | nil => simp
  | cons w ws ih => rw [List.cons_append, last_cons, last_cons, ih, Option.or_assoc]

theorem last_when (c : Bool) (ws : Writes κ ν) (k : κ) :
    last (when c ws) k = if c then last ws k else none := by
  cases c <;> rfl

/-- **What a sequence of writes does to a key.** -/
theorem write_apply (ws : Writes κ ν) (a : κ → ν) (k : κ) :
    write ws a k = (last ws k).getD (a k) := by
  induction ws generalizing a with
  | nil => rfl
  | cons w ws ih =>
      change write ws (Function.update a w.1 w.2) k = _
      rw [ih, last_cons]
      cases last ws k with
      | some x => rfl
      | none =>
          by_cases hk : k = w.1
          · subst hk
            simp
          · simp [hk]

/-- Sequences that write the same last values do the same. -/
theorem write_congr {ws ws' : Writes κ ν} (h : ∀ k, last ws k = last ws' k) (a : κ → ν) :
    write ws a = write ws' a := by
  funext k
  rw [write_apply, write_apply, h]

end Store
