import Mathlib.Algebra.Group.Nat.Defs
import Mathlib.Data.List.Basic
import Mathlib.Tactic.Tauto

/-!
# Validators and the products they evaluate

A validator is a list of checks that are made in order until one fails.  Besides
whether it passes, a check has the operations that its condition evaluates, and
those that are evaluated when it fails.  `run` is the answer of the validator and
`evaluated` the operations it has performed by then: an operation of a late check
counts only for the inputs that pass the checks before it.

The operations here are products of fixed-width numbers.  A product has its exact
value; it `Fits` if that is a value of its type.
-/

universe u v

/-- A check of a validator. -/
structure Check (ω : Type u) (ε : Type v) where
  /-- The operations the condition evaluates. -/
  evaluates : List ω := []
  passes : Bool
  /-- The operations that are evaluated only when the check fails. -/
  onFailure : List ω := []
  error : ε

namespace Check

variable {ω : Type u} {ε : Type v}

/-- Make the checks in order: the error of the first that fails. -/
def run : List (Check ω ε) → Except ε Unit
  | [] => .ok ()
  | c :: cs => if c.passes then run cs else .error c.error

/-- The operations that are evaluated. -/
def evaluated : List (Check ω ε) → List ω
  | [] => []
  | c :: cs => c.evaluates ++ if c.passes then evaluated cs else c.onFailure

@[simp] theorem run_nil : run ([] : List (Check ω ε)) = .ok () := rfl

/-- An error is that of one of the checks. -/
theorem exists_of_run_eq_error {cs : List (Check ω ε)} {e : ε} (h : run cs = .error e) :
    ∃ c ∈ cs, c.error = e := by
  induction cs with
  | nil => cases h
  | cons c cs ih =>
      rw [run] at h
      split at h
      · obtain ⟨c', hc', he⟩ := ih h
        exact ⟨c', List.mem_cons_of_mem _ hc', he⟩
      · exact ⟨c, List.mem_cons_self, Except.error.inj h⟩

@[simp] theorem run_cons_eq_ok {c : Check ω ε} {cs : List (Check ω ε)} :
    run (c :: cs) = .ok () ↔ c.passes = true ∧ run cs = .ok () := by
  cases h : c.passes <;> simp [run, h]

/-- Every operation that is evaluated has the property. -/
def EvaluatesOnly (P : ω → Prop) (cs : List (Check ω ε)) : Prop := ∀ w ∈ evaluated cs, P w

@[simp] theorem evaluatesOnly_nil {P : ω → Prop} :
    EvaluatesOnly P ([] : List (Check ω ε)) := by simp [EvaluatesOnly, evaluated]

/-- The operations of a validator are those of its first check and, if that passes, those
of the checks after it. -/
@[simp] theorem evaluatesOnly_cons {P : ω → Prop} {c : Check ω ε} {cs : List (Check ω ε)} :
    EvaluatesOnly P (c :: cs) ↔
      (∀ w ∈ c.evaluates, P w) ∧ (c.passes = true → EvaluatesOnly P cs) ∧
        (c.passes = false → ∀ w ∈ c.onFailure, P w) := by
  cases h : c.passes <;>
    simp only [EvaluatesOnly, evaluated, h, if_true, if_false, List.forall_mem_append,
      Bool.false_eq_true, reduceCtorEq, true_implies, false_implies, true_and, and_true]

/-- A check without operations. -/
theorem evaluatesOnly_cons_of_nil {P : ω → Prop} {c : Check ω ε} {cs : List (Check ω ε)}
    (he : c.evaluates = []) (hf : c.onFailure = []) :
    EvaluatesOnly P (c :: cs) ↔ (c.passes = true → EvaluatesOnly P cs) := by
  simp [he, hf]

/-- A check that evaluates one operation, whether it passes or fails. -/
theorem evaluatesOnly_cons_of_singleton {P : ω → Prop} {c : Check ω ε} {cs : List (Check ω ε)}
    {w : ω} (he : c.evaluates = [w]) (hf : c.onFailure = [w]) :
    EvaluatesOnly P (c :: cs) ↔ P w ∧ (c.passes = true → EvaluatesOnly P cs) := by
  simp only [evaluatesOnly_cons, he, hf, List.forall_mem_singleton]
  tauto

end Check

/-! ## Products -/

/-- The integer types products are evaluated in. -/
inductive IntType where
  /-- 32 bits, signed: the type 16-bit operands are promoted to. -/
  | int
  /-- 32 bits, unsigned. -/
  | dword
  deriving DecidableEq, Repr

/-- The first natural number that is not a value of the type. -/
def IntType.bound : IntType → ℕ
  | .int => 2 ^ 31
  | .dword => 2 ^ 32

/-- The product of two numbers, evaluated in a type. -/
structure Product where
  type : IntType
  left : ℕ
  right : ℕ
  deriving DecidableEq, Repr

namespace Product

/-- The product does not overflow. -/
def Fits (p : Product) : Prop := p.left * p.right < p.type.bound

instance (p : Product) : Decidable p.Fits := inferInstanceAs (Decidable (_ < _))

/-- A product of factors with bounds whose product fits. -/
theorem Fits.mono {p : Product} {m n : ℕ} (hl : p.left ≤ m) (hr : p.right ≤ n)
    (h : m * n < p.type.bound) : p.Fits :=
  Nat.lt_of_le_of_lt (Nat.mul_le_mul hl hr) h

end Product
