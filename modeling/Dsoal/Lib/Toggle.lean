import Mathlib.Data.List.Chain

/-!
# A flag that is set and cleared in turn

Two operations on a flag: one sets it and succeeds only if it is clear, the other clears it and
succeeds only if it is set.  If an operation that fails leaves the flag alone, then the
operations that have succeeded alternate, beginning with a set, and the flag tells which was
the last.
-/

/-- The two operations. -/
inductive Toggle where
  | set | clear
  deriving DecidableEq, Repr

namespace Toggle

/-- What an operation may do to the flag: toggle it and succeed, or fail and leave it. -/
def Faithful (flag : Bool) (t : Toggle) (ok : Bool) (flag' : Bool) : Prop :=
  match t, ok with
  | set, true => flag = false ∧ flag' = true
  | clear, true => flag = true ∧ flag' = false
  | _, false => flag' = flag

/-- The operations that have succeeded alternate, beginning with a set, and the flag is set if
the last was one. -/
structure Alternate (done : List Toggle) (flag : Bool) : Prop where
  chain : done.IsChain (· ≠ ·)
  head : done.head? ≠ some clear
  last : flag = true ↔ done.getLast? = some set

variable {done : List Toggle} {flag flag' ok : Bool} {t : Toggle}

theorem Alternate.nil : Alternate [] false := ⟨.nil, by simp, by simp⟩

/-- An operation that the last one was not keeps the alternation. -/
theorem isChain_concat (h : done.IsChain (· ≠ ·)) (hlast : done.getLast? ≠ some t) :
    (done ++ [t]).IsChain (· ≠ ·) := by
  refine h.append (.singleton t) fun l hl first hfirst ↦ ?_
  obtain rfl : t = first := Option.some.inj hfirst
  rintro rfl
  exact hlast hl

theorem head?_concat_ne (hhead : done.head? ≠ some clear) (ht : done = [] → t = set) :
    (done ++ [t]).head? ≠ some clear := by
  cases done with
  | nil => simp [ht rfl]
  | cons first rest => simpa using hhead

/-- **The step lemma.** -/
theorem Alternate.step (h : Alternate done flag) (hstep : Faithful flag t ok flag') :
    Alternate (if ok then done ++ [t] else done) flag' := by
  cases ok with
  | false =>
    obtain rfl : flag' = flag := by
      cases t <;> exact hstep
    exact h
  | true =>
    cases t with
    | set =>
      obtain ⟨rfl, rfl⟩ : flag = false ∧ flag' = true := hstep
      have hlast : done.getLast? ≠ some set := fun hl ↦ by simpa using h.last.mpr hl
      exact ⟨isChain_concat h.chain hlast, head?_concat_ne h.head fun _ ↦ rfl, by simp⟩
    | clear =>
      obtain ⟨rfl, rfl⟩ : flag = true ∧ flag' = false := hstep
      have hset : done.getLast? = some set := h.last.mp rfl
      refine ⟨isChain_concat h.chain (by simp [hset]), head?_concat_ne h.head ?_, by simp⟩
      rintro rfl
      cases hset

end Toggle
