import Dsoal.Lib.Tally

/-!
# References and calls in flight

Parties hold references of several kinds to one object.  Taking a reference and
returning one are calls of two steps each, so between its steps a party is busy:
it has announced a reference it does not hold yet, or given one up that it has
not signed off.  A `Ledger` records who holds what and who is in the middle of
which call.

Its `outstanding` number, the references held plus the calls in flight, is what
a counter has to follow that goes up with the first step of taking a reference
and down with the last step of returning it.
-/

universe u v

namespace RefLedger

/-- Where a party is in a call. -/
inductive Phase (ι : Type u) where
  /-- In no call. -/
  | idle
  /-- Between the two steps of taking a reference of kind `i`. -/
  | acquiring (i : ι)
  /-- Between the two steps of returning a reference of kind `i`. -/
  | releasing (i : ι)
  deriving DecidableEq

/-- The calls a phase stands for: one, unless the party is idle. -/
def Phase.calls {ι : Type u} : Phase ι → ℕ
  | idle => 0
  | acquiring _ => 1
  | releasing _ => 1

/-- Who holds which references and who is in which call. -/
structure Ledger (ι : Type u) (θ : Type v) where
  /-- The references each party holds, by kind. -/
  held : θ → ι → ℕ
  /-- The call each party is in. -/
  phase : θ → Phase ι

namespace Ledger

variable {ι : Type u} {θ : Type v} [DecidableEq ι] [DecidableEq θ]

/-- Set the number of references of kind `i` that `t` holds. -/
def hold (l : Ledger ι θ) (t : θ) (i : ι) (n : ℕ) : Ledger ι θ :=
  { l with held := Function.update l.held t (Function.update (l.held t) i n) }

/-- Set the phase of `t`. -/
def enter (l : Ledger ι θ) (t : θ) (p : Phase ι) : Ledger ι θ :=
  { l with phase := Function.update l.phase t p }

/-- The first step of taking a reference: it is announced. -/
def beginAcquire (l : Ledger ι θ) (t : θ) (i : ι) : Ledger ι θ := l.enter t (.acquiring i)

/-- The second step of taking a reference: now it is held. -/
def endAcquire (l : Ledger ι θ) (t : θ) (i : ι) : Ledger ι θ :=
  (l.hold t i (l.held t i + 1)).enter t .idle

/-- The first step of returning a reference: it is given up. -/
def beginRelease (l : Ledger ι θ) (t : θ) (i : ι) : Ledger ι θ :=
  (l.hold t i (l.held t i - 1)).enter t (.releasing i)

/-- The second step of returning a reference: it is signed off. -/
def endRelease (l : Ledger ι θ) (t : θ) : Ledger ι θ := l.enter t .idle

/-- A reference changes hands. -/
def pass (l : Ledger ι θ) (t t' : θ) (i : ι) : Ledger ι θ :=
  let l' := l.hold t i (l.held t i - 1)
  l'.hold t' i (l'.held t' i + 1)

/-- One party holds one reference of kind `i`, and nothing is going on. -/
def single (t : θ) (i : ι) : Ledger ι θ where
  held := Function.update (fun _ _ ↦ 0) t (Function.update (fun _ ↦ 0) i 1)
  phase := fun _ ↦ .idle

variable [Fintype ι] [Fintype θ]

/-- The references of kind `i` that are held. -/
def on (l : Ledger ι θ) (i : ι) : ℕ := ∑ t, l.held t i

/-- The number of calls in flight. -/
def busy (l : Ledger ι θ) : ℕ := ∑ t, (l.phase t).calls

/-- References held plus calls in flight. -/
def outstanding (l : Ledger ι θ) : ℕ := ∑ i, l.on i + l.busy

/-! ## What the parts of an operation change -/

section Parts

variable (l : Ledger ι θ) (t : θ) (i j : ι) (n : ℕ) (p : Phase ι)

omit [DecidableEq ι] [Fintype ι] in
@[simp] theorem on_enter : (l.enter t p).on = l.on := rfl

omit [Fintype ι] in
@[simp] theorem busy_hold : (l.hold t i n).busy = l.busy := rfl

omit [Fintype ι] in
theorem on_hold_self : (l.hold t i n).on i + l.held t i = l.on i + n := by
  have h := Tally.sum_update_add (Finset.mem_univ t) l.held (Function.update (l.held t) i n)
    fun f ↦ f i
  simp only [Function.update_self] at h
  exact h

omit [Fintype ι] in
theorem on_hold_of_ne (hj : j ≠ i) : (l.hold t i n).on j = l.on j := by
  have h := Tally.sum_update_add (Finset.mem_univ t) l.held (Function.update (l.held t) i n)
    fun f ↦ f j
  simp only [Function.update_of_ne hj] at h
  exact Nat.add_right_cancel h

omit [Fintype ι] in
/-- Only the kind that is set can change. -/
theorem on_hold : (l.hold t i n).on = Function.update l.on i ((l.hold t i n).on i) := by
  funext j
  by_cases hj : j = i
  · rw [hj, Function.update_self]
  · rw [Function.update_of_ne hj, on_hold_of_ne l t i j n hj]

/-- The outstanding number moves with the kind that is set. -/
theorem outstanding_hold : (l.hold t i n).outstanding + l.held t i = l.outstanding + n := by
  have hsum := Tally.sum_update_add (Finset.mem_univ i) l.on ((l.hold t i n).on i) id
  have hself := on_hold_self l t i n
  simp only [id_eq, ← on_hold] at hsum
  simp only [outstanding, busy_hold]
  omega

omit [DecidableEq ι] in
/-- The outstanding number moves with the phase. -/
theorem outstanding_enter :
    (l.enter t p).outstanding + (l.phase t).calls = l.outstanding + p.calls := by
  have hbusy : (l.enter t p).busy + (l.phase t).calls = l.busy + p.calls :=
    Tally.sum_update_add (Finset.mem_univ t) l.phase p Phase.calls
  simp only [outstanding, on_enter]
  omega

omit [DecidableEq ι] [DecidableEq θ] [Fintype ι] in
/-- A reference someone holds is counted. -/
theorem held_le_on : l.held t i ≤ l.on i :=
  Finset.single_le_sum (f := fun t ↦ l.held t i) (fun _ _ ↦ Nat.zero_le _) (Finset.mem_univ t)

end Parts

/-! ## What the operations change -/

section Operations

variable {l : Ledger ι θ} {t t' : θ} {i : ι}

omit [DecidableEq ι] in
/-- Announcing a reference makes one more outstanding. -/
theorem outstanding_beginAcquire (h : l.phase t = .idle) :
    (l.beginAcquire t i).outstanding = l.outstanding + 1 := by
  have := outstanding_enter l t (.acquiring i)
  rw [h] at this
  exact this

/-- Taking an announced reference leaves the outstanding number alone. -/
theorem outstanding_endAcquire (h : l.phase t = .acquiring i) :
    (l.endAcquire t i).outstanding = l.outstanding := by
  have hheld := outstanding_hold l t i (l.held t i + 1)
  have hphase := outstanding_enter (l.hold t i (l.held t i + 1)) t .idle
  have hcalls : ((l.hold t i (l.held t i + 1)).phase t).calls = 1 := by
    show (l.phase t).calls = 1
    rw [h]
    rfl
  simp only [Phase.calls] at hphase hcalls
  unfold endAcquire
  omega

/-- Giving a reference up leaves the outstanding number alone. -/
theorem outstanding_beginRelease (h : l.phase t = .idle) (hpos : 0 < l.held t i) :
    (l.beginRelease t i).outstanding = l.outstanding := by
  have hheld := outstanding_hold l t i (l.held t i - 1)
  have hphase := outstanding_enter (l.hold t i (l.held t i - 1)) t (.releasing i)
  have hcalls : ((l.hold t i (l.held t i - 1)).phase t).calls = 0 := by
    show (l.phase t).calls = 0
    rw [h]
    rfl
  simp only [Phase.calls] at hphase hcalls
  unfold beginRelease
  omega

omit [DecidableEq ι] in
/-- Signing a reference off makes one less outstanding. -/
theorem outstanding_endRelease (h : l.phase t = .releasing i) :
    (l.endRelease t).outstanding + 1 = l.outstanding := by
  have := outstanding_enter l t .idle
  rw [h] at this
  exact this

/-- Passing a reference on leaves the outstanding number alone. -/
theorem outstanding_pass (hpos : 0 < l.held t i) :
    (l.pass t t' i).outstanding = l.outstanding := by
  have hgive := outstanding_hold l t i (l.held t i - 1)
  have htake := outstanding_hold (l.hold t i (l.held t i - 1)) t' i
    ((l.hold t i (l.held t i - 1)).held t' i + 1)
  simp only [pass]
  omega

omit [Fintype ι] in
/-- Taking a reference makes one more of its kind held. -/
theorem on_endAcquire : (l.endAcquire t i).on = Function.update l.on i (l.on i + 1) := by
  have := on_hold_self l t i (l.held t i + 1)
  rw [endAcquire, on_enter, on_hold]
  congr 1
  omega

omit [Fintype ι] in
/-- Giving a reference up makes one less of its kind held. -/
theorem on_beginRelease (hpos : 0 < l.held t i) :
    (l.beginRelease t i).on = Function.update l.on i (l.on i - 1) := by
  have := on_hold_self l t i (l.held t i - 1)
  rw [beginRelease, on_enter, on_hold]
  congr 1
  omega

omit [Fintype ι] in
/-- Passing a reference on changes no number held. -/
theorem on_pass (hpos : 0 < l.held t i) : (l.pass t t' i).on = l.on := by
  have hgive := on_hold_self l t i (l.held t i - 1)
  have htake := on_hold_self (l.hold t i (l.held t i - 1)) t' i
    ((l.hold t i (l.held t i - 1)).held t' i + 1)
  funext j
  by_cases hj : j = i
  · subst hj
    simp only [pass]
    omega
  · rw [pass, on_hold_of_ne _ _ _ _ _ hj, on_hold_of_ne _ _ _ _ _ hj]

end Operations

/-! ## What the outstanding number bounds -/

section Bounds

variable {l : Ledger ι θ}

omit [DecidableEq ι] [DecidableEq θ] in
theorem sum_on_le_outstanding : ∑ i, l.on i ≤ l.outstanding := Nat.le_add_right _ _

omit [DecidableEq ι] [DecidableEq θ] in
/-- With every party idle, the outstanding references are the ones held. -/
theorem sum_on_eq_outstanding (h : ∀ t, l.phase t = .idle) : ∑ i, l.on i = l.outstanding := by
  have hbusy : l.busy = 0 := Finset.sum_eq_zero fun t _ ↦ by rw [h t]; rfl
  rw [outstanding, hbusy, Nat.add_zero]

omit [DecidableEq ι] [DecidableEq θ] in
/-- Nothing is outstanding exactly when nothing is held and nobody is in a
call. -/
theorem outstanding_eq_zero_iff :
    l.outstanding = 0 ↔ ∀ t, l.phase t = .idle ∧ ∀ i, l.held t i = 0 := by
  simp only [outstanding, busy, on, Nat.add_eq_zero_iff, Finset.sum_eq_zero_iff,
    Finset.mem_univ, true_implies]
  constructor
  · rintro ⟨hheld, hcalls⟩ t
    refine ⟨?_, fun i ↦ hheld i t⟩
    have := hcalls t
    cases hp : l.phase t <;> simp_all [Phase.calls]
  · intro h
    exact ⟨fun i t ↦ (h t).2 i, fun t ↦ by rw [(h t).1]; rfl⟩

/-- One reference is outstanding when one party holds one. -/
theorem outstanding_single (t : θ) (i : ι) : (single t i : Ledger ι θ).outstanding = 1 := by
  have hnone : (⟨fun _ _ ↦ 0, fun _ ↦ .idle⟩ : Ledger ι θ).outstanding = 0 :=
    outstanding_eq_zero_iff.mpr fun _ ↦ ⟨rfl, fun _ ↦ rfl⟩
  have := outstanding_hold (⟨fun _ _ ↦ 0, fun _ ↦ .idle⟩ : Ledger ι θ) t i 1
  rw [hnone] at this
  exact this

omit [Fintype ι] in
theorem on_single (t : θ) (i : ι) :
    (single t i : Ledger ι θ).on = Function.update (fun _ ↦ 0) i 1 := by
  have hself := on_hold_self (⟨fun _ _ ↦ 0, fun _ ↦ .idle⟩ : Ledger ι θ) t i 1
  have hall := on_hold (⟨fun _ _ ↦ 0, fun _ ↦ .idle⟩ : Ledger ι θ) t i 1
  have hnone : (⟨fun _ _ ↦ 0, fun _ ↦ .idle⟩ : Ledger ι θ).on = fun _ ↦ 0 := by
    funext j
    exact Finset.sum_const_zero
  rw [hnone] at hself hall
  rw [show single t i = (⟨fun _ _ ↦ 0, fun _ ↦ .idle⟩ : Ledger ι θ).hold t i 1 from rfl, hall]
  congr 1

end Bounds

end Ledger

end RefLedger
