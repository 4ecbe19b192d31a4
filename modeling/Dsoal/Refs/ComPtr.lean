import Dsoal.Core.ComPtr
import Dsoal.Lib.RefOwners
import Dsoal.Lib.Transition

/-!
# What `ComPtr` ensures

An object has as many references as there are variables in scope that point to it and plain
pointers that the program has.  Every statement uses references that there are, so that no method
is called on an object that is gone, and an object whose last reference goes is destroyed.
-/

namespace Dsoal.ComPtrs

open TransitionSystem RefHeap

variable {ν : Type} [DecidableEq ν] {s s' : ComPtrs ν} {op : ComPtrOp ν} {x rhs : ν} {a : ℕ}
  {ptr : Option ℕ} {n : ℕ → ℕ}

/-! ## Counting references -/

/-- The references to the object at `a`. -/
def refsTo (s : ComPtrs ν) (a : ℕ) : ℕ := refs s.scope s.mPtr a + s.plain a

/-- One, for the object that is pointed to. -/
def points (ptr : Option ℕ) (a : ℕ) : ℕ := if ptr = some a then 1 else 0

@[simp] theorem points_none (a : ℕ) : points none a = 0 := rfl

omit [DecidableEq ν] in
theorem points_le_plain (h : s.Holds ptr) (a : ℕ) : points ptr a ≤ s.plain a := by
  unfold points
  split
  · rename_i heq
    exact h a heq
  · exact Nat.zero_le _

omit [DecidableEq ν] in
theorem points_le_refsTo (h : s.Known ptr) (a : ℕ) : points ptr a ≤ s.refsTo a := by
  unfold points
  split
  · rename_i heq
    rcases h a heq with hplain | ⟨x, hx, ha⟩
    · exact hplain.trans_le (Nat.le_add_left ..)
    · exact Nat.le_add_right_of_le (refs_pos hx ha)
  · exact Nat.zero_le _

omit [DecidableEq ν] in
theorem points_le_of_mem (hx : x ∈ s.scope) (a : ℕ) : points (s.mPtr x) a ≤ s.refsTo a :=
  points_le_refsTo (fun _ ha ↦ .inr ⟨x, hx, ha⟩) a

theorem refsTo_setPtr (hx : x ∈ s.scope) (ptr : Option ℕ) (a : ℕ) :
    (s.setPtr x ptr).refsTo a + points (s.mPtr x) a = s.refsTo a + points ptr a := by
  have hrefs : refs s.scope (Function.update s.mPtr x ptr) a + points (s.mPtr x) a =
      refs s.scope s.mPtr a + points ptr a := refs_update hx ptr
  simp only [refsTo, setPtr]
  omega

theorem refsTo_enter (hx : x ∉ s.scope) (ptr : Option ℕ) (a : ℕ) :
    (s.enter x ptr).refsTo a = s.refsTo a + points ptr a := by
  have hrefs : refs (insert x s.scope) (Function.update s.mPtr x ptr) a =
      refs s.scope (Function.update s.mPtr x ptr) a +
        points (Function.update s.mPtr x ptr x) a := refs_insert hx
  have hsame : refs s.scope (Function.update s.mPtr x ptr) a = refs s.scope s.mPtr a :=
    refs_congr fun i hi ↦ Function.update_of_ne (ne_of_mem_of_not_mem hi hx) _ _
  rw [Function.update_self, hsame] at hrefs
  simp only [refsTo, enter, setPtr]
  omega

theorem refsTo_erase (hx : x ∈ s.scope) (a : ℕ) :
    ({ s with scope := s.scope.erase x } : ComPtrs ν).refsTo a + points (s.mPtr x) a =
      s.refsTo a := by
  have hrefs : refs (s.scope.erase x) s.mPtr a + points (s.mPtr x) a = refs s.scope s.mPtr a :=
    refs_erase hx
  simp only [refsTo]
  omega

omit [DecidableEq ν] in
theorem refsTo_gain (s : ComPtrs ν) (ptr : Option ℕ) (a : ℕ) :
    (s.gain ptr).refsTo a = s.refsTo a + points ptr a := by
  cases ptr with
  | none => rfl
  | some b =>
      simp only [refsTo, gain, points, Option.some.injEq, Function.update_apply, eq_comm (a := b)]
      split
      · simp_all
        omega
      · simp_all

omit [DecidableEq ν] in
theorem refsTo_lose (h : s.Holds ptr) (a : ℕ) :
    (s.lose ptr).refsTo a + points ptr a = s.refsTo a := by
  have hle := points_le_plain h a
  cases ptr with
  | none => rfl
  | some b =>
      simp only [refsTo, lose, points, Option.some.injEq, Function.update_apply,
        eq_comm (a := b)] at hle ⊢
      split
      · simp_all
        omega
      · simp_all

/-! ## Calls -/

omit [DecidableEq ν] in
/-- `AddRef` of an object that there is a reference to. -/
theorem addRef_spec (h : s.objects.Counted n) (hpos : ∀ a, points ptr a ≤ n a) :
    ∃ objects, s.addRef ptr = some { s with objects := objects } ∧
      objects.Counted fun a ↦ n a + points ptr a := by
  cases ptr with
  | none => exact ⟨s.objects, rfl, h⟩
  | some b =>
      have hb := hpos b
      rw [points, if_pos rfl] at hb
      set m : ℕ → ℕ := fun a ↦ n a + points (some b) a with hm
      have hone : m b = n b + 1 := by simp [hm, points]
      have hrest : ∀ a, a ≠ b → m a = n a := fun a ha ↦ by simp [hm, points, ha.symm]
      obtain ⟨objects, hadd, hcount, -⟩ := h.addRef hb hone hrest
      exact ⟨objects, by rw [addRef, hadd]; rfl, hcount⟩

omit [DecidableEq ν] in
/-- `Release` of an object that there is a reference to. -/
theorem releaseRef_spec (h : s.objects.Counted n) (hpos : ∀ a, points ptr a ≤ n a) :
    ∃ objects, s.releaseRef ptr = some { s with objects := objects } ∧
      objects.Counted fun a ↦ n a - points ptr a := by
  cases ptr with
  | none => exact ⟨s.objects, rfl, h⟩
  | some b =>
      have hb := hpos b
      rw [points, if_pos rfl] at hb
      set m : ℕ → ℕ := fun a ↦ n a - points (some b) a with hm
      have hone : m b + 1 = n b := by
        simp only [hm, points, if_pos]
        omega
      have hrest : ∀ a, a ≠ b → m a = n a := fun a ha ↦ by simp [hm, points, ha.symm]
      obtain ⟨freed, objects, hrel, hcount, -⟩ := h.release hb hone hrest
      exact ⟨objects, by rw [releaseRef, hrel]; rfl, hcount⟩

/-! ## The invariant -/

/-- The objects count the references there are. -/
def Ok (s : ComPtrs ν) : Prop := s.objects.Counted s.refsTo

/-! ## Each statement -/

omit [DecidableEq ν] in
theorem Ok.new (h : s.Ok) (hfree : s.objects a = none) :
    Ok ({ s with objects := s.objects.alloc a () }.gain (some a)) := by
  have hzero := h.eq_none_iff.mp hfree
  refine Counted.alloc h ?_ fun b hb ↦ ?_
  · rw [refsTo_gain]
    show s.refsTo a + _ = 1
    rw [hzero]
    simp [points]
  · rw [refsTo_gain]
    show s.refsTo b + _ = s.refsTo b
    simp [points, hb.symm]

omit [DecidableEq ν] in
theorem Ok.addRef (h : s.Ok) (hknown : s.Known ptr) :
    ∃ s', s.addRef ptr = some s' ∧ (s'.gain ptr).Ok ∧ s'.scope = s.scope ∧
      s'.mPtr = s.mPtr ∧ s'.plain = s.plain := by
  obtain ⟨objects, hadd, hcount⟩ := addRef_spec (s := s) h (points_le_refsTo hknown)
  refine ⟨_, hadd, ?_, rfl, rfl, rfl⟩
  have hgain : ({ s with objects := objects }.gain ptr).objects = objects := by
    cases ptr <;> rfl
  rw [Ok, hgain]
  exact hcount.congr fun a ↦ refsTo_gain _ ptr a

omit [DecidableEq ν] in
theorem Ok.releasePlain (h : s.Ok) (hholds : s.Holds ptr) :
    ∃ s', s.releaseRef ptr = some s' ∧ (s'.lose ptr).Ok := by
  have hknown : s.Known ptr := fun a ha ↦ .inl (hholds a ha)
  obtain ⟨objects, hrel, hcount⟩ := releaseRef_spec (s := s) h (points_le_refsTo hknown)
  refine ⟨_, hrel, ?_⟩
  have hlose : ({ s with objects := objects }.lose ptr).objects = objects := by
    cases ptr <;> rfl
  rw [Ok, hlose]
  refine hcount.congr fun a ↦ ?_
  have hheld : ({ s with objects := objects } : ComPtrs ν).Holds ptr := hholds
  have hrefs := refsTo_lose hheld a
  have hsame : ({ s with objects := objects } : ComPtrs ν).refsTo a = s.refsTo a := rfl
  omega

/-- A variable comes into scope with a plain pointer. -/
theorem Ok.adopt (h : s.Ok) (hx : x ∉ s.scope) (hholds : s.Holds ptr) :
    ((s.enter x ptr).lose ptr).Ok := by
  have hobjects : ((s.enter x ptr).lose ptr).objects = s.objects := by
    cases ptr <;> rfl
  rw [Ok, hobjects]
  refine h.congr fun a ↦ ?_
  have henter := refsTo_enter hx ptr a
  have hheld : (s.enter x ptr).Holds ptr := hholds
  have hlose := refsTo_lose hheld a
  omega

theorem Ok.copyConstruct (h : s.Ok) (hx : x ∉ s.scope) (hrhs : rhs ∈ s.scope) :
    ∃ s', s.copyConstruct x rhs = some s' ∧ s'.Ok := by
  obtain ⟨objects, hadd, hcount⟩ :=
    addRef_spec (s := s.enter x (s.mPtr rhs)) h (points_le_of_mem hrhs)
  exact ⟨_, hadd, hcount.congr fun a ↦ refsTo_enter hx (s.mPtr rhs) a⟩

theorem Ok.moveConstruct (h : s.Ok) (hx : x ∉ s.scope) (hrhs : rhs ∈ s.scope) :
    (s.moveConstruct x rhs).Ok := by
  refine Counted.congr h fun a ↦ ?_
  have hne : rhs ≠ x := ne_of_mem_of_not_mem hrhs hx
  have henter := refsTo_enter hx (s.mPtr rhs) a
  have hset := refsTo_setPtr (s := s.enter x (s.mPtr rhs)) (Finset.mem_insert_of_mem hrhs) none a
  have hsame : (s.enter x (s.mPtr rhs)).mPtr rhs = s.mPtr rhs := Function.update_of_ne hne _ _
  rw [hsame, points_none] at hset
  show ((s.enter x (s.mPtr rhs)).setPtr rhs none).refsTo a = _
  omega

omit [DecidableEq ν] in
/-- `Release` of what a variable points to. -/
theorem Ok.releasePtr (h : s.Ok) (hx : x ∈ s.scope) :
    ∃ objects, s.releaseRef (s.mPtr x) = some { s with objects := objects } ∧
      objects.Counted fun a ↦ s.refsTo a - points (s.mPtr x) a :=
  releaseRef_spec h (points_le_of_mem hx)

theorem Ok.destroy (h : s.Ok) (hx : x ∈ s.scope) : ∃ s', s.destroy x = some s' ∧ s'.Ok := by
  obtain ⟨objects, hrel, hcount⟩ := h.releasePtr hx
  refine ⟨{ s with objects := objects, scope := s.scope.erase x },
    by rw [ComPtrs.destroy, hrel]; rfl, hcount.congr fun a ↦ ?_⟩
  have herase := refsTo_erase hx a
  show ({ s with scope := s.scope.erase x } : ComPtrs ν).refsTo a = _
  omega

theorem Ok.copyAssign (h : s.Ok) (nothrow : Bool) (hx : x ∈ s.scope) (hrhs : rhs ∈ s.scope) :
    ∃ s', s.copyAssign nothrow x rhs = some s' ∧ s'.Ok := by
  obtain ⟨objects, hadd, hcount⟩ := addRef_spec (s := s) h (points_le_of_mem hrhs)
  have hpos : ∀ a, points (s.mPtr x) a ≤ s.refsTo a + points (s.mPtr rhs) a := fun a ↦
    (points_le_of_mem hx a).trans (Nat.le_add_right ..)
  obtain ⟨objects', hrel, hcount'⟩ :=
    releaseRef_spec (s := { s with objects := objects }) hcount hpos
  have hresult : s.copyAssign nothrow x rhs =
      some ({ s with objects := objects' }.setPtr x (s.mPtr rhs)) := by
    cases nothrow <;>
      simp only [ComPtrs.copyAssign, hadd, hrel, Bool.false_eq_true, if_false, if_true,
        Option.bind_eq_bind, Option.bind_some]
  refine ⟨_, hresult, hcount'.congr fun a ↦ ?_⟩
  have hset := refsTo_setPtr hx (s.mPtr rhs) a
  show (s.setPtr x (s.mPtr rhs)).refsTo a = _
  omega

theorem Ok.moveAssign (h : s.Ok) (hx : x ∈ s.scope) (hrhs : rhs ∈ s.scope) :
    ∃ s', s.moveAssign x rhs = some s' ∧ s'.Ok := by
  unfold ComPtrs.moveAssign
  split
  · rename_i hne
    obtain ⟨objects, hrel, hcount⟩ := h.releasePtr hx
    refine ⟨({ s with objects := objects }.setPtr rhs none).setPtr x (s.mPtr rhs),
      by rw [hrel]; rfl, ?_⟩
    refine Counted.congr hcount fun a ↦ ?_
    have hfirst := refsTo_setPtr hrhs none a
    have hsecond := refsTo_setPtr (s := s.setPtr rhs none) hx (s.mPtr rhs) a
    have hsame : (s.setPtr rhs none).mPtr x = s.mPtr x := Function.update_of_ne hne.symm _ _
    rw [hsame] at hsecond
    rw [points_none] at hfirst
    show ((s.setPtr rhs none).setPtr x (s.mPtr rhs)).refsTo a = _
    omega
  · exact ⟨s, rfl, h⟩

theorem Ok.reset (h : s.Ok) (hx : x ∈ s.scope) (hholds : s.Holds ptr) :
    ∃ s', s.reset x ptr = some s' ∧ s'.Ok := by
  obtain ⟨objects, hrel, hcount⟩ := h.releasePtr hx
  refine ⟨_, by rw [ComPtrs.reset, hrel]; rfl, ?_⟩
  have hobjects : (({ s with objects := objects }.setPtr x ptr).lose ptr).objects = objects := by
    cases ptr <;> rfl
  rw [Ok, hobjects]
  refine hcount.congr fun a ↦ ?_
  have hset := refsTo_setPtr hx ptr a
  have hheld : ({ s with objects := objects }.setPtr x ptr).Holds ptr := hholds
  have hlose := refsTo_lose hheld a
  have hsame : ({ s with objects := objects }.setPtr x ptr).refsTo a = (s.setPtr x ptr).refsTo a :=
    rfl
  have hle := points_le_of_mem hx a
  omega

theorem Ok.release (h : s.Ok) (hx : x ∈ s.scope) : (s.release x).Ok := by
  have hobjects : (s.release x).objects = s.objects := by
    unfold ComPtrs.release gain setPtr
    split <;> rfl
  rw [Ok, hobjects]
  refine h.congr fun a ↦ ?_
  have hset := refsTo_setPtr hx none a
  have hgain := refsTo_gain (s.setPtr x none) (s.mPtr x) a
  rw [points_none] at hset
  show ((s.setPtr x none).gain (s.mPtr x)).refsTo a = _
  omega

theorem Ok.swap (h : s.Ok) (hx : x ∈ s.scope) (hrhs : rhs ∈ s.scope) : (s.swap x rhs).Ok := by
  refine Counted.congr h fun a ↦ ?_
  have hfirst := refsTo_setPtr hx (s.mPtr rhs) a
  have hsecond := refsTo_setPtr (s := s.setPtr x (s.mPtr rhs)) hrhs (s.mPtr x) a
  have hsame : (s.setPtr x (s.mPtr rhs)).mPtr rhs = s.mPtr rhs := by
    by_cases heq : rhs = x
    · rw [heq]
      exact Function.update_self ..
    · exact Function.update_of_ne heq _ _
  rw [hsame] at hsecond
  show ((s.setPtr x (s.mPtr rhs)).setPtr rhs (s.mPtr x)).refsTo a = _
  omega

omit [DecidableEq ν] in
/-- A plain pointer that has just been gained is held. -/
theorem holds_gain (s : ComPtrs ν) (ptr : Option ℕ) : (s.gain ptr).Holds ptr := by
  rintro a rfl
  show 0 < Function.update s.plain a (s.plain a + 1) a
  rw [Function.update_self]
  exact Nat.succ_pos _

omit [DecidableEq ν] in
theorem scope_gain (s : ComPtrs ν) (ptr : Option ℕ) : (s.gain ptr).scope = s.scope := by
  cases ptr <;> rfl

theorem Ok.outPtr (h : (s.gain ptr).Ok) (hx : x ∈ s.scope) :
    ∃ s', s.outPtr x ptr = some s' ∧ s'.Ok :=
  h.reset (scope_gain s ptr ▸ hx) (holds_gain s ptr)

/-! ## Every run -/

/-- **Step lemma**: a legal statement has a result, and keeps the counts. -/
theorem Ok.exec (h : s.Ok) (hlegal : s.Legal op) : ∃ s', s.exec op = some s' ∧ s'.Ok := by
  cases op with
  | new a => exact ⟨_, rfl, h.new hlegal⟩
  | addRef a =>
      obtain ⟨s', hadd, hok, -⟩ := h.addRef hlegal
      exact ⟨_, by rw [ComPtrs.exec, hadd]; rfl, hok⟩
  | release a =>
      obtain ⟨s', hrel, hok⟩ := h.releasePlain hlegal
      exact ⟨_, by rw [ComPtrs.exec, hrel]; rfl, hok⟩
  | construct x =>
      have hnull : s.Holds none := nofun
      exact ⟨_, rfl, h.adopt hlegal hnull⟩
  | adopt x ptr => exact ⟨_, rfl, h.adopt hlegal.1 hlegal.2⟩
  | copyConstruct x rhs => exact h.copyConstruct hlegal.1 hlegal.2
  | moveConstruct x rhs => exact ⟨_, rfl, h.moveConstruct hlegal.1 hlegal.2⟩
  | destroy x => exact h.destroy hlegal
  | copyAssign nothrow x rhs => exact h.copyAssign nothrow hlegal.1 hlegal.2
  | moveAssign x rhs => exact h.moveAssign hlegal.1 hlegal.2
  | reset x ptr => exact h.reset hlegal.1 hlegal.2
  | releasePtr x => exact ⟨_, rfl, h.release hlegal⟩
  | swap x rhs => exact ⟨_, rfl, h.swap hlegal.1 hlegal.2⟩
  | outNew x a => exact (h.new hlegal.2).outPtr hlegal.1
  | outOld x ptr =>
      obtain ⟨s', hadd, hok, hscope, -⟩ := h.addRef hlegal.2
      obtain ⟨s'', hout, hok'⟩ := hok.outPtr (hscope ▸ hlegal.1)
      exact ⟨s'', by rw [ComPtrs.exec, hadd]; exact hout, hok'⟩

/-- **Run lemma**. -/
theorem ok_of_reachable (h : Reachable ComPtrStep IsNew s) : s.Ok := by
  refine h.invariant ?_ fun s op s' hok ⟨hlegal, hexec⟩ ↦ ?_
  · rintro _ rfl
    exact fun _ ↦ .inl ⟨rfl, rfl⟩
  · obtain ⟨s'', hexec', hok'⟩ := hok.exec hlegal
    obtain rfl : s'' = s' := Option.some.inj (hexec'.symm.trans hexec)
    exact hok'

/-- **`ComPtr` neither leaks nor uses an object that is gone**: whatever a program constructs,
assigns and destroys, an object exists as long as a variable in scope or a plain pointer has a
reference to it, it counts these references, and each statement of the program has a result. -/
theorem comPtr_safe (h : Reachable ComPtrStep IsNew s) :
    (∀ a, s.objects a = none ↔ (∀ x ∈ s.scope, s.mPtr x ≠ some a) ∧ s.plain a = 0) ∧
      (∀ a c, s.objects a = some c →
        c.count = (s.scope.filter fun x ↦ s.mPtr x = some a).card + s.plain a) ∧
      ∀ op, s.Legal op → (s.exec op).isSome := by
  have hok := ok_of_reachable h
  refine ⟨fun a ↦ ?_, fun a c hc ↦ ?_, fun op hlegal ↦ ?_⟩
  · rw [hok.eq_none_iff, refsTo, Nat.add_eq_zero_iff]
    refine and_congr_left fun _ ↦ ⟨fun hzero x hx ha ↦ ?_, fun hnone ↦ ?_⟩
    · exact absurd hzero (refs_pos hx ha).ne'
    · exact Finset.sum_eq_zero fun x hx ↦ if_neg (hnone x hx)
  · rw [hok.count_eq hc, refsTo, refs, Finset.card_filter]
  · obtain ⟨s', hexec, -⟩ := hok.exec hlegal
    rw [hexec]
    rfl

/-- A legal statement in a run. -/
theorem step_of (h : Reachable ComPtrStep IsNew s) (op : ComPtrOp ν) (hlegal : s.Legal op)
    (hexec : s.exec op = some s') : Reachable ComPtrStep IsNew s' := h.step ⟨hlegal, hexec⟩

/-- A variable is assigned to itself, and another one takes its reference over. -/
theorem comPtr_safe_self : ∃ s : ComPtrs (Fin 2), Reachable ComPtrStep IsNew s ∧
    (s.objects 5).map RefCell.count = some 1 ∧ s.mPtr 0 = none ∧ s.mPtr 1 = some 5 ∧
    ((∀ a, s.objects a = none ↔ (∀ x ∈ s.scope, s.mPtr x ≠ some a) ∧ s.plain a = 0) ∧
      (∀ a c, s.objects a = some c →
        c.count = (s.scope.filter fun x ↦ s.mPtr x = some a).card + s.plain a) ∧
      ∀ op, s.Legal op → (s.exec op).isSome) := by
  have h : Reachable ComPtrStep IsNew ({} : ComPtrs (Fin 2)) := .init rfl
  have h := step_of h (.construct 0) (Finset.notMem_empty 0) rfl
  have h := step_of h (.outNew 0 5) ⟨by decide, rfl⟩ rfl
  have h := step_of h (.copyAssign true 0 0) ⟨by decide, by decide⟩ rfl
  have h := step_of h (.moveAssign 0 0) ⟨by decide, by decide⟩ rfl
  have h := step_of h (.construct 1) (show 1 ∉ _ by decide) rfl
  have h := step_of h (.moveAssign 1 0) ⟨by decide, by decide⟩ rfl
  exact ⟨_, h, rfl, rfl, rfl, comPtr_safe h⟩

end Dsoal.ComPtrs
