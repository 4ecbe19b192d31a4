import Dsoal.Lib.RefHeap
import Dsoal.Lib.Tally

/-!
# Exact reference counts

`RefHeap.Covered` lets an object count more references than its holders have.  Where all
references are known, `Counted h n` says that each live object counts exactly those in `n`, and
that it is alive as long as there is one.  Then the operations are defined wherever a reference
is used that there is, and say how `n` changes.

`refs S hold a` is the number of the parties of `S` that hold a reference to the object at `a`.
-/

universe u v w

namespace RefHeap

variable {α : Type u} {β : Type v} {h h' : RefHeap α β} {a : α} {x : β} {n n' : α → ℕ}

/-! ## The parties that hold a reference -/

section Refs

variable {κ : Type w} [DecidableEq α] [DecidableEq κ] {S : Finset κ} {hold : κ → Option α} {i : κ}

/-- How many parties hold a reference to the object at `a`. -/
def refs (S : Finset κ) (hold : κ → Option α) (a : α) : ℕ :=
  ∑ i ∈ S, if hold i = some a then 1 else 0

omit [DecidableEq κ] in
@[simp] theorem refs_empty (hold : κ → Option α) (a : α) : refs ∅ hold a = 0 := rfl

omit [DecidableEq κ] in
theorem refs_congr {hold' : κ → Option α} (hsame : ∀ i ∈ S, hold' i = hold i) :
    refs S hold' a = refs S hold a := Finset.sum_congr rfl fun i hi ↦ by rw [hsame i hi]

omit [DecidableEq κ] in
theorem refs_pos (hi : i ∈ S) (ha : hold i = some a) : 0 < refs S hold a := by
  have hle := Finset.single_le_sum (f := fun j ↦ if hold j = some a then 1 else 0)
    (fun _ _ ↦ Nat.zero_le _) hi
  simp only [ha, if_true] at hle
  exact hle

/-- A party holds something else. -/
theorem refs_update (hi : i ∈ S) (o : Option α) :
    refs S (Function.update hold i o) a + (if hold i = some a then 1 else 0) =
      refs S hold a + if o = some a then 1 else 0 :=
  Tally.sum_update_add hi hold o fun o ↦ if o = some a then 1 else 0

theorem refs_insert (hi : i ∉ S) :
    refs (insert i S) hold a = refs S hold a + if hold i = some a then 1 else 0 := by
  rw [refs, Finset.sum_insert hi, Nat.add_comm]
  rfl

theorem refs_erase (hi : i ∈ S) :
    refs (S.erase i) hold a + (if hold i = some a then 1 else 0) = refs S hold a :=
  Finset.sum_erase_add S _ hi

end Refs

/-! ## Counters -/

/-- Each object counts the references `n`, and is alive if there are any. -/
def Counted (h : RefHeap α β) (n : α → ℕ) : Prop :=
  ∀ a, (h a = none ∧ n a = 0) ∨ ∃ c, h a = some c ∧ c.count = n a ∧ 0 < n a

namespace Counted

theorem congr (hcount : h.Counted n) (heq : ∀ a, n' a = n a) : h.Counted n' := by
  intro a
  rw [heq a]
  exact hcount a

/-- An object that there is a reference to. -/
theorem live (hcount : h.Counted n) (hpos : 0 < n a) : ∃ c, h a = some c ∧ c.count = n a := by
  rcases hcount a with ⟨-, hzero⟩ | ⟨c, hc, heq, -⟩
  · exact absurd hzero hpos.ne'
  · exact ⟨c, hc, heq⟩

theorem eq_none_iff (hcount : h.Counted n) : h a = none ↔ n a = 0 := by
  rcases hcount a with ⟨hnone, hzero⟩ | ⟨c, hc, -, hpos⟩
  · exact ⟨fun _ ↦ hzero, fun _ ↦ hnone⟩
  · rw [hc]
    exact ⟨nofun, fun hzero ↦ absurd hzero hpos.ne'⟩

theorem count_eq (hcount : h.Counted n) {c : RefCell β} (hc : h a = some c) : c.count = n a := by
  rcases hcount a with ⟨hnone, -⟩ | ⟨c', hc', heq, -⟩
  · rw [hnone] at hc
    cases hc
  · rw [hc] at hc'
    cases hc'
    exact heq

variable [DecidableEq α]

/-- What happens at one address. -/
private theorem update {cell : Option (RefCell β)} (hcount : h.Counted n)
    (hhere : (cell = none ∧ n' a = 0) ∨ ∃ c, cell = some c ∧ c.count = n' a ∧ 0 < n' a)
    (helse : ∀ b, b ≠ a → n' b = n b) : Counted (Function.update h a cell) n' := by
  intro b
  by_cases hb : b = a
  · rw [hb, Function.update_self]
    exact hhere
  · rw [Function.update_of_ne hb, helse b hb]
    exact hcount b

/-- A new object. -/
theorem alloc (hcount : h.Counted n) (hone : n' a = 1) (helse : ∀ b, b ≠ a → n' b = n b) :
    (h.alloc a x).Counted n' :=
  hcount.update (.inr ⟨⟨1, x⟩, rfl, hone.symm, by rw [hone]; exact Nat.one_pos⟩) helse

/-- Another reference to an object that there is one to. -/
theorem addRef (hcount : h.Counted n) (hpos : 0 < n a) (hadd : n' a = n a + 1)
    (helse : ∀ b, b ≠ a → n' b = n b) : ∃ h', h.addRef a = some h' ∧ h'.Counted n' ∧
      ∀ b, (h' b).map RefCell.value = (h b).map RefCell.value := by
  obtain ⟨c, hc, hcount'⟩ := hcount.live hpos
  refine ⟨Function.update h a (some { c with count := c.count + 1 }), ?_, ?_, fun b ↦ ?_⟩
  · rw [RefHeap.addRef, hc]
    rfl
  · refine hcount.update (.inr ⟨_, rfl, ?_, by omega⟩) helse
    rw [hadd, ← hcount']
  · by_cases hb : b = a
    · rw [hb, Function.update_self, hc]
      rfl
    · rw [Function.update_of_ne hb]

/-- A reference is returned: with the last one, the object goes. -/
theorem release (hcount : h.Counted n) (hpos : 0 < n a) (hsub : n' a + 1 = n a)
    (helse : ∀ b, b ≠ a → n' b = n b) : ∃ freed h', h.release a = some (freed, h') ∧
      h'.Counted n' ∧
      ((n' a = 0 ∧ h' a = none ∧ ∃ c, h a = some c ∧ freed = some c.value) ∨
        (0 < n' a ∧ freed = none ∧ (h' a).map RefCell.value = (h a).map RefCell.value)) ∧
      ∀ b, b ≠ a → h' b = h b := by
  obtain ⟨c, hc, hcount'⟩ := hcount.live hpos
  by_cases hlast : c.count - 1 = 0
  · refine ⟨some c.value, Function.update h a none, ?_, ?_, ?_, fun b hb ↦
      Function.update_of_ne hb ..⟩
    · simp only [RefHeap.release, hc, Option.map_some, if_pos hlast]
    · exact hcount.update (.inl ⟨rfl, by omega⟩) helse
    · exact .inl ⟨by omega, Function.update_self .., c, hc, rfl⟩
  · refine ⟨none, Function.update h a (some { c with count := c.count - 1 }), ?_, ?_, ?_, fun b hb ↦
      Function.update_of_ne hb ..⟩
    · simp only [RefHeap.release, hc, Option.map_some, if_neg hlast]
    · refine hcount.update (.inr ⟨_, rfl, ?_, by omega⟩) helse
      show c.count - 1 = n' a
      omega
    · refine .inr ⟨by omega, rfl, ?_⟩
      rw [Function.update_self, hc]
      rfl

end Counted

end RefHeap
