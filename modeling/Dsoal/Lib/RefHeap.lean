import Mathlib.Data.Finset.Card
import Mathlib.Data.Finset.Insert
import Mathlib.Logic.Function.Basic

/-!
# Reference-counted objects

An object on the heap counts the references to it, and is destroyed when the last one
is returned.  The operations are partial: there is nothing to count at an address
where no object lives.

Taking a reference and returning it again is no change, and neither is allocating an
object and returning its only reference.  `Covered` relates the counters to the parties
that hold the references: every party's object is alive and counts at least the
parties that hold it.  It is `at least`, since there can be other parties.

The counter is a natural number, which does not wrap around.  That is a counter in a machine word
as long as there are not as many references to one object as the word has values.
-/

universe u v w

/-- An object with its reference counter. -/
@[ext]
structure RefCell (β : Type v) where
  count : ℕ
  value : β
  deriving DecidableEq

/-- The live objects, by address. -/
abbrev RefHeap (α : Type u) (β : Type v) := α → Option (RefCell β)

namespace RefHeap

variable {α : Type u} {β : Type v} [DecidableEq α] {h h' : RefHeap α β} {a : α} {x y : β}

/-- A new object with one reference. -/
def alloc (h : RefHeap α β) (a : α) (x : β) : RefHeap α β := Function.update h a (some ⟨1, x⟩)

/-- Store a value in an object. -/
def store (h : RefHeap α β) (a : α) (x : β) : Option (RefHeap α β) :=
  (h a).map fun c ↦ Function.update h a (some { c with value := x })

/-- Take a reference. -/
def addRef (h : RefHeap α β) (a : α) : Option (RefHeap α β) :=
  (h a).map fun c ↦ Function.update h a (some { c with count := c.count + 1 })

/-- Return a reference.  If it was the last one, the object is destroyed, and the value
it had is the first component. -/
def release (h : RefHeap α β) (a : α) : Option (Option β × RefHeap α β) :=
  (h a).map fun c ↦
    if c.count - 1 = 0 then (some c.value, Function.update h a none)
    else (none, Function.update h a (some { c with count := c.count - 1 }))

/-! ## What is undone -/

/-- What is stored in a new object. -/
theorem store_alloc : (h.alloc a x).store a y = some (h.alloc a y) := by
  simp [store, alloc]

/-- Returning the only reference to a new object. -/
theorem release_alloc (hfree : h a = none) : (h.alloc a x).release a = some (some x, h) := by
  have hnone : Function.update h a none = h := by
    rw [← hfree, Function.update_eq_self]
  simp [release, alloc, hnone]

/-- Returning a reference that has been taken. -/
theorem release_of_addRef {c : RefCell β} (hc : h a = some c) (hpos : 0 < c.count)
    (hadd : h.addRef a = some h') : h'.release a = some (none, h) := by
  rw [addRef, hc] at hadd
  obtain rfl := Option.some.inj hadd
  have hself : Function.update h a (some c) = h := by
    rw [← hc, Function.update_eq_self]
  simp [release, hself, hpos.ne']

/-! ## Who holds references -/

section Covered

variable {κ : Type w} [DecidableEq κ] {S : Finset κ} {hold hold' : κ → Option α} {i j : κ}

/-- The parties that hold a reference to the object at `a`. -/
def holders (S : Finset κ) (hold : κ → Option α) (a : α) : Finset κ :=
  S.filter fun i ↦ hold i = some a

/-- Each party of `S` holds a reference to a live object, which counts those that do. -/
def Covered (h : RefHeap α β) (S : Finset κ) (hold : κ → Option α) : Prop :=
  ∀ i ∈ S, ∃ a c, hold i = some a ∧ h a = some c ∧ (holders S hold a).card ≤ c.count

omit [DecidableEq κ] in
theorem mem_holders : i ∈ holders S hold a ↔ i ∈ S ∧ hold i = some a := by simp [holders]

omit [DecidableEq κ] in
theorem holders_congr (hsame : ∀ i ∈ S, hold' i = hold i) :
    holders S hold' a = holders S hold a :=
  Finset.filter_congr fun i hi ↦ by rw [hsame i hi]

namespace Covered

omit [DecidableEq κ] in
theorem congr (hcov : h.Covered S hold) (hsame : ∀ i ∈ S, hold' i = hold i) :
    h.Covered S hold' := by
  intro i hi
  obtain ⟨a, c, ha, hc, hle⟩ := hcov i hi
  exact ⟨a, c, (hsame i hi).trans ha, hc, by rwa [holders_congr hsame]⟩

omit [DecidableEq κ] in
/-- An object that is held has a reference. -/
theorem count_pos (hcov : h.Covered S hold) (hi : i ∈ S) (ha : hold i = some a) :
    ∃ c, h a = some c ∧ 0 < c.count := by
  obtain ⟨a', c, ha', hc, hle⟩ := hcov i hi
  obtain rfl : a = a' := Option.some.inj (ha.symm.trans ha')
  exact ⟨c, hc, (Finset.card_pos.mpr ⟨i, mem_holders.mpr ⟨hi, ha⟩⟩).trans_le hle⟩

/-- Parties that hold nothing else. -/
private theorem holders_insert_of_ne {b : α} (hi : hold i ≠ some b) :
    holders (insert i S) hold b = holders S hold b := by
  rw [holders, Finset.filter_insert, if_neg hi, holders]

private theorem holders_insert (hi : hold i = some a) :
    holders (insert i S) hold a = insert i (holders S hold a) := by
  rw [holders, Finset.filter_insert, if_pos hi, holders]

/-- A new party gets the only reference to a new object. -/
theorem alloc (hcov : h.Covered S hold) (hfree : h a = none) (hi : hold i = some a) :
    (h.alloc a x).Covered (insert i S) hold := by
  have hnot : ∀ j ∈ S, hold j ≠ some a := by
    intro j hj hja
    obtain ⟨c, hc, -⟩ := hcov.count_pos hj hja
    rw [hfree] at hc
    cases hc
  intro j hj
  by_cases hja : hold j = some a
  · refine ⟨a, ⟨1, x⟩, hja, Function.update_self .., ?_⟩
    have hempty : holders S hold a = ∅ :=
      Finset.filter_eq_empty_iff.mpr fun j hj ↦ hnot j hj
    rw [holders_insert hi, hempty]
    exact (Finset.card_singleton i).le
  · have hj : j ∈ S := (Finset.mem_insert.mp hj).resolve_left fun hji ↦ hja (hji ▸ hi)
    obtain ⟨b, c, hb, hc, hle⟩ := hcov j hj
    have hba : b ≠ a := by
      rintro rfl
      exact hja hb
    refine ⟨b, c, hb, (Function.update_of_ne hba ..).trans hc, ?_⟩
    rwa [holders_insert_of_ne]
    rw [hi]
    exact fun heq ↦ hba (Option.some.inj heq).symm

/-- A new party takes a reference to an object another one holds. -/
theorem addRef (hcov : h.Covered S hold) (hadd : h.addRef a = some h') (hj : j ∈ S)
    (hja : hold j = some a) (hi : hold i = some a) : h'.Covered (insert i S) hold := by
  obtain ⟨c, hc, rfl⟩ := Option.map_eq_some_iff.mp hadd
  have hcount : (holders S hold a).card ≤ c.count := by
    obtain ⟨a', c', ha', hc', hle⟩ := hcov j hj
    obtain rfl : a = a' := Option.some.inj (hja.symm.trans ha')
    obtain rfl : c = c' := Option.some.inj (hc.symm.trans hc')
    exact hle
  intro k hk
  by_cases hka : hold k = some a
  · refine ⟨a, _, hka, Function.update_self .., ?_⟩
    rw [holders_insert hi]
    exact (Finset.card_insert_le _ _).trans (Nat.succ_le_succ hcount)
  · have hk : k ∈ S := (Finset.mem_insert.mp hk).resolve_left fun hki ↦ hka (hki ▸ hi)
    obtain ⟨b, c', hb, hc', hle⟩ := hcov k hk
    have hba : b ≠ a := by
      rintro rfl
      exact hka hb
    refine ⟨b, c', hb, (Function.update_of_ne hba ..).trans hc', ?_⟩
    rwa [holders_insert_of_ne]
    rw [hi]
    exact fun heq ↦ hba (Option.some.inj heq).symm

/-- A party returns its reference. -/
theorem release (hcov : h.Covered S hold) (hi : i ∈ S) (ha : hold i = some a) {freed : Option β}
    (hrel : h.release a = some (freed, h')) : h'.Covered (S.erase i) hold := by
  obtain ⟨c, hc, hcell⟩ := Option.map_eq_some_iff.mp hrel
  have herase : ∀ b, holders (S.erase i) hold b = (holders S hold b).erase i := fun b ↦
    Finset.filter_erase _ _ _
  intro k hk
  obtain ⟨hki, hk⟩ := Finset.mem_erase.mp hk
  obtain ⟨b, c', hb, hc', hle⟩ := hcov k hk
  by_cases hba : b = a
  · subst hba
    obtain rfl : c = c' := Option.some.inj (hc.symm.trans hc')
    have hcard : ((holders S hold b).erase i).card + 1 = (holders S hold b).card :=
      Finset.card_erase_add_one (mem_holders.mpr ⟨hi, ha⟩)
    -- the party `k` holds a reference that is not the one returned
    have hpos : 0 < ((holders S hold b).erase i).card :=
      Finset.card_pos.mpr ⟨k, Finset.mem_erase.mpr ⟨hki, mem_holders.mpr ⟨hk, hb⟩⟩⟩
    rw [if_neg (by omega)] at hcell
    cases hcell
    refine ⟨b, _, hb, Function.update_self .., ?_⟩
    rw [herase]
    dsimp only
    omega
  · refine ⟨b, c', hb, ?_, ?_⟩
    · split_ifs at hcell <;> cases hcell <;> exact (Function.update_of_ne hba ..).trans hc'
    · rw [herase]
      exact (Finset.card_erase_le).trans hle

end Covered

end Covered

end RefHeap
