import Dsoal.Core.Slots
import Mathlib.Tactic

/-!
# The layout of the groups

What has to hold of the vector of groups for its operations to mean what they
are meant to: every group owns an array whose free bits are exactly its raw
slots (`BufferSubList.Ok`), and the arrays do not overlap and lie in the lower
half of the address space (`PoolOk`), which is what an allocator guarantees and
what makes the pointer difference of `dispose` find the right group.

The second half of the file gives the operations in terms of `lookup`, the
abstract contents of the pool: a partial map from pointers to objects.  The rest
of the development uses only these lemmas.
-/

universe u

namespace Dsoal

open BitScan BufferSubList

variable {α : Type u}

/-! ## Pointer differences -/

/-- The arrays of two groups do not overlap. -/
def Apart [Abi] (b b' : ℕ) : Prop := b + groupBytes ≤ b' ∨ b' + groupBytes ≤ b

/-- An array lies in the part of the address space a process can use. -/
def Addressable [Abi] (b : ℕ) : Prop := b + groupBytes ≤ 2 ^ 63

instance [Abi] (b b' : ℕ) : Decidable (Apart b b') := inferInstanceAs (Decidable (_ ∨ _))

instance [Abi] (b : ℕ) : Decidable (Addressable b) := inferInstanceAs (Decidable (_ ≤ _))

theorem groupBytes_pos [Abi] : 0 < groupBytes :=
  Nat.mul_pos (by norm_num) Abi.sizeofBuffer.pos

theorem Apart.symm [Abi] {b b' : ℕ} (h : Apart b b') : Apart b' b := Or.symm h

theorem Apart.ne [Abi] {b b' : ℕ} (h : Apart b b') : b ≠ b' := by
  rintro rfl
  have := groupBytes_pos
  rcases h with h | h <;> omega

/-- A pointer into the array at `base` is its index away from it. -/
theorem ptrIndex_self [Abi] (p : Ptr) : ptrIndex p.addr p.base = p.idx := by
  have hS : (0 : ℤ) < Abi.sizeofBuffer := by exact_mod_cast Abi.sizeofBuffer.pos
  have hi := p.idx.isLt
  have hdiff : ((p.addr : ℤ) - p.base) = (p.idx : ℕ) * (Abi.sizeofBuffer : ℕ) := by
    simp only [Ptr.addr]
    push_cast
    ring
  unfold ptrIndex
  rw [hdiff, Int.mul_ediv_cancel _ (ne_of_gt hS)]
  omega

/-- A pointer into another array is never fewer than 64 elements away from the
array at `base`: in front of it the difference wraps to a huge number, behind it
a whole array lies in between. -/
theorem ptrIndex_of_apart [Abi] {p : Ptr} {base : ℕ} (h : Apart p.base base)
    (hp : Addressable p.base) (hb : Addressable base) : ¬ ptrIndex p.addr base < 64 := by
  have hS : (0 : ℤ) < Abi.sizeofBuffer := by exact_mod_cast Abi.sizeofBuffer.pos
  have hi : (p.idx : ℤ) ≤ 63 := by have := p.idx.isLt; omega
  have hi0 : (0 : ℤ) ≤ p.idx := Int.natCast_nonneg _
  have hdiff : ((p.addr : ℤ) - base) = (p.base : ℤ) - base + p.idx * Abi.sizeofBuffer := by
    simp only [Ptr.addr]
    push_cast
    ring
  have hlo : (p.idx : ℤ) * Abi.sizeofBuffer ≤ 63 * Abi.sizeofBuffer :=
    mul_le_mul_of_nonneg_right hi hS.le
  have hlo0 : 0 ≤ (p.idx : ℤ) * Abi.sizeofBuffer := mul_nonneg hi0 hS.le
  have hS1 : (1 : ℤ) ≤ Abi.sizeofBuffer := hS
  unfold Addressable groupBytes at hp hb
  zify at hp hb
  unfold ptrIndex
  set q : ℤ := ((p.addr : ℤ) - base) / Abi.sizeofBuffer with hq
  rcases h with h | h
  · -- the buffer lies in front of the group
    have hle : p.base + 64 * (Abi.sizeofBuffer : ℤ) ≤ base := by
      unfold groupBytes at h
      exact_mod_cast h
    have hneg : q < 0 := by
      rw [hq]
      refine Int.ediv_neg_of_neg_of_pos ?_ hS
      rw [hdiff]
      linarith
    have hge : -2 ^ 63 ≤ q := by
      rw [hq]
      refine Int.le_ediv_of_mul_le hS ?_
      rw [hdiff]
      have h1 : (-2 ^ 63 : ℤ) * Abi.sizeofBuffer ≤ -2 ^ 63 := by nlinarith
      have h2 : (0 : ℤ) ≤ p.base := Int.natCast_nonneg _
      linarith
    omega
  · -- the buffer lies behind the group
    have hle : base + 64 * (Abi.sizeofBuffer : ℤ) ≤ p.base := by
      unfold groupBytes at h
      exact_mod_cast h
    have hge : 64 ≤ q := by
      rw [hq]
      refine Int.le_ediv_of_mul_le hS ?_
      rw [hdiff]
      linarith
    have hlt : q < 2 ^ 64 := by
      rw [hq]
      refine Int.ediv_lt_of_lt_mul hS ?_
      rw [hdiff]
      have h1 : (2 ^ 64 : ℤ) ≤ 2 ^ 64 * Abi.sizeofBuffer := by nlinarith
      have h2 : (0 : ℤ) ≤ base := Int.natCast_nonneg _
      linarith
    omega

/-! ## Well-formed groups -/

namespace BufferSubList

/-- A group owns an array, and its mask is clear exactly at the slots that hold
an object. -/
structure Ok (g : BufferSubList α) : Prop where
  /-- The group is not a moved-from one. -/
  backed : g.mBuffers.isSome
  /-- A bit is clear exactly when its slot holds an object. -/
  mask : ∀ i : Fin 64, g.mFreeMask.getLsbD i = false ↔ (g.elem i).isSome

variable {g : BufferSubList α} {i j : Fin 64} {x : Option α}

@[simp] theorem base_setElem : (g.setElem i x).base = g.base := by
  cases h : g.mBuffers <;> simp [setElem, base, h]

@[simp] theorem base_markUsed {n : ℕ} : (g.markUsed n).base = g.base := rfl

@[simp] theorem base_markFree {n : ℕ} : (g.markFree n).base = g.base := rfl

@[simp] theorem base_allocated {b : ℕ} : (allocated b : BufferSubList α).base = b := rfl

@[simp] theorem elem_markUsed {n : ℕ} : (g.markUsed n).elem i = g.elem i := rfl

@[simp] theorem elem_markFree {n : ℕ} : (g.markFree n).elem i = g.elem i := rfl

@[simp] theorem elem_allocated {b : ℕ} : (allocated b : BufferSubList α).elem i = none := rfl

@[simp] theorem mFreeMask_setElem : (g.setElem i x).mFreeMask = g.mFreeMask := rfl

@[simp] theorem isSome_mBuffers_setElem :
    (g.setElem i x).mBuffers.isSome = g.mBuffers.isSome := by
  simp [setElem]

theorem elem_setElem (h : g.mBuffers.isSome) :
    (g.setElem i x).elem j = if j = i then x else g.elem j := by
  obtain ⟨st, hst⟩ := Option.isSome_iff_exists.mp h
  simp [elem, setElem, hst, Function.update_apply]

theorem getLsbD_markUsed {n k : ℕ} (hk : k < 64) :
    (g.markUsed n).mFreeMask.getLsbD k = (g.mFreeMask.getLsbD k && decide (k ≠ n)) := by
  rw [markUsed, BitVec.getLsbD_and, BitVec.getLsbD_not, getLsbD_bit]
  by_cases h : k = n <;> simp [hk, h]

theorem getLsbD_markFree {n k : ℕ} (hk : k < 64) :
    (g.markFree n).mFreeMask.getLsbD k = (g.mFreeMask.getLsbD k || decide (k = n)) := by
  rw [markFree, BitVec.getLsbD_or, getLsbD_bit]
  by_cases h : k = n
  · subst h
    simp [hk]
  · simp [hk, h]

/-- A freshly allocated group is well formed. -/
theorem ok_allocated (b : ℕ) : (allocated b : BufferSubList α).Ok :=
  ⟨rfl, fun i ↦ by
    rw [elem_allocated, allocated, BitVec.getLsbD_not, BitVec.getLsbD_zero]
    simp [i.isLt]⟩

/-- Constructing an object in a slot and clearing its bit keeps a group well
formed. -/
theorem Ok.fill (h : g.Ok) (i : Fin 64) (x : α) : ((g.setElem i (some x)).markUsed i).Ok := by
  refine ⟨by simpa [markUsed] using h.backed, fun j ↦ ?_⟩
  rw [getLsbD_markUsed j.isLt, elem_markUsed, elem_setElem h.backed]
  by_cases hj : j = i
  · simp [hj]
  · have hv : (j : ℕ) ≠ i := fun hc ↦ hj (Fin.ext hc)
    simpa [hj, hv] using h.mask j

/-- Destroying the object of a slot and setting its bit keeps a group well
formed. -/
theorem Ok.empty (h : g.Ok) (i : Fin 64) : ((g.setElem i none).markFree i).Ok := by
  refine ⟨by simpa [markFree] using h.backed, fun j ↦ ?_⟩
  rw [getLsbD_markFree j.isLt, elem_markFree, elem_setElem h.backed]
  by_cases hj : j = i
  · simp [hj]
  · have hv : (j : ℕ) ≠ i := fun hc ↦ hj (Fin.ext hc)
    simpa [hj, hv] using h.mask j

/-- Changing an object in place keeps a group well formed. -/
theorem Ok.update (h : g.Ok) (i : Fin 64) (f : α → α) :
    (g.setElem i ((g.elem i).map f)).Ok := by
  refine ⟨by simpa using h.backed, fun j ↦ ?_⟩
  rw [mFreeMask_setElem, elem_setElem h.backed]
  by_cases hj : j = i
  · subst hj
    simpa using h.mask j
  · simpa [hj] using h.mask j

/-- Writing what a slot holds already. -/
@[simp] theorem setElem_elem : g.setElem i (g.elem i) = g := by
  cases g with
  | mk mask buffers => cases buffers <;> simp [setElem, elem]

/-- **Filling a raw slot and emptying it again** leaves the group as it was. -/
theorem Ok.empty_fill (h : g.Ok) (hi : g.elem i = none) (x y : Option α) :
    ((((g.setElem i x).markUsed i).setElem i y).setElem i none).markFree i = g := by
  have hfree : g.mFreeMask.getLsbD i = true := by
    rw [← Bool.not_eq_false, h.mask i, hi]
    simp
  have hmask : ((((g.setElem i x).markUsed i).setElem i y).setElem i none).markFree i =
      { g.setElem i (g.elem i) with mFreeMask := (g.markUsed i |>.markFree i).mFreeMask } := by
    cases g with
    | mk mask buffers => cases buffers <;> simp_all [setElem, markUsed, markFree, elem]
  rw [hmask, setElem_elem]
  refine congrArg (fun mask ↦ ({ g with mFreeMask := mask } : BufferSubList α)) ?_
  refine BitVec.eq_of_getLsbD_eq fun k hk ↦ ?_
  rw [getLsbD_markFree hk, getLsbD_markUsed hk]
  by_cases hki : k = i
  · simp [hki, hfree]
  · simp [hki]

/-- **A walk over the mask visits the live slots.** -/
theorem mem_usedSlots (h : g.Ok) : i ∈ g.usedSlots ↔ (g.elem i).isSome := by
  rw [usedSlots, mem_scanFin, BitVec.getLsbD_not, ← h.mask i]
  simp [i.isLt]

/-- A walk over the mask visits no slot twice. -/
theorem nodup_usedSlots : g.usedSlots.Nodup := scanFin_nodup _

/-- Moving a group leaves a group behind whose destructor destroys nothing. -/
@[simp] theorem moveFrom_fst : g.moveFrom.1 = g := rfl

@[simp] theorem destroyedSlots_moveFrom_snd : g.moveFrom.2.destroyedSlots = [] := rfl

/-- The destructor of a well-formed group destroys the live slots. -/
theorem destroyedSlots_eq (h : g.Ok) : g.destroyedSlots = g.usedSlots := by
  obtain ⟨st, hst⟩ := Option.isSome_iff_exists.mp h.backed
  simp [destroyedSlots, hst]

end BufferSubList

/-- **Growing the vector moves the groups without changing any of them**, and
destroys no buffer. -/
theorem emplaceBack_eq (grow : Bool) (gs : List (BufferSubList α)) (g : BufferSubList α) :
    emplaceBack grow gs g = (gs ++ [g], []) := by
  cases grow <;> simp [emplaceBack]

/-- The vector of groups is well formed: every group is, and the arrays are
addressable and apart from each other. -/
structure PoolOk [Abi] (gs : List (BufferSubList α)) : Prop where
  /-- Masks and storage agree. -/
  ok : ∀ g ∈ gs, g.Ok
  /-- Every array is addressable. -/
  addressable : ∀ g ∈ gs, Addressable g.base
  /-- The arrays do not overlap. -/
  apart : gs.Pairwise fun g h ↦ Apart g.base h.base

/-- What the allocator guarantees for an array it returns. -/
def FreshBase [Abi] (b : ℕ) (gs : List (BufferSubList α)) : Prop :=
  Addressable b ∧ ∀ g ∈ gs, Apart g.base b

instance [Abi] (b : ℕ) (gs : List (BufferSubList α)) : Decidable (FreshBase b gs) :=
  inferInstanceAs (Decidable (_ ∧ _))

namespace PoolOk

variable [Abi] {gs : List (BufferSubList α)} {p q : Ptr}

theorem nil : PoolOk ([] : List (BufferSubList α)) := ⟨nofun, nofun, .nil⟩

/-- Adding a group over a fresh array keeps the vector well formed. -/
theorem emplaceBack (h : PoolOk gs) {b : ℕ} (hb : FreshBase b gs) :
    PoolOk (gs ++ [.allocated b]) := by
  refine ⟨fun g hg ↦ ?_, fun g hg ↦ ?_, ?_⟩
  · rcases List.mem_append.mp hg with hg | hg
    · exact h.ok g hg
    · rw [List.mem_singleton.mp hg]
      exact ok_allocated b
  · rcases List.mem_append.mp hg with hg | hg
    · exact h.addressable g hg
    · rw [List.mem_singleton.mp hg]
      exact hb.1
  · rw [List.pairwise_append]
    refine ⟨h.apart, List.pairwise_singleton _ _, fun g hg g' hg' ↦ ?_⟩
    rw [List.mem_singleton.mp hg']
    exact hb.2 g hg

/-- Two groups at one address are one group. -/
theorem eq_of_base (h : PoolOk gs) {k l : ℕ} {g g' : BufferSubList α} (hk : gs[k]? = some g)
    (hl : gs[l]? = some g') (hb : g.base = g'.base) : k = l := by
  obtain ⟨hk', rfl⟩ := List.getElem?_eq_some_iff.mp hk
  obtain ⟨hl', rfl⟩ := List.getElem?_eq_some_iff.mp hl
  rcases lt_trichotomy k l with hlt | heq | hlt
  · exact absurd hb (List.pairwise_iff_getElem.mp h.apart k l hk' hl' hlt).ne
  · exact heq
  · exact absurd hb.symm (List.pairwise_iff_getElem.mp h.apart l k hl' hk' hlt).ne

/-- The group a pointer points into is the one at its base address. -/
theorem find_eq (h : PoolOk gs) {k : ℕ} {g : BufferSubList α} (hk : gs[k]? = some g)
    (hb : g.base = p.base) : gs.find? (fun g ↦ g.base = p.base) = some g := by
  obtain ⟨hk', rfl⟩ := List.getElem?_eq_some_iff.mp hk
  rw [List.find?_eq_some_iff_getElem]
  refine ⟨by simpa using hb, k, hk', rfl, fun j hj ↦ ?_⟩
  have hne := (List.pairwise_iff_getElem.mp h.apart j k (by omega) hk' hj).ne
  simpa [hb] using hne

/-- The contents of a pool, group by group. -/
theorem lookup_eq (h : PoolOk gs) {k : ℕ} {g : BufferSubList α} (hk : gs[k]? = some g)
    (hb : g.base = p.base) : lookup p gs = g.elem p.idx := by
  simp [lookup, h.find_eq hk hb]

end PoolOk

end Dsoal
