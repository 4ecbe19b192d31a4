import Dsoal.Lib.Transition
import Dsoal.Slots.Contents

/-!
# Runs of the slot allocator

The allocator as a transition system: `createSecondaryBuffer`, `dispose` of a
live buffer and the preallocation loop of `Initialize`, in any order and any
number.  The only assumption on a step is about the memory allocator, which
returns arrays that overlap no live one (`FreshBase`).

`PoolStep.poolOk` is the step lemma and `poolOk_of_reachable` the run lemma; the
theorem of this file spells out what they mean for the masks, for the three
operations and for the walks over the masks.
-/

universe u

namespace Dsoal

open BitScan BufferSubList TransitionSystem

variable {α : Type u}

/-- The operations of the allocator. -/
inductive PoolOp (α : Type u) where
  /-- `createSecondaryBuffer`, constructing `x`. -/
  | create (x : α) (alloc : Option ℕ) (grow : Bool)
  /-- `dispose` of the buffer at a pointer. -/
  | dispose (p : Ptr)
  /-- The preallocation of `Initialize`. -/
  | preallocate (allocs : List (Option ℕ × Bool))

/-- The arrays a preallocation gets are fresh, each at its turn. -/
def FreshAllocs [Abi] : List (Option ℕ × Bool) → List (BufferSubList α) → Prop
  | [], _ => True
  | (none, _) :: _, _ => True
  | (some b, _) :: rest, gs => FreshBase b gs ∧ FreshAllocs rest (gs ++ [.allocated b])

/-- One operation of the allocator. -/
inductive PoolStep [Abi] : List (BufferSubList α) → PoolOp α → List (BufferSubList α) → Prop
  /-- A buffer is created; the array it may need is fresh. -/
  | create {gs gs' : List (BufferSubList α)} {x : α} {alloc : Option ℕ} {grow : Bool} {p : Ptr}
      (fresh : ∀ b, alloc = some b → FreshBase b gs)
      (h : createSecondaryBuffer x alloc grow gs = some (p, gs')) :
      PoolStep gs (.create x alloc grow) gs'
  /-- A live buffer is disposed of. -/
  | dispose {gs : List (BufferSubList α)} {p : Ptr} (live : (lookup p gs).isSome) :
      PoolStep gs (.dispose p) (dispose p gs)
  /-- Groups are preallocated. -/
  | preallocate {gs : List (BufferSubList α)} {allocs : List (Option ℕ × Bool)}
      (fresh : FreshAllocs allocs gs) : PoolStep gs (.preallocate allocs) (preallocate allocs gs)

variable [Abi] {gs gs' : List (BufferSubList α)}

/-- Preallocating groups keeps the vector well formed. -/
theorem PoolOk.preallocate (h : PoolOk gs) {allocs : List (Option ℕ × Bool)}
    (hf : FreshAllocs allocs gs) : PoolOk (preallocate allocs gs) := by
  induction allocs generalizing gs with
  | nil => exact h
  | cons a allocs ih =>
      obtain ⟨_ | b, grow⟩ := a
      · exact h
      · simp only [Dsoal.preallocate, emplaceBack_eq]
        exact ih (h.emplaceBack hf.1) hf.2

omit [Abi] in
/-- Preallocated groups hold no object. -/
theorem lookup_preallocate (allocs : List (Option ℕ × Bool)) (gs : List (BufferSubList α))
    (q : Ptr) : lookup q (preallocate allocs gs) = lookup q gs := by
  induction allocs generalizing gs with
  | nil => rfl
  | cons a allocs ih =>
      obtain ⟨_ | b, grow⟩ := a
      · rfl
      · simp only [preallocate, emplaceBack_eq]
        rw [ih, PoolOk.lookup_emplaceBack]

/-- **Step lemma**: every operation keeps the vector well formed. -/
theorem PoolStep.poolOk {op : PoolOp α} (h : PoolOk gs) (hs : PoolStep gs op gs') :
    PoolOk gs' := by
  cases hs with
  | create fresh hc => exact h.createSecondaryBuffer fresh hc
  | dispose live => exact h.dispose live
  | preallocate fresh => exact h.preallocate fresh

/-- **Run lemma**: the vector is well formed in every reachable state. -/
theorem poolOk_of_reachable (h : Reachable PoolStep (· = []) gs) : PoolOk gs :=
  h.invariant (P := PoolOk) (fun _ hs ↦ hs ▸ PoolOk.nil) fun _ _ _ hok hs ↦ hs.poolOk hok

/-- `createSecondaryBuffer` succeeds if there is a free slot, or a new array. -/
theorem PoolOk.isSome_createSecondaryBuffer (h : PoolOk gs) (x : α) {alloc : Option ℕ}
    (hb : ∀ b, alloc = some b → FreshBase b gs) (grow : Bool) :
    (Dsoal.createSecondaryBuffer x alloc grow gs).isSome ↔
      (∃ g ∈ gs, g.mFreeMask ≠ 0#64) ∨ alloc.isSome := by
  unfold Dsoal.createSecondaryBuffer
  cases hf : gs.findIdx? (fun g ↦ g.mFreeMask ≠ 0#64) with
  | some k =>
      obtain ⟨hk, hm, -⟩ := List.findIdx?_eq_some_iff_getElem.mp hf
      obtain ⟨i, -, hcon⟩ := h.construct_eq (List.getElem?_eq_getElem hk) (by simpa using hm) x
      have hfree : ∃ g ∈ gs, g.mFreeMask ≠ 0#64 := ⟨gs[k], List.getElem_mem hk, by simpa using hm⟩
      simp [hcon, hfree]
  | none =>
      have hfull : ¬ ∃ g ∈ gs, g.mFreeMask ≠ 0#64 := by
        rintro ⟨g, hg, hm⟩
        exact hm (by simpa using List.findIdx?_eq_none_iff.mp hf g hg)
      cases ha : alloc with
      | none => simpa using hfull
      | some b =>
          have hk : (gs ++ [(.allocated b : BufferSubList α)])[gs.length]? =
              some (.allocated b) := by
            simp
          obtain ⟨i, -, hcon⟩ :=
            (h.emplaceBack (hb b ha)).construct_eq hk (by simp [allocated]) x
          simp only [emplaceBack_eq]
          simp [hcon]

/-- **The slot allocator is correct in every reachable state.**  A mask bit is
clear exactly at the slots that hold a constructed buffer; creation succeeds
when memory can be had and returns a slot that held none; disposing of a buffer
destroys it and frees its own slot in its own group and nothing else; growing
the vector moves the groups unchanged; and the walks over the masks, the one of
the destructor included, end after at most 64 iterations a group and visit every
live buffer once. -/
theorem slot_allocator_correct (h : Reachable PoolStep (· = []) gs) :
    (∀ g ∈ gs, ∀ i : Fin 64, g.mFreeMask.getLsbD i = false ↔ (g.elem i).isSome) ∧
    (∀ x b grow, FreshBase b gs → (createSecondaryBuffer x (some b) grow gs).isSome) ∧
    (∀ x alloc grow p gs', (∀ b, alloc = some b → FreshBase b gs) →
      createSecondaryBuffer x alloc grow gs = some (p, gs') →
      lookup p gs = none ∧ lookup p gs' = some x ∧ ∀ q ≠ p, lookup q gs' = lookup q gs) ∧
    (∀ p, (lookup p gs).isSome → ∃ (k : ℕ) (g : BufferSubList α),
      gs[k]? = some g ∧ g.base = p.base ∧
      dispose p gs = gs.set k ((g.setElem p.idx none).markFree p.idx) ∧
      lookup p (dispose p gs) = none ∧ ∀ q ≠ p, lookup q (dispose p gs) = lookup q gs) ∧
    (∀ grow g, emplaceBack grow gs g = (gs ++ [g], [])) ∧
    (livePtrs gs).Nodup ∧ (∀ p, p ∈ livePtrs gs ↔ (lookup p gs).isSome) ∧
    ∀ g ∈ gs, g.destroyedSlots = g.usedSlots ∧ clearLowest^[64] (~~~g.mFreeMask) = 0#64 := by
  have hok := poolOk_of_reachable h
  refine ⟨fun g hg ↦ (hok.ok g hg).mask, fun x b grow hb ↦
    (hok.isSome_createSecondaryBuffer x (by simpa using hb) grow).mpr (.inr rfl),
    fun x alloc grow p gs' hb hc ↦ ?_, fun p hp ↦ ?_, fun grow g ↦ emplaceBack_eq grow gs g,
    hok.nodup_livePtrs, fun p ↦ hok.mem_livePtrs, fun g hg ↦
      ⟨destroyedSlots_eq (hok.ok g hg), clearLowest_iterate_eq_zero _⟩⟩
  · obtain ⟨hfree, hlook⟩ := hok.lookup_createSecondaryBuffer hb hc
    exact ⟨hfree, by simp [hlook], fun q hq ↦ by simp [hlook, hq]⟩
  · obtain ⟨k, g, hk, hbase, -⟩ := hok.isSome_lookup_iff.mp hp
    exact ⟨k, g, hk, hbase, hok.dispose_eq_set hk hbase, by simp [hok.lookup_dispose hp],
      fun q hq ↦ by simp [hok.lookup_dispose hp, hq]⟩

omit [Abi] in
set_option maxRecDepth 4000 in
/-- Two buffers in a preallocated group, the first of them disposed of. -/
theorem slot_allocator_correct_two :
    letI : Abi := ⟨⟨600, by decide⟩⟩
    ∃ gs : List (BufferSubList ℕ), Reachable PoolStep (· = []) gs ∧
      livePtrs gs = [⟨4096, 1⟩] ∧ (livePtrs gs).Nodup := by
  let _ : Abi := ⟨⟨600, by decide⟩⟩
  have hfresh : FreshAllocs [(some 4096, false)] ([] : List (BufferSubList ℕ)) :=
    ⟨⟨by decide, by simp⟩, trivial⟩
  have h0 : Reachable PoolStep (· = []) ([.allocated 4096] : List (BufferSubList ℕ)) :=
    Reachable.step (.init rfl) (PoolStep.preallocate hfresh)
  have h1 := h0.step (@PoolStep.create _ _ _ _ 7 none false _ nofun rfl)
  have h2 := h1.step (@PoolStep.create _ _ _ _ 8 none false _ nofun rfl)
  have h3 := h2.step (@PoolStep.dispose _ _ _ ⟨4096, 0⟩ rfl)
  exact ⟨_, h3, by decide +kernel, (slot_allocator_correct h3).2.2.2.2.2.1⟩

end Dsoal
