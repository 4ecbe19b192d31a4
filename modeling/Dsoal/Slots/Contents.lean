import Dsoal.Slots.Layout

/-!
# The contents of the pool

The operations on the groups, in terms of `lookup`.  Replacing one group of a
well-formed vector is the only thing any of them does once the vector is large
enough, so the file has one pair of lemmas about that (`PoolOk.set`,
`PoolOk.lookup_set`), one normal form for each operation (`dispose_eq_set`,
`modify_eq_set`, `createSecondaryBuffer_cases`) and the consequences the rest of
the development uses: what each operation does to `lookup`, and that a walk over
the masks visits the live buffers, each of them once (`mem_livePtrs`,
`nodup_livePtrs`).
-/

universe u

namespace Dsoal

open BitScan BufferSubList

variable {α : Type u} [Abi] {gs : List (BufferSubList α)} {p q : Ptr}

namespace PoolOk

/-! ## Replacing one group -/

/-- Replacing a group by a well-formed one over the same array. -/
theorem set (h : PoolOk gs) {k : ℕ} {g g' : BufferSubList α} (hk : gs[k]? = some g)
    (hg : g'.Ok) (hb : g'.base = g.base) : PoolOk (gs.set k g') := by
  obtain ⟨hk', hkg⟩ := List.getElem?_eq_some_iff.mp hk
  have hbase : ∀ i (hi : i < (gs.set k g').length) (hi' : i < gs.length),
      (gs.set k g')[i].base = gs[i].base := by
    intro i hi hi'
    rw [List.getElem_set]
    split
    · subst i
      rw [hb, hkg]
    · rfl
  refine ⟨fun g₁ hg₁ ↦ ?_, fun g₁ hg₁ ↦ ?_, ?_⟩
  · rcases List.mem_or_eq_of_mem_set hg₁ with hm | rfl
    · exact h.ok g₁ hm
    · exact hg
  · rcases List.mem_or_eq_of_mem_set hg₁ with hm | rfl
    · exact h.addressable g₁ hm
    · rw [hb]
      exact h.addressable g (List.mem_of_getElem? hk)
  · rw [List.pairwise_iff_getElem]
    intro i j hi hj hij
    rw [List.length_set] at hi hj
    rw [hbase i _ hi, hbase j _ hj]
    exact List.pairwise_iff_getElem.mp h.apart i j _ _ hij

/-- The contents after replacing a group. -/
theorem lookup_set (h : PoolOk gs) {k : ℕ} {g g' : BufferSubList α} (hk : gs[k]? = some g)
    (hg : g'.Ok) (hb : g'.base = g.base) :
    lookup q (gs.set k g') = if q.base = g.base then g'.elem q.idx else lookup q gs := by
  have h' := h.set hk hg hb
  have hk' : k < gs.length := (List.getElem?_eq_some_iff.mp hk).1
  by_cases hq : q.base = g.base
  · rw [if_pos hq]
    exact h'.lookup_eq (List.getElem?_set_self hk') (by rw [hb, hq])
  · rw [if_neg hq]
    unfold lookup
    congr 1
    -- the search passes over position `k` in both vectors
    have hne : ∀ g₁ : BufferSubList α, g₁.base = g.base → ¬ g₁.base = q.base :=
      fun g₁ h₁ hc ↦ hq (by rw [← hc, h₁])
    clear h' hk'
    induction gs generalizing k with
    | nil => simp
    | cons g₀ gs ih =>
        cases k with
        | zero =>
            obtain rfl : g₀ = g := by simpa using hk
            simp [hne g' hb, hne g₀ rfl]
        | succ k =>
            have hgs : PoolOk gs :=
              ⟨fun g hg ↦ h.ok g (List.mem_cons_of_mem _ hg),
                fun g hg ↦ h.addressable g (List.mem_cons_of_mem _ hg),
                (List.pairwise_cons.mp h.apart).2⟩
            have hk₁ : gs[k]? = some g := by simpa using hk
            simp only [List.set_cons_succ, List.find?_cons]
            split
            · rfl
            · exact ih hgs hk₁

/-- A map that touches only the group at one address replaces that group. -/
theorem map_eq_set (h : PoolOk gs) {k : ℕ} {g : BufferSubList α} (hk : gs[k]? = some g)
    (hb : g.base = p.base) (F : BufferSubList α → BufferSubList α) :
    (gs.map fun g ↦ if g.base = p.base then F g else g) = gs.set k (F g) := by
  obtain ⟨hk', hkg⟩ := List.getElem?_eq_some_iff.mp hk
  refine List.ext_getElem (by simp) fun i hi hi' ↦ ?_
  rw [List.getElem_map, List.getElem_set]
  have hi₁ : i < gs.length := by simpa using hi
  by_cases hik : k = i
  · subst hik
    simp [hkg, hb]
  · rw [if_neg hik, if_neg]
    intro hc
    exact hik (h.eq_of_base hk (List.getElem?_eq_getElem hi₁) (hb.trans hc.symm))

/-! ## Where a live buffer is -/

theorem isSome_lookup_iff (h : PoolOk gs) : (lookup p gs).isSome ↔
    ∃ (k : ℕ) (g : BufferSubList α), gs[k]? = some g ∧ g.base = p.base ∧
      (g.elem p.idx).isSome := by
  constructor
  · intro hp
    unfold lookup at hp
    cases hf : gs.find? (fun g ↦ g.base = p.base) with
    | none => simp [hf] at hp
    | some g =>
        have hb : g.base = p.base := by simpa using List.find?_some hf
        obtain ⟨k, hk⟩ := List.mem_iff_getElem?.mp (List.mem_of_find?_eq_some hf)
        exact ⟨k, g, hk, hb, by simpa [hf] using hp⟩
  · rintro ⟨k, g, hk, hb, hs⟩
    rw [h.lookup_eq hk hb]
    exact hs

/-- `dispose` finds the group a buffer lies in, and its slot. -/
theorem findGroup_eq (h : PoolOk gs) {k : ℕ} {g : BufferSubList α} (hk : gs[k]? = some g)
    (hb : g.base = p.base) : findGroup p gs = some (k, p.idx.val) := by
  have hp : Addressable p.base := hb ▸ h.addressable g (List.mem_of_getElem? hk)
  induction gs generalizing k with
  | nil => simp at hk
  | cons g₀ gs ih =>
      cases k with
      | zero =>
          obtain rfl : g₀ = g := by simpa using hk
          have hidx : ptrIndex p.addr g₀.base = p.idx := by rw [hb, ptrIndex_self]
          simp [findGroup, hidx]
      | succ k =>
          have hgs : PoolOk gs :=
            ⟨fun g hg ↦ h.ok g (List.mem_cons_of_mem _ hg),
              fun g hg ↦ h.addressable g (List.mem_cons_of_mem _ hg),
              (List.pairwise_cons.mp h.apart).2⟩
          have hk₁ : gs[k]? = some g := by simpa using hk
          have hap : Apart p.base g₀.base :=
            hb ▸ ((List.pairwise_cons.mp h.apart).1 g (List.mem_of_getElem? hk₁)).symm
          have hfar := ptrIndex_of_apart hap hp (h.addressable g₀ List.mem_cons_self)
          simp [findGroup, hfar, ih hgs hk₁]

/-! ## Normal forms of the operations -/

/-- **`dispose` destroys the buffer and frees its own slot in its own group, and
changes nothing else.** -/
theorem dispose_eq_set (h : PoolOk gs) {k : ℕ} {g : BufferSubList α} (hk : gs[k]? = some g)
    (hb : g.base = p.base) :
    dispose p gs = gs.set k ((g.setElem p.idx none).markFree p.idx) := by
  have hk' : k < gs.length := (List.getElem?_eq_some_iff.mp hk).1
  rw [dispose, h.findGroup_eq hk hb]
  simp only [destroyAt, h.map_eq_set hk hb]
  refine List.ext_getElem (by simp) fun i hi hi' ↦ ?_
  rw [List.getElem_modify, List.getElem_set, List.getElem_set]
  split <;> rfl

theorem modify_eq_set (h : PoolOk gs) {k : ℕ} {g : BufferSubList α} (hk : gs[k]? = some g)
    (hb : g.base = p.base) (f : α → α) :
    modify p f gs = gs.set k (g.setElem p.idx ((g.elem p.idx).map f)) :=
  h.map_eq_set hk hb fun g ↦ g.setElem p.idx ((g.elem p.idx).map f)

/-- Constructing in a group with a free bit fills a slot that was raw. -/
theorem construct_eq (h : PoolOk gs) {k : ℕ} {g : BufferSubList α} (hk : gs[k]? = some g)
    (hm : g.mFreeMask ≠ 0#64) (x : α) : ∃ i : Fin 64, g.elem i = none ∧
      construct k x gs = some (⟨g.base, i⟩, gs.set k ((g.setElem i (some x)).markUsed i)) := by
  have hlt := lowest_lt hm
  refine ⟨⟨lowest g.mFreeMask, hlt⟩, ?_, by simp [construct, hk, hlt]⟩
  have hmask := (h.ok g (List.mem_of_getElem? hk)).mask ⟨lowest g.mFreeMask, hlt⟩
  rw [getLsbD_lowest hm] at hmask
  simpa using hmask

/-- **What `createSecondaryBuffer` does**: in the vector as it is, or after one
group over a fresh array has been added, it fills one raw slot of one group and
clears that slot's bit. -/
theorem createSecondaryBuffer_cases (h : PoolOk gs) {x : α} {alloc : Option ℕ} {grow : Bool}
    (hb : ∀ b, alloc = some b → FreshBase b gs) {gs' : List (BufferSubList α)}
    (hc : createSecondaryBuffer x alloc grow gs = some (p, gs')) :
    ∃ (gs₀ : List (BufferSubList α)) (k : ℕ) (g : BufferSubList α) (i : Fin 64),
      (gs₀ = gs ∨ ∃ b, alloc = some b ∧ gs₀ = gs ++ [.allocated b]) ∧
      PoolOk gs₀ ∧ gs₀[k]? = some g ∧ g.elem i = none ∧ p = ⟨g.base, i⟩ ∧
      gs' = gs₀.set k ((g.setElem i (some x)).markUsed i) := by
  unfold createSecondaryBuffer at hc
  cases hf : gs.findIdx? (fun g ↦ g.mFreeMask ≠ 0#64) with
  | some k =>
      rw [hf] at hc
      obtain ⟨hk, hm, -⟩ := List.findIdx?_eq_some_iff_getElem.mp hf
      obtain ⟨i, hi, hcon⟩ := h.construct_eq (List.getElem?_eq_getElem hk) (by simpa using hm) x
      rw [show construct k x gs = some (p, gs') from hc] at hcon
      obtain ⟨rfl, rfl⟩ : p = ⟨gs[k].base, i⟩ ∧ gs' = _ := by simpa using hcon
      exact ⟨gs, k, gs[k], i, Or.inl rfl, h, List.getElem?_eq_getElem hk, hi, rfl, rfl⟩
  | none =>
      rw [hf] at hc
      cases ha : alloc with
      | none => simp [ha] at hc
      | some b =>
          simp only [ha, emplaceBack_eq] at hc
          have h₀ := h.emplaceBack (hb b ha)
          have hk : (gs ++ [(.allocated b : BufferSubList α)])[gs.length]? =
              some (.allocated b) := by
            simp
          have hm : (.allocated b : BufferSubList α).mFreeMask ≠ 0#64 := by simp [allocated]
          obtain ⟨i, hi, hcon⟩ := h₀.construct_eq hk hm x
          rw [hc, Option.some.injEq, Prod.mk.injEq] at hcon
          exact ⟨_, gs.length, .allocated b, i, Or.inr ⟨b, rfl, rfl⟩, h₀, hk, hi, hcon.1, hcon.2⟩

/-! ## The operations and the contents -/

omit [Abi] in
/-- Groups without objects are of no consequence. -/
theorem lookup_append_of_empty {extra : List (BufferSubList α)}
    (h : ∀ g ∈ extra, ∀ i, g.elem i = none) (q : Ptr) : lookup q (gs ++ extra) = lookup q gs := by
  unfold lookup
  rw [List.find?_append]
  cases hf : gs.find? (fun g ↦ g.base = q.base) with
  | some g => simp
  | none =>
      cases he : extra.find? (fun g ↦ g.base = q.base) with
      | none => simp
      | some g => simpa using h g (List.mem_of_find?_eq_some he) q.idx

omit [Abi] in
/-- Adding a group over a fresh array adds no object. -/
theorem lookup_emplaceBack (gs : List (BufferSubList α)) (b : ℕ) (q : Ptr) :
    lookup q (gs ++ [.allocated b]) = lookup q gs := by
  refine lookup_append_of_empty (fun g hg i ↦ ?_) q
  rw [List.mem_singleton.mp hg]
  rfl

theorem createSecondaryBuffer (h : PoolOk gs) {x : α} {alloc : Option ℕ} {grow : Bool}
    (hb : ∀ b, alloc = some b → FreshBase b gs) {gs' : List (BufferSubList α)}
    (hc : createSecondaryBuffer x alloc grow gs = some (p, gs')) : PoolOk gs' := by
  obtain ⟨gs₀, k, g, i, -, h₀, hk, -, -, rfl⟩ := h.createSecondaryBuffer_cases hb hc
  exact h₀.set hk ((h₀.ok g (List.mem_of_getElem? hk)).fill i x) (by simp)

/-- **A created buffer gets a slot that held none**, and no other slot
changes. -/
theorem lookup_createSecondaryBuffer (h : PoolOk gs) {x : α} {alloc : Option ℕ} {grow : Bool}
    (hb : ∀ b, alloc = some b → FreshBase b gs) {gs' : List (BufferSubList α)}
    (hc : Dsoal.createSecondaryBuffer x alloc grow gs = some (p, gs')) :
    lookup p gs = none ∧
      ∀ q, lookup q gs' = if q = p then some x else lookup q gs := by
  obtain ⟨gs₀, k, g, i, hgs, h₀, hk, hi, rfl, rfl⟩ := h.createSecondaryBuffer_cases hb hc
  have hsame : ∀ q, lookup q gs₀ = lookup q gs := by
    rcases hgs with rfl | ⟨b, -, rfl⟩
    · exact fun q ↦ rfl
    · exact lookup_emplaceBack gs b
  have hg : g.Ok := h₀.ok g (List.mem_of_getElem? hk)
  refine ⟨by rw [← hsame, h₀.lookup_eq hk rfl, hi], fun q ↦ ?_⟩
  rw [h₀.lookup_set hk (hg.fill i x) (by simp), elem_markUsed, elem_setElem hg.backed, hsame]
  by_cases hq : q.base = g.base
  · by_cases hqi : q.idx = i
    · have hqp : q = ⟨g.base, i⟩ := by cases q; simp_all
      simp [hqp]
    · have hqp : q ≠ ⟨g.base, i⟩ := fun hc ↦ hqi (by rw [hc])
      rw [if_pos hq, if_neg hqi, if_neg hqp, ← hsame, h₀.lookup_eq hk hq.symm]
  · have hqp : q ≠ ⟨g.base, i⟩ := fun hc ↦ hq (by rw [hc])
    rw [if_neg hq, if_neg hqp]

theorem dispose (h : PoolOk gs) (hp : (lookup p gs).isSome) : PoolOk (dispose p gs) := by
  obtain ⟨k, g, hk, hb, -⟩ := h.isSome_lookup_iff.mp hp
  rw [h.dispose_eq_set hk hb]
  exact h.set hk ((h.ok g (List.mem_of_getElem? hk)).empty p.idx) (by simp)

/-- **A disposed buffer is gone**, and no other slot changes. -/
theorem lookup_dispose (h : PoolOk gs) (hp : (lookup p gs).isSome) (q : Ptr) :
    lookup q (Dsoal.dispose p gs) = if q = p then none else lookup q gs := by
  obtain ⟨k, g, hk, hb, -⟩ := h.isSome_lookup_iff.mp hp
  have hg : g.Ok := h.ok g (List.mem_of_getElem? hk)
  rw [h.dispose_eq_set hk hb, h.lookup_set hk (hg.empty p.idx) (by simp), elem_markFree,
    elem_setElem hg.backed]
  by_cases hq : q.base = g.base
  · by_cases hqi : q.idx = p.idx
    · have hqp : q = p := by cases q; cases p; simp_all
      simp [hqp, hb]
    · have hqp : q ≠ p := fun hc ↦ hqi (by rw [hc])
      rw [if_pos hq, if_neg hqi, if_neg hqp, h.lookup_eq hk hq.symm]
  · have hqp : q ≠ p := fun hc ↦ hq (by rw [hc, hb])
    rw [if_neg hq, if_neg hqp]

omit [Abi] in
/-- Nothing is at a pointer into no group. -/
theorem modify_eq_self (hp : ∀ g ∈ gs, g.base ≠ p.base) (f : α → α) : modify p f gs = gs := by
  conv_rhs => rw [← List.map_id gs]
  exact List.map_congr_left fun g hg ↦ if_neg (hp g hg)

theorem modify (h : PoolOk gs) (p : Ptr) (f : α → α) : PoolOk (modify p f gs) := by
  by_cases hp : ∃ g ∈ gs, g.base = p.base
  · obtain ⟨g, hg, hb⟩ := hp
    obtain ⟨k, hk⟩ := List.mem_iff_getElem?.mp hg
    rw [h.modify_eq_set hk hb]
    exact h.set hk ((h.ok g hg).update p.idx f) (by simp)
  · rw [modify_eq_self (by simpa using hp)]
    exact h

/-- Writing through a pointer changes the object it points to and no other. -/
theorem lookup_modify (h : PoolOk gs) (p : Ptr) (f : α → α) (q : Ptr) :
    lookup q (Dsoal.modify p f gs) = if q = p then (lookup p gs).map f else lookup q gs := by
  by_cases hp : ∃ g ∈ gs, g.base = p.base
  · obtain ⟨g, hg, hb⟩ := hp
    obtain ⟨k, hk⟩ := List.mem_iff_getElem?.mp hg
    rw [h.modify_eq_set hk hb, h.lookup_set hk ((h.ok g hg).update p.idx f) (by simp),
      elem_setElem (h.ok g hg).backed]
    by_cases hq : q.base = g.base
    · by_cases hqi : q.idx = p.idx
      · have hqp : q = p := by cases q; cases p; simp_all
        simp [hqp, hb, h.lookup_eq hk hb]
      · have hqp : q ≠ p := fun hc ↦ hqi (by rw [hc])
        rw [if_pos hq, if_neg hqi, if_neg hqp, h.lookup_eq hk hq.symm]
    · have hqp : q ≠ p := fun hc ↦ hq (by rw [hc, hb])
      rw [if_neg hq, if_neg hqp]
  · have hp' : ∀ g ∈ gs, g.base ≠ p.base := by simpa using hp
    rw [modify_eq_self hp']
    by_cases hq : q = p
    · subst hq
      have hnone : gs.find? (fun g ↦ g.base = q.base) = none := by simpa using hp'
      simp [lookup, hnone]
    · rw [if_neg hq]

omit [Abi] in
@[simp] theorem modify_id (p : Ptr) (gs : List (BufferSubList α)) : Dsoal.modify p id gs = gs := by
  conv_rhs => rw [← List.map_id gs]
  exact List.map_congr_left fun g _ ↦ by simp

/-- **A buffer that is disposed of right after its creation** leaves the groups as they
were, and a new group empty. -/
theorem dispose_createSecondaryBuffer (h : PoolOk gs) {x : α} {alloc : Option ℕ} {grow : Bool}
    (hb : ∀ b, alloc = some b → FreshBase b gs) {gs' : List (BufferSubList α)}
    (hc : Dsoal.createSecondaryBuffer x alloc grow gs = some (p, gs')) (f : α → α) :
    ∃ extra, Dsoal.dispose p (Dsoal.modify p f gs') = gs ++ extra ∧ PoolOk (gs ++ extra) ∧
      ∀ g ∈ extra, g.mFreeMask = ~~~0#64 ∧ ∀ i, g.elem i = none := by
  have hpool' := h.createSecondaryBuffer hb hc
  have hpool'' := hpool'.modify p f
  obtain ⟨gs₀, k, g, i, hgs, h₀, hk, hi, rfl, rfl⟩ := h.createSecondaryBuffer_cases hb hc
  obtain ⟨hlt, -⟩ := List.getElem?_eq_some_iff.mp hk
  have hmod := hpool'.modify_eq_set (p := ⟨g.base, i⟩)
    (List.getElem?_set_self (by simpa using hlt)) (by simp) f
  rw [hmod] at hpool'' ⊢
  rw [hpool''.dispose_eq_set (List.getElem?_set_self (by simpa using hlt)) (by simp)]
  simp only [List.set_set]
  rw [(h₀.ok g (List.mem_of_getElem? hk)).empty_fill hi]
  have hself : gs₀.set k g = gs₀ := by
    obtain ⟨hlt, rfl⟩ := List.getElem?_eq_some_iff.mp hk
    exact List.set_getElem_self hlt
  rw [hself]
  rcases hgs with rfl | ⟨b, -, rfl⟩
  · exact ⟨[], (List.append_nil _).symm, by rwa [List.append_nil], nofun⟩
  · refine ⟨[.allocated b], rfl, h₀, fun g' hg' ↦ ?_⟩
    rw [List.mem_singleton.mp hg']
    exact ⟨rfl, fun _ ↦ rfl⟩

/-! ## Walks -/

/-- **A walk over the masks visits exactly the live buffers.** -/
theorem mem_livePtrs (h : PoolOk gs) : p ∈ livePtrs gs ↔ (lookup p gs).isSome := by
  rw [h.isSome_lookup_iff, livePtrs, List.mem_flatMap]
  constructor
  · rintro ⟨g, hg, hp⟩
    obtain ⟨i, hi, rfl⟩ := List.mem_map.mp hp
    obtain ⟨k, hk⟩ := List.mem_iff_getElem?.mp hg
    exact ⟨k, g, hk, rfl, (mem_usedSlots (h.ok g hg)).mp hi⟩
  · rintro ⟨k, g, hk, hb, hs⟩
    have hg := List.mem_of_getElem? hk
    exact ⟨g, hg, List.mem_map.mpr ⟨p.idx, (mem_usedSlots (h.ok g hg)).mpr hs, by rw [hb]⟩⟩

/-- **A walk over the masks visits no buffer twice.** -/
theorem nodup_livePtrs (h : PoolOk gs) : (livePtrs gs).Nodup := by
  unfold livePtrs
  rw [List.nodup_flatMap]
  refine ⟨fun g _ ↦ nodup_usedSlots.map fun i j hij ↦ by simpa using hij, ?_⟩
  refine h.apart.imp fun {g g'} hap ↦ ?_
  intro r hr hr'
  obtain ⟨i, -, rfl⟩ := List.mem_map.mp hr
  obtain ⟨j, -, hj⟩ := List.mem_map.mp hr'
  exact hap.ne (congrArg Ptr.base hj).symm

end PoolOk

end Dsoal
