import Mathlib.Data.List.Nodup
import Mathlib.Logic.Function.Basic

/-!
# A census

Objects come into being at addresses and cease to be, and an address can be used
again.  Numbering the objects in the order of their birth tells them apart.  A
`Census` says which number lives where, how many were born and which have died;
`Census.Ok` that every number born is alive at one address or died once, and not
both.
-/

universe u

/-- Which objects are alive and which have died. -/
structure Census (α : Type u) where
  /-- The number of the object at an address. -/
  alive : α → Option ℕ
  /-- How many objects were born. -/
  born : ℕ
  /-- The numbers of those that died. -/
  dead : List ℕ

namespace Census

variable {α : Type u} [DecidableEq α] {c : Census α} {a b : α} {n : ℕ}

/-- A new object at `a`. -/
def birth (c : Census α) (a : α) : Census α :=
  { c with alive := Function.update c.alive a (some c.born), born := c.born + 1 }

/-- The object number `n` at `a` dies. -/
def death (c : Census α) (a : α) (n : ℕ) : Census α :=
  { c with alive := Function.update c.alive a none, dead := c.dead ++ [n] }

/-- Every object that was born is alive at one address or died once. -/
structure Ok (c : Census α) : Prop where
  injective : ∀ {a b n}, c.alive a = some n → c.alive b = some n → a = b
  accounted : ∀ {n}, n < c.born ↔ n ∈ c.dead ∨ ∃ a, c.alive a = some n
  exclusive : ∀ {a n}, n ∈ c.dead → c.alive a ≠ some n
  once : c.dead.Nodup

namespace Ok

omit [DecidableEq α] in
/-- Nobody was born yet. -/
theorem empty : (⟨fun _ ↦ none, 0, []⟩ : Census α).Ok where
  injective := nofun
  accounted := by simp
  exclusive := nofun
  once := .nil

omit [DecidableEq α] in
theorem lt_born (h : c.Ok) (ha : c.alive a = some n) : n < c.born :=
  h.accounted.mpr (.inr ⟨a, ha⟩)

omit [DecidableEq α] in
theorem dead_lt_born (h : c.Ok) (hn : n ∈ c.dead) : n < c.born := h.accounted.mpr (.inl hn)

omit [DecidableEq α] in
/-- The living are those born that have not died. -/
theorem alive_iff (h : c.Ok) (hn : n < c.born) : n ∉ c.dead ↔ ∃ a, c.alive a = some n := by
  constructor
  · intro hd
    exact (h.accounted.mp hn).resolve_left hd
  · rintro ⟨a, ha⟩ hd
    exact h.exclusive hd ha

/-- A birth at a free address. -/
theorem birth (h : c.Ok) (ha : c.alive a = none) : (c.birth a).Ok where
  injective {b b' n} hb hb' := by
    simp only [Census.birth, Function.update_apply] at hb hb'
    split at hb <;> split at hb'
    · simp [*]
    · exact absurd (h.lt_born hb') (by simp_all)
    · exact absurd (h.lt_born hb) (by simp_all)
    · exact h.injective hb hb'
  accounted {n} := by
    simp only [Census.birth, Nat.lt_succ_iff_lt_or_eq, h.accounted, or_assoc]
    refine or_congr_right ⟨?_, ?_⟩
    · rintro (⟨b, hb⟩ | rfl)
      · refine ⟨b, ?_⟩
        rw [Function.update_of_ne (by rintro rfl; simp_all), hb]
      · exact ⟨a, Function.update_self ..⟩
    · rintro ⟨b, hb⟩
      rw [Function.update_apply] at hb
      split at hb
      · exact .inr (Option.some.inj hb).symm
      · exact .inl ⟨b, hb⟩
  exclusive {b n} hn hb := by
    simp only [Census.birth, Function.update_apply] at hb
    split at hb
    · exact absurd (h.dead_lt_born hn) (by simp_all)
    · exact h.exclusive hn hb
  once := h.once

/-- The death of a living object. -/
theorem death (h : c.Ok) (ha : c.alive a = some n) : (c.death a n).Ok where
  injective {b b' m} hb hb' := by
    simp only [Census.death, Function.update_apply] at hb hb'
    split at hb
    · cases hb
    · split at hb'
      · cases hb'
      · exact h.injective hb hb'
  accounted {m} := by
    simp only [Census.death, h.accounted, List.mem_append, List.mem_singleton, or_assoc]
    refine or_congr_right ⟨?_, ?_⟩
    · rintro ⟨b, hb⟩
      by_cases hba : b = a
      · subst hba
        exact .inl (Option.some.inj (hb.symm.trans ha))
      · exact .inr ⟨b, by rw [Function.update_of_ne hba, hb]⟩
    · rintro (rfl | ⟨b, hb⟩)
      · exact ⟨a, ha⟩
      · rw [Function.update_apply] at hb
        split at hb
        · cases hb
        · exact ⟨b, hb⟩
  exclusive {b m} hm hb := by
    simp only [Census.death, Function.update_apply] at hm hb
    split at hb
    · cases hb
    · rename_i hba
      rcases List.mem_append.mp hm with hm | hm
      · exact h.exclusive hm hb
      · exact hba (h.injective (List.mem_singleton.mp hm ▸ hb) ha)
  once := by
    refine List.nodup_append.mpr ⟨h.once, List.nodup_singleton _, ?_⟩
    rintro m hm _ hn rfl
    exact h.exclusive (List.mem_singleton.mp hn ▸ hm) ha

end Ok

end Census
