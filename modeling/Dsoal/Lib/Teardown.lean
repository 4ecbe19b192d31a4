import Mathlib.Data.List.Basic
import Mathlib.Data.List.Nodup

/-!
# Destroying an object member by member

An object is destroyed one member after another.  The destruction of a member is a
list of events, with a mark at its end, and an event may work with other members of
the same object, which have to be there still.  `outlives_destroyAll` reduces that to
the order of the members: no member is destroyed before one whose destruction needs it.

The events that belong to the objects in a list without repetitions can be counted one
object at a time (`count_flatMap_of_owner`).
-/

universe u v w

namespace Teardown

variable {M : Type u} {E : Type v} {O : Type w}

/-- The member `m` is not used any more once its destruction has ended. -/
def Outlives (needs : E → List M) (ends : E → Option M) (m : M) (l : List E) : Prop :=
  l.Pairwise fun e e' ↦ ends e = some m → m ∉ needs e'

/-- The members `ds` are destroyed in this order. -/
def destroyAll (body : M → List E) (mark : M → E) (ds : List M) : List E :=
  ds.flatMap fun d ↦ body d ++ [mark d]

section Outlives

variable {needs : E → List M} {ends : E → Option M} {body : M → List E} {mark : M → E}
  {m : M} {ds : List M} {l l' : List E}

/-- Events that end no destruction may come first. -/
theorem outlives_append_left (hl : ∀ e ∈ l, ends e ≠ some m) :
    Outlives needs ends m (l ++ l') ↔ Outlives needs ends m l' := by
  unfold Outlives
  rw [List.pairwise_append]
  constructor
  · rintro ⟨-, h, -⟩
    exact h
  · intro h
    refine ⟨?_, h, fun e he _ _ hend ↦ absurd hend (hl e he)⟩
    exact List.pairwise_of_forall_mem_list fun e he _ _ hend ↦ absurd hend (hl e he)

/-- What the destruction of the members in `ds` needs is what their bodies need. -/
theorem needs_destroyAll (hneeds : ∀ d, m ∉ needs (mark d)) :
    (∀ e ∈ destroyAll body mark ds, m ∉ needs e) ↔ ∀ d ∈ ds, ∀ e ∈ body d, m ∉ needs e := by
  unfold destroyAll
  constructor
  · intro h d hd e he
    exact h e (List.mem_flatMap.mpr ⟨d, hd, List.mem_append_left _ he⟩)
  · intro h e he
    obtain ⟨d, hd, he⟩ := List.mem_flatMap.mp he
    rcases List.mem_append.mp he with he | he
    · exact h d hd e he
    · rw [List.mem_singleton.mp he]
      exact hneeds d

/-- **A member outlives its uses** exactly if no member is destroyed later that needs it. -/
theorem outlives_destroyAll (hends : ∀ d, ends (mark d) = some d)
    (hneeds : ∀ d, m ∉ needs (mark d)) (hbody : ∀ d, ∀ e ∈ body d, ends e ≠ some m) :
    Outlives needs ends m (destroyAll body mark ds) ↔
      ds.Pairwise fun d d' ↦ d = m → ∀ e ∈ body d', m ∉ needs e := by
  induction ds with
  | nil => exact iff_of_true List.Pairwise.nil List.Pairwise.nil
  | cons d ds ih =>
      have hsplit : destroyAll body mark (d :: ds)
          = body d ++ mark d :: destroyAll body mark ds := by
        simp [destroyAll]
      rw [hsplit, outlives_append_left (hbody d), List.pairwise_cons, ← ih]
      unfold Outlives
      rw [List.pairwise_cons]
      refine and_congr_left fun _ ↦ ?_
      rw [hends]
      constructor
      · rintro h d' hd' rfl
        exact (needs_destroyAll hneeds).mp (fun e he ↦ h e he rfl) d' hd'
      · rintro h e he hdm
        have hdm : d = m := Option.some.inj hdm
        exact (needs_destroyAll hneeds).mpr (fun d' hd' ↦ h d' hd' hdm) e he

end Outlives

section Count

variable [DecidableEq E] [DecidableEq O] {owner : E → Option O} {f : O → List E} {l : List O}
  {e : E} {x : O}

omit [DecidableEq O] in
/-- An event does not occur among those of another object. -/
theorem count_eq_zero_of_owner {k : List E} {y : O} (howner : ∀ e ∈ k, owner e = some y)
    (he : owner e = some x) (hxy : x ≠ y) : k.count e = 0 := by
  refine List.count_eq_zero.mpr fun hmem ↦ hxy ?_
  exact Option.some.inj (he.symm.trans (howner e hmem))

/-- **Counting the events of one object** among those of all of them. -/
theorem count_flatMap_of_owner (hl : l.Nodup) (howner : ∀ x, ∀ e ∈ f x, owner e = some x)
    (he : owner e = some x) : (l.flatMap f).count e = if x ∈ l then (f x).count e else 0 := by
  induction l with
  | nil => rfl
  | cons y l ih =>
      obtain ⟨hy, hl⟩ := List.nodup_cons.mp hl
      rw [List.flatMap_cons, List.count_append, ih hl]
      by_cases hxy : x = y
      · subst hxy
        simp [hy]
      · rw [count_eq_zero_of_owner (howner y) he hxy]
        simp [hxy]

end Count

end Teardown
