import Mathlib.Data.List.Infix

/-!
# Visits that may be stopped

A callback is called for the elements of a list, one after the other, and given a state that it
may change.  The visit ends after the first call that returns `false`.

`Cut as calls` is what can be seen of it: the calls, with what they returned, are those for the
elements of `as` up to the first that returned `false`.  `visit_recorded` says that it holds of
every visit.
-/

universe u v w

namespace Visit

variable {σ : Type u} {α : Type v} {β : Type w}

/-- Call `cb` for the elements of a list, until it returns `false`.  The result says whether it
never did. -/
def visit (cb : σ → α → Option (Bool × σ)) : σ → List α → Option (Bool × σ)
  | s, [] => some (true, s)
  | s, a :: as => do
    let (keepGoing, s) ← cb s a
    if keepGoing then visit cb s as else some (false, s)

/-- A callback that always returns. -/
abbrev total (cb : σ → α → Bool × σ) : σ → α → Option (Bool × σ) := fun s a ↦ some (cb s a)

/-- Keep a record of the calls and of what they returned. -/
def recorded (cb : σ → α → Bool × σ) (s : List (α × Bool) × σ) (a : α) :
    Bool × List (α × Bool) × σ :=
  let (keepGoing, t) := cb s.2 a
  (keepGoing, s.1 ++ [(a, keepGoing)], t)

/-- The calls are those for `as` up to the first that returned `false`. -/
structure Cut (as : List α) (calls : List (α × Bool)) : Prop where
  inOrder : calls.map Prod.fst <+: as
  onlyLastStops : ∀ c ∈ calls.dropLast, c.2 = true
  complete : (∀ c ∈ calls, c.2 = true) → calls.map Prod.fst = as

variable {cb : σ → α → Option (Bool × σ)} {s : σ} {a : α}
  {as bs : List α} {calls : List (α × Bool)}

/-! ## Visits of two lists -/

/-- Go on with the elements of a list, unless the visit has been stopped. -/
def resume (cb : σ → α → Option (Bool × σ)) (r : Bool × σ) (as : List α) : Option (Bool × σ) :=
  if r.1 then visit cb r.2 as else some r

theorem visit_cons : visit cb s (a :: as) = (cb s a).bind fun r ↦ resume cb r as := by
  rw [visit]
  cases cb s a with
  | none => rfl
  | some r => obtain ⟨_ | _, t⟩ := r <;> rfl

@[simp] theorem resume_nil (r : Bool × σ) : resume cb r [] = some r := by
  obtain ⟨_ | _, t⟩ := r <;> rfl

@[simp] theorem resume_false (s : σ) : resume cb (false, s) as = some (false, s) := rfl

@[simp] theorem resume_true : resume cb (true, s) as = visit cb s as := rfl

/-- Only the calls for the elements of the list matter. -/
theorem visit_congr {cb' : σ → α → Option (Bool × σ)} (h : ∀ a ∈ as, ∀ s, cb s a = cb' s a) :
    visit cb s as = visit cb' s as := by
  induction as generalizing s with
  | nil => rfl
  | cons a as ih =>
      rw [visit_cons, visit_cons, h a List.mem_cons_self s]
      refine Option.bind_congr fun r _ ↦ ?_
      cases hgo : r.1 with
      | false => simp [resume, hgo]
      | true => simp [resume, hgo, ih fun b hb ↦ h b (List.mem_cons_of_mem a hb)]

/-- A callback that converts the elements visits what they are converted to. -/
theorem visit_map {β : Type w} (f : β → α) (bs : List β) :
    visit (fun s b ↦ cb s (f b)) s bs = visit cb s (bs.map f) := by
  induction bs generalizing s with
  | nil => rfl
  | cons b bs ih =>
      rw [List.map_cons, visit_cons, visit_cons]
      refine Option.bind_congr fun r _ ↦ ?_
      cases hgo : r.1 with
      | false => simp [resume, hgo]
      | true => simp [resume, hgo, ih]

theorem visit_append :
    visit cb s (as ++ bs) = (visit cb s as).bind fun r ↦ resume cb r bs := by
  induction as generalizing s with
  | nil => rfl
  | cons a as ih =>
      rw [List.cons_append, visit_cons, visit_cons]
      cases cb s a with
      | none => rfl
      | some r =>
          obtain ⟨_ | _, t⟩ := r
          · rfl
          · exact ih

theorem resume_append (r : Bool × σ) :
    resume cb r (as ++ bs) = (resume cb r as).bind fun r ↦ resume cb r bs := by
  obtain ⟨_ | _, t⟩ := r
  · rfl
  · exact visit_append

/-! ## What is recorded of a visit -/

namespace Cut

theorem nil : Cut ([] : List α) [] := ⟨List.prefix_rfl, nofun, fun _ ↦ rfl⟩

theorem stop (a : α) (as : List α) : Cut (a :: as) [(a, false)] where
  inOrder := ⟨as, rfl⟩
  onlyLastStops := nofun
  complete h := absurd (h _ List.mem_cons_self) Bool.false_ne_true

theorem cons (h : Cut as calls) (a : α) : Cut (a :: as) ((a, true) :: calls) where
  inOrder := by
    obtain ⟨bs, hbs⟩ := h.inOrder
    exact ⟨bs, congrArg (a :: ·) hbs⟩
  onlyLastStops := by
    cases calls with
    | nil => exact nofun
    | cons c calls =>
        rintro d (_ | ⟨_, hd⟩)
        · rfl
        · exact h.onlyLastStops d hd
  complete hall := congrArg (a :: ·) (h.complete fun c hc ↦ hall c (List.mem_cons_of_mem _ hc))

theorem extend (h : Cut as calls) (hstop : ∃ c ∈ calls, c.2 = false) (bs : List α) :
    Cut (as ++ bs) calls where
  inOrder := h.inOrder.trans (List.prefix_append as bs)
  onlyLastStops := h.onlyLastStops
  complete hall := by
    obtain ⟨c, hc, hfalse⟩ := hstop
    exact absurd (hall c hc) (by rw [hfalse]; exact Bool.false_ne_true)

theorem append {calls' : List (α × Bool)} (h : Cut as calls) (hgo : ∀ c ∈ calls, c.2 = true)
    (h' : Cut bs calls') : Cut (as ++ bs) (calls ++ calls') where
  inOrder := by
    rw [List.map_append, h.complete hgo]
    exact (List.prefix_append_right_inj as).mpr h'.inOrder
  onlyLastStops := by
    cases calls' with
    | nil =>
        rw [List.append_nil]
        exact h.onlyLastStops
    | cons c calls' =>
        rw [List.dropLast_append_of_ne_nil (List.cons_ne_nil c calls')]
        exact List.forall_mem_append.mpr ⟨hgo, h'.onlyLastStops⟩
  complete hall := by
    rw [List.map_append, h.complete hgo,
      h'.complete fun c hc ↦ hall c (List.mem_append_right _ hc)]

theorem head_mem (h : Cut (a :: as) calls) : ∃ keepGoing, (a, keepGoing) ∈ calls := by
  obtain ⟨bs, hbs⟩ := h.inOrder
  cases calls with
  | nil => exact absurd (h.complete nofun) (List.cons_ne_nil _ _).symm
  | cons c calls =>
      obtain ⟨rfl, -⟩ := List.cons_eq_cons.mp hbs
      exact ⟨c.2, List.mem_cons_self⟩

theorem mem (h : Cut as calls) {c : α × Bool} (hc : c ∈ calls) : c.1 ∈ as :=
  h.inOrder.subset (List.mem_map_of_mem hc)

end Cut

/-- **The record of a visit.**  It returns `false` if and only if one of the calls did. -/
theorem visit_recorded (cb : σ → α → Bool × σ) (s : σ) (as : List α) (log : List (α × Bool)) :
    ∃ keepGoing calls t,
      visit (total (recorded cb)) (log, s) as = some (keepGoing, log ++ calls, t) ∧
      visit (total cb) s as = some (keepGoing, t) ∧
      Cut as calls ∧ (keepGoing = false ↔ ∃ c ∈ calls, c.2 = false) := by
  induction as generalizing s log with
  | nil => exact ⟨true, [], s, by rw [List.append_nil, visit], rfl, .nil, by simp⟩
  | cons a as ih =>
      rcases hcb : cb s a with ⟨_ | _, t⟩
      · refine ⟨false, [(a, false)], t, ?_, ?_, .stop a as, by simp⟩
        · simp [visit, recorded, hcb]
        · simp [visit, hcb]
      · obtain ⟨keepGoing, calls, u, hrec, hvisit, hcut, hiff⟩ := ih t (log ++ [(a, true)])
        refine ⟨keepGoing, (a, true) :: calls, u, ?_, ?_, hcut.cons a, ?_⟩
        · simp [visit, recorded, hcb, hrec]
        · simp [visit, hcb, hvisit]
        · simp [hiff]

section

variable {cb : σ → α → Bool × σ} {keepGoing : Bool} {t u : σ}

/-- If a visit is stopped, then so is one of more elements, by the same calls. -/
theorem cut_of_visit_false (hvisit : visit (total cb) s as = some (false, t))
    (hrec : visit (total (recorded cb)) ([], s) (as ++ bs) = some (keepGoing, calls, u)) :
    Cut as calls ∧ ∃ c ∈ calls, c.2 = false := by
  obtain ⟨b, calls', t', hrec', hvisit', hcut, hiff⟩ := visit_recorded cb s as []
  obtain ⟨rfl, -⟩ : b = false ∧ t' = t := by simpa [hvisit] using hvisit'.symm
  rw [visit_append, hrec', Option.bind_some, resume_false] at hrec
  obtain ⟨-, rfl, -⟩ : _ ∧ calls' = calls ∧ _ := by simpa using hrec
  exact ⟨hcut, hiff.mp rfl⟩

/-- If a visit is not stopped, then a call follows for the next element. -/
theorem mem_of_visit_true (hvisit : visit (total cb) s as = some (true, t))
    (hrec : visit (total (recorded cb)) ([], s) (as ++ a :: bs) = some (keepGoing, calls, u)) :
    ∃ b, (a, b) ∈ calls := by
  obtain ⟨b, before, t', hrec', hvisit', -, -⟩ := visit_recorded cb s as []
  obtain ⟨rfl, -⟩ : b = true ∧ t' = t := by simpa [hvisit] using hvisit'.symm
  rw [visit_append, hrec', Option.bind_some, resume_true] at hrec
  obtain ⟨b, after, u', hafter, -, hcut, -⟩ := visit_recorded cb t' (a :: bs) ([] ++ before)
  rw [hafter] at hrec
  obtain ⟨-, rfl, -⟩ : _ ∧ before ++ after = calls ∧ _ := by simpa using hrec
  obtain ⟨b, hb⟩ := hcut.head_mem
  exact ⟨b, List.mem_append_right _ hb⟩

end

end Visit
