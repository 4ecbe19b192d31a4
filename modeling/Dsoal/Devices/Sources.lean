import Dsoal.Core.SourcePool
import Dsoal.Lib.Tally
import Dsoal.Lib.Transition

/-!
# The source pools across interleavings

A buffer's `mLocStatus` lags behind the slot it really has: between the atomic
operation on the counter and the assignment that follows it, the buffer has a
slot more or less than it says (`slot`).  The counters are the tally of the slots,
not of the locations, and the two agree while nobody is in between.
-/

universe u

namespace Dsoal

open TransitionSystem

variable {δ : Type u} [DecidableEq δ] {s s' : SourcePool δ} {op : PoolTask δ} {o : δ} {b : ℕ}
  {k : Pool} {p : Task} {want : LocStatus}

/-- The slot a buffer has, when its object is in the middle of a task and its
location is `l`. -/
def Task.slot (b : ℕ) (l : LocStatus) : Task → LocStatus
  | clear c _ | destroyed c => if b = c then .none else l
  | store c k => if b = c then .loc k else l
  | _ => l

/-- The buffer a task is getting a slot for. -/
def Task.acquires : Task → Option ℕ
  | load b _ _ | loop b _ _ _ | store b _ => some b
  | _ => none

/-- One for a slot of the pool `k`. -/
def Pool.weight (k : Pool) (l : LocStatus) : ℕ := if l = .loc k then 1 else 0

@[simp] theorem Pool.weight_none : k.weight .none = 0 := rfl

@[simp] theorem Pool.weight_loc (k' : Pool) : k.weight (.loc k') = if k' = k then 1 else 0 := by
  simp [weight]

namespace SourcePool

/-- The slots the buffers have. -/
def slot (s : SourcePool δ) (x : δ × ℕ) : LocStatus := (s.task x.1).slot x.2 (s.mLocStatus x)

/-- How many slots of a pool are taken. -/
def taken (s : SourcePool δ) (k : Pool) : ℕ := ∑ x ∈ s.live, k.weight (s.slot x)

/-- The counters are the tally of the slots and within bounds, and a task is about a
live buffer, which has no location while it is getting one. -/
structure Ok (s : SourcePool δ) : Prop where
  count : ∀ k, (s.mCurrentSources k).toNat = s.taken k
  le_max : ∀ k, s.mCurrentSources k ≤ s.mMaxSources k
  live : ∀ o b, (s.task o).buffer = some b → (o, b) ∈ s.live
  unset : ∀ o b, (s.task o).acquires = some b → s.mLocStatus (o, b) = .none

omit [DecidableEq δ] in
theorem ok_new (max : Pool → UInt32) : (new max : SourcePool δ).Ok where
  count _ := rfl
  le_max _ := UInt32.zero_le
  live := nofun
  unset := nofun

@[simp] theorem mLocStatus_locate_self (l : LocStatus) :
    (s.locate o b l).mLocStatus (o, b) = l := Function.update_self ..

theorem mLocStatus_locate_of_ne (l : LocStatus) {x : δ × ℕ} (hx : x ≠ (o, b)) :
    (s.locate o b l).mLocStatus x = s.mLocStatus x := Function.update_of_ne hx ..

/-! ## What a task says about slots -/

omit [DecidableEq δ] in
theorem slot_of_idle (h : s.task o = .idle) : s.slot (o, b) = s.mLocStatus (o, b) := by
  rw [slot, h]
  rfl

end SourcePool

namespace Task

variable {c : ℕ} {l : LocStatus}

@[simp] theorem slot_acquire : (acquire b want).slot c l = l := by
  unfold acquire
  split <;> rfl

@[simp] theorem slot_setLocation (m : LocStatus) : (setLocation b m want).slot c l = l := by
  unfold setLocation
  split_ifs <;> first | rfl | exact slot_acquire

@[simp] theorem slot_full : (full b want k).slot c l = l := by
  unfold full
  split
  · split <;> rfl
  · rfl

theorem eq_of_buffer_acquire (h : (acquire b want).buffer = some c) : c = b := by
  unfold acquire at h
  split at h <;> exact (Option.some.inj h).symm

theorem eq_of_buffer_setLocation {m : LocStatus} (h : (setLocation b m want).buffer = some c) :
    c = b := by
  unfold setLocation at h
  split_ifs at h
  · cases h
  · cases h
  · exact (Option.some.inj h).symm
  · exact eq_of_buffer_acquire h

theorem eq_of_buffer_full (h : (full b want k).buffer = some c) : c = b := by
  unfold full at h
  split at h
  · split at h
    · exact (Option.some.inj h).symm
    · cases h
  · cases h

/-- Only a buffer that is not located goes on to get a slot at once. -/
theorem eq_none_of_acquires_setLocation {m : LocStatus}
    (h : (setLocation b m want).acquires = some c) : m = .none := by
  unfold setLocation at h
  split_ifs at h with h₁ h₂ h₃
  · cases h
  · cases h
  · cases h
  · exact not_not.mp h₃

theorem buffer_of_acquires {p : Task} (h : p.acquires = some c) : p.buffer = some c := by
  cases p <;> first | exact h | cases h

end Task

namespace SourcePool

/-! ## What an operation does to the tally -/

/-- One object changes the slot of one buffer. -/
theorem slot_eq_update (hloc : ∀ x, x ≠ (o, b) → s'.mLocStatus x = s.mLocStatus x)
    (htask : s'.task = Function.update s.task o p)
    (hother : ∀ c l, c ≠ b → p.slot c l = (s.task o).slot c l) :
    s'.slot = Function.update s.slot (o, b) (p.slot b (s'.mLocStatus (o, b))) := by
  funext ⟨o', c⟩
  by_cases ho : o' = o
  · subst ho
    by_cases hc : c = b
    · subst hc
      rw [Function.update_self, slot, htask, Function.update_self]
    · have hne : (o', c) ≠ (o', b) := fun h ↦ hc (congrArg Prod.snd h)
      rw [Function.update_of_ne hne, slot, htask, Function.update_self, hloc _ hne, hother c _ hc]
      rfl
  · have hne : (o', c) ≠ (o, b) := fun h ↦ ho (congrArg Prod.fst h)
    rw [Function.update_of_ne hne, slot, htask, Function.update_of_ne ho, hloc _ hne]
    rfl

/-- **The rule for the operations of a task**: the counters have to move with the
slot of the buffer the task is about. -/
theorem Ok.task (h : s.Ok) (hmax : s'.mMaxSources = s.mMaxSources) (hlive : s'.live = s.live)
    (hb : (o, b) ∈ s.live) (hloc : ∀ x, x ≠ (o, b) → s'.mLocStatus x = s.mLocStatus x)
    (htask : s'.task = Function.update s.task o p)
    (hother : ∀ c l, c ≠ b → p.slot c l = (s.task o).slot c l)
    (hcount : ∀ k, (s'.mCurrentSources k).toNat + k.weight (s.slot (o, b)) =
      (s.mCurrentSources k).toNat + k.weight (p.slot b (s'.mLocStatus (o, b))))
    (hle : ∀ k, s'.mCurrentSources k ≤ s.mMaxSources k)
    (hbuffer : ∀ c, p.buffer = some c → c = b)
    (hunset : ∀ c, p.acquires = some c → s'.mLocStatus (o, b) = .none) : s'.Ok where
  count k := by
    have hsum := Tally.sum_update_add hb s.slot (p.slot b (s'.mLocStatus (o, b))) k.weight
    rw [← slot_eq_update hloc htask hother] at hsum
    have hk := hcount k
    have hold := h.count k
    simp only [taken] at hold ⊢
    rw [hlive]
    omega
  le_max k := by
    rw [hmax]
    exact hle k
  live o' c hc := by
    rw [hlive]
    rw [htask] at hc
    by_cases ho : o' = o
    · subst ho
      rw [Function.update_self] at hc
      rw [hbuffer c hc]
      exact hb
    · rw [Function.update_of_ne ho] at hc
      exact h.live o' c hc
  unset o' c hc := by
    rw [htask] at hc
    by_cases ho : o' = o
    · subst ho
      rw [Function.update_self] at hc
      rw [hbuffer c (Task.buffer_of_acquires hc)]
      exact hunset c hc
    · rw [Function.update_of_ne ho] at hc
      rw [hloc _ fun he ↦ ho (congrArg Prod.fst he)]
      exact h.unset o' c hc

omit [DecidableEq δ] in
/-- A slot that is taken is counted. -/
theorem Ok.weight_le (h : s.Ok) {x : δ × ℕ} (hx : x ∈ s.live) (k : Pool) :
    k.weight (s.slot x) ≤ (s.mCurrentSources k).toNat := by
  rw [h.count]
  exact Finset.single_le_sum (f := fun x ↦ k.weight (s.slot x)) (fun _ _ ↦ Nat.zero_le _) hx

omit [DecidableEq δ] in
/-- Returning the slot a buffer has takes it off the counter, which does not wrap. -/
theorem Ok.toNat_decLoc (h : s.Ok) {x : δ × ℕ} (hx : x ∈ s.live) {l : LocStatus}
    (hl : s.slot x = l) (k : Pool) :
    ((s.decLoc l).mCurrentSources k).toNat + k.weight l = (s.mCurrentSources k).toNat := by
  cases l with
  | none => rfl
  | loc k' =>
      have hpos := h.weight_le hx k'
      rw [hl, Pool.weight_loc, if_pos rfl] at hpos
      simp only [decLoc, dec, Pool.weight_loc]
      by_cases hk : k' = k
      · subst hk
        rw [Function.update_self, if_pos rfl, UInt32.toNat_sub_of_le]
        · exact Nat.sub_add_cancel hpos
        · exact UInt32.le_iff_toNat_le.mpr hpos
      · rw [Function.update_of_ne (Ne.symm hk), if_neg hk, Nat.add_zero]

omit [DecidableEq δ] in
theorem Ok.decLoc_le (h : s.Ok) {x : δ × ℕ} (hx : x ∈ s.live) {l : LocStatus}
    (hl : s.slot x = l) (k : Pool) : (s.decLoc l).mCurrentSources k ≤ s.mMaxSources k := by
  have hdec := h.toNat_decLoc hx hl k
  have hle := UInt32.le_iff_toNat_le.mp (h.le_max k)
  rw [UInt32.le_iff_toNat_le]
  omega

omit [DecidableEq δ] in
/-- A counter below its bound has room for one more. -/
theorem Ok.toNat_inc (h : s.Ok) (hne : s.mCurrentSources k ≠ s.mMaxSources k) (k' : Pool) :
    ((s.inc k).mCurrentSources k').toNat = (s.mCurrentSources k').toNat + k'.weight (.loc k) ∧
      (s.inc k).mCurrentSources k' ≤ s.mMaxSources k' := by
  have hle := UInt32.le_iff_toNat_le.mp (h.le_max k)
  have hlt : (s.mCurrentSources k).toNat < (s.mMaxSources k).toNat :=
    lt_of_le_of_ne hle fun he ↦ hne (UInt32.toNat_inj.mp he)
  have hmax := (s.mMaxSources k).toNat_lt
  simp only [inc, Pool.weight_loc]
  by_cases hk : k = k'
  · subst hk
    have hadd : (s.mCurrentSources k + 1).toNat = (s.mCurrentSources k).toNat + 1 := by
      rw [UInt32.toNat_add, Nat.mod_eq_of_lt]
      · rfl
      · change _ + 1 < _
        omega
    rw [Function.update_self, if_pos rfl, UInt32.le_iff_toNat_le, hadd]
    exact ⟨rfl, hlt⟩
  · rw [Function.update_of_ne (Ne.symm hk), if_neg hk]
    exact ⟨rfl, h.le_max k'⟩

/-- A task that goes on without touching a slot. -/
theorem Ok.goto (h : s.Ok) (hb : (o, b) ∈ s.live) (hp : ∀ c l, p.slot c l = l)
    (hslot : ∀ c l, (s.task o).slot c l = l) (hbuffer : ∀ c, p.buffer = some c → c = b)
    (hunset : ∀ c, p.acquires = some c → s.mLocStatus (o, b) = .none) : (s.goto o p).Ok :=
  h.task rfl rfl hb (fun _ _ ↦ rfl) rfl (fun c l _ ↦ (hp c l).trans (hslot c l).symm)
    (fun k ↦ by rw [hp, slot, hslot]; rfl) h.le_max hbuffer hunset

/-- A task that returns the slot of its buffer. -/
theorem Ok.decLoc (h : s.Ok) (hb : (o, b) ∈ s.live) (hslot : ∀ c l, (s.task o).slot c l = l)
    (hp : ∀ c l, p.slot c l = if c = b then .none else l)
    (hbuffer : ∀ c, p.buffer = some c → c = b) (hunset : p.acquires = none) :
    ((s.decLoc (s.mLocStatus (o, b))).goto o p).Ok := by
  have hself : s.slot (o, b) = s.mLocStatus (o, b) := by rw [slot, hslot]
  refine h.task (p := p) ?_ ?_ hb ?_ ?_ (fun c l hc ↦ ?_) (fun k ↦ ?_) (h.decLoc_le hb hself)
    hbuffer fun c hc ↦ ?_
  · cases s.mLocStatus (o, b) <;> rfl
  · cases s.mLocStatus (o, b) <;> rfl
  · intro x _
    cases s.mLocStatus (o, b) <;> rfl
  · cases s.mLocStatus (o, b) <;> rfl
  · rw [hp, if_neg hc, hslot]
  · rw [hp, if_pos rfl, Pool.weight_none, hself]
    exact h.toNat_decLoc hb hself k
  · rw [hunset] at hc
    cases hc

/-- A new buffer has no slot. -/
theorem Ok.create (h : s.Ok) (hidle : s.task o = .idle) (hfree : (o, b) ∉ s.live) :
    ({ s.locate o b .none with live := insert (o, b) s.live } : SourcePool δ).Ok where
  count k := by
    have hold : ∀ x ∈ s.live, (s.locate o b .none).slot x = s.slot x := by
      intro x hx
      have hne : x ≠ (o, b) := fun he ↦ hfree (he ▸ hx)
      rw [slot, mLocStatus_locate_of_ne _ hne]
      rfl
    have hnew : (s.locate o b .none).slot (o, b) = .none := by
      rw [slot, mLocStatus_locate_self]
      change (s.task o).slot b .none = .none
      rw [hidle]
      rfl
    have hsum : ∑ x ∈ insert (o, b) s.live, k.weight ((s.locate o b .none).slot x) = s.taken k := by
      rw [Finset.sum_insert hfree, hnew, Pool.weight_none, Nat.zero_add]
      exact Finset.sum_congr rfl fun x hx ↦ by rw [hold x hx]
    exact (h.count k).trans hsum.symm
  le_max := h.le_max
  live o' c hc := Finset.mem_insert_of_mem (h.live o' c hc)
  unset o' c hc := by
    have hne : (o', c) ≠ (o, b) := fun he ↦ hfree (he ▸ h.live o' c (Task.buffer_of_acquires hc))
    change Function.update s.mLocStatus (o, b) .none (o', c) = .none
    rw [Function.update_of_ne hne]
    exact h.unset o' c hc

/-- A buffer without a slot, and which no task is about, can go. -/
theorem Ok.erase (h : s.Ok) (hslot : s.slot (o, b) = .none)
    (htask : ∀ o' c, (s.task o').buffer = some c → (o', c) ≠ (o, b)) :
    ({ s with live := s.live.erase (o, b) } : SourcePool δ).Ok where
  count k := by
    have hsum : ∑ x ∈ s.live.erase (o, b), k.weight (s.slot x) = s.taken k :=
      Finset.sum_erase s.live (f := fun x ↦ k.weight (s.slot x)) (by rw [hslot, Pool.weight_none])
    exact (h.count k).trans hsum.symm
  le_max := h.le_max
  live o' c hc := Finset.mem_erase.mpr ⟨htask o' c hc, h.live o' c hc⟩
  unset := h.unset

end SourcePool

open SourcePool

/-- **Step lemma**: every atomic operation keeps the counters on the slots. -/
theorem PoolTaskStep.ok (h : s.Ok) (hs : PoolTaskStep s op s') : s'.Ok := by
  cases hs with
  | create idle free => exact h.create idle free
  | setLocation idle live =>
      exact h.goto live (fun _ _ ↦ Task.slot_setLocation _) (fun _ _ ↦ by rw [idle]; rfl)
        (fun _ ↦ Task.eq_of_buffer_setLocation) fun _ ↦ Task.eq_none_of_acquires_setLocation
  | release ht =>
      exact h.decLoc (h.live _ _ (by rw [ht]; rfl)) (fun _ _ ↦ by rw [ht]; rfl) (fun _ _ ↦ rfl)
        (fun _ hc ↦ (Option.some.inj hc).symm) rfl
  | @clear o b want ht =>
      have hb := h.live o b (by rw [ht]; rfl)
      have hslot : s.slot (o, b) = .none := by rw [slot, ht]; exact if_pos rfl
      have hloc : ((s.locate o b .none).goto o (.acquire b want)).mLocStatus (o, b) = .none :=
        Function.update_self ..
      refine h.task (p := .acquire b want) rfl rfl hb (fun x hx ↦ Function.update_of_ne hx _ _) rfl
        (fun c l hc ↦ ?_) (fun k ↦ ?_) h.le_max (fun c ↦ Task.eq_of_buffer_acquire) fun _ _ ↦ hloc
      · rw [Task.slot_acquire, ht]
        exact (if_neg hc).symm
      · rw [Task.slot_acquire, hslot, hloc]
        rfl
  | load ht | retry ht _ =>
      exact h.goto (h.live _ _ (by rw [ht]; rfl)) (fun _ _ ↦ rfl) (fun _ _ ↦ by rw [ht]; rfl)
        (fun _ hc ↦ (Option.some.inj hc).symm) fun _ _ ↦ h.unset _ _ (by rw [ht]; rfl)
  | full ht _ =>
      exact h.goto (h.live _ _ (by rw [ht]; rfl)) (fun _ _ ↦ Task.slot_full)
        (fun _ _ ↦ by rw [ht]; rfl) (fun _ ↦ Task.eq_of_buffer_full)
        fun _ _ ↦ h.unset _ _ (by rw [ht]; rfl)
  | @swap o b want k cur ht hcur hsame =>
      have hb := h.live o b (by rw [ht]; rfl)
      have hunset := h.unset o b (by rw [ht]; rfl)
      have hslot : s.slot (o, b) = .none := by rw [slot, ht]; exact hunset
      have hinc := h.toNat_inc (hsame ▸ hcur)
      refine h.task (p := .store b k) rfl rfl hb (fun _ _ ↦ rfl) rfl (fun c l hc ↦ ?_) (fun k' ↦ ?_)
        (fun k' ↦ (hinc k').2) (fun c hc ↦ (Option.some.inj hc).symm) fun _ _ ↦ hunset
      · rw [ht]
        exact if_neg hc
      · rw [Task.slot, if_pos rfl, hslot, Pool.weight_none]
        exact (hinc k').1
  | @store o b k ht =>
      have hb := h.live o b (by rw [ht]; rfl)
      have hslot : s.slot (o, b) = .loc k := by rw [slot, ht]; exact if_pos rfl
      have hloc : ((s.locate o b (.loc k)).goto o .idle).mLocStatus (o, b) = .loc k :=
        Function.update_self ..
      refine h.task (p := .idle) rfl rfl hb (fun x hx ↦ Function.update_of_ne hx _ _) rfl
        (fun c l hc ↦ ?_) (fun k' ↦ ?_) h.le_max nofun nofun
      · rw [ht]
        exact (if_neg hc).symm
      · rw [hslot, hloc]
        rfl
  | destroy idle live =>
      exact h.goto live (fun _ _ ↦ rfl) (fun _ _ ↦ by rw [idle]; rfl)
        (fun _ hc ↦ (Option.some.inj hc).symm) nofun
  | destroyRun ht =>
      exact h.decLoc (h.live _ _ (by rw [ht]; rfl)) (fun _ _ ↦ by rw [ht]; rfl) (fun _ _ ↦ rfl)
        (fun _ hc ↦ (Option.some.inj hc).symm) rfl
  | @destroyDone o b ht =>
      have hb := h.live o b (by rw [ht]; rfl)
      have hslot : s.slot (o, b) = .none := by rw [slot, ht]; exact if_pos rfl
      have hloc : ((s.locate o b .none).goto o .idle).mLocStatus (o, b) = .none :=
        Function.update_self ..
      have hidle : ((s.locate o b .none).goto o .idle).task o = .idle := Function.update_self ..
      have hok : ((s.locate o b .none).goto o .idle).Ok := by
        refine h.task (p := .idle) rfl rfl hb (fun x hx ↦ Function.update_of_ne hx _ _) rfl
          (fun c l hc ↦ ?_) (fun k ↦ ?_) h.le_max nofun nofun
        · rw [ht]
          exact (if_neg hc).symm
        · rw [hslot, hloc]
          rfl
      refine hok.erase ?_ fun o' c hc he ↦ ?_
      · rw [slot_of_idle hidle, hloc]
      · obtain ⟨rfl, rfl⟩ := Prod.mk.inj he
        rw [hidle] at hc
        cases hc

/-! ## Runs -/

/-- **Run lemma**: in every run the counters are on the slots. -/
theorem sourcesOk_of_reachable {max : Pool → UInt32}
    (h : Reachable PoolTaskStep (· = .new max) s) : s.Ok :=
  h.invariant (P := SourcePool.Ok) (fun _ hs ↦ hs ▸ ok_new max) fun _ _ _ hok hs ↦ hs.ok hok

/-- What the pools promise in a state. -/
structure SourcePool.Safe (s : SourcePool δ) : Prop where
  /-- While no `setLocation` or destructor is in progress, the counters are the
  numbers of live buffers in the two locations. -/
  count : (∀ o, s.task o = .idle) → ∀ k,
    (s.mCurrentSources k).toNat = (s.live.filter fun x ↦ s.mLocStatus x = .loc k).card
  /-- The counters are within their bounds. -/
  le_max : ∀ k, s.mCurrentSources k ≤ s.mMaxSources k
  /-- No operation takes a counter around its range. -/
  noWrap : ∀ op s' k, PoolTaskStep s op s' →
    (s'.mCurrentSources k).toNat ≤ (s.mCurrentSources k).toNat + 1 ∧
      (s.mCurrentSources k).toNat ≤ (s'.mCurrentSources k).toNat + 1
  /-- The free count of `GetCaps` is a difference that does not underflow. -/
  free : s.freeHwSources.toNat + (s.mCurrentSources .hw).toNat = (s.mMaxSources .hw).toNat

/-- An operation moves the counters by at most one. -/
theorem PoolTaskStep.near (h : s.Ok) (hs : PoolTaskStep s op s') (k : Pool) :
    (s'.mCurrentSources k).toNat ≤ (s.mCurrentSources k).toNat + 1 ∧
      (s.mCurrentSources k).toNat ≤ (s'.mCurrentSources k).toNat + 1 := by
  have hweight : ∀ l, k.weight l ≤ 1 := fun l ↦ by
    unfold Pool.weight
    split <;> omega
  have hdec : ∀ {o b}, (o, b) ∈ s.live → s.slot (o, b) = s.mLocStatus (o, b) → ∀ p : Task,
      (((s.decLoc (s.mLocStatus (o, b))).goto o p).mCurrentSources k).toNat ≤
          (s.mCurrentSources k).toNat + 1 ∧ (s.mCurrentSources k).toNat ≤
        (((s.decLoc (s.mLocStatus (o, b))).goto o p).mCurrentSources k).toNat + 1 := by
    intro o b hb hslot p
    have hcount := h.toNat_decLoc hb hslot k
    have hle := hweight (s.mLocStatus (o, b))
    simp only [goto]
    omega
  cases hs with
  | create | setLocation | clear | load | full | retry | store | destroy | destroyDone =>
      exact ⟨Nat.le_succ _, Nat.le_succ _⟩
  | release ht | destroyRun ht =>
      exact hdec (h.live _ _ (by rw [ht]; rfl)) (by rw [slot, ht]; rfl) _
  | @swap o b want k' cur ht hcur hsame =>
      have hinc := (h.toNat_inc (hsame ▸ hcur) k).1
      have hle := hweight (.loc k')
      simp only [goto]
      omega

/-- Counters on the slots keep the promises of the pools. -/
theorem SourcePool.Ok.safe (h : s.Ok) : s.Safe where
  count hidle k := by
    rw [h.count, Finset.card_filter]
    exact Finset.sum_congr rfl fun x _ ↦ by rw [slot_of_idle (hidle x.1)]; rfl
  le_max := h.le_max
  noWrap _ _ k hs := hs.near h k
  free := by
    have hle := h.le_max .hw
    have := UInt32.le_iff_toNat_le.mp hle
    rw [freeHwSources, UInt32.toNat_sub_of_le _ _ hle]
    omega

/-- **The source pools are never overdrawn or leaked.**  Any number of objects on
one device, any interleaving of the atomic operations of `setLocation` and the
destructor: in every state reached the counters are within bounds, and while
nobody is in the middle of either they are the numbers of buffers located. -/
theorem source_pools_safe {max : Pool → UInt32} (h : Reachable PoolTaskStep (· = .new max) s) :
    s.Safe := (sourcesOk_of_reachable h).safe

/-- Two objects and one hardware source: the second one is refused. -/
theorem source_pools_safe_two : ∃ s : SourcePool Bool,
    (s.mCurrentSources .hw = 1 ∧ ∀ o, s.task o = .idle) ∧ s.Safe := by
  have h0 : Reachable PoolTaskStep (· = (.new fun _ ↦ 1 : SourcePool Bool)) _ := .init rfl
  have h1 := h0.step (i := PoolTask.create true 0) (.create rfl (by decide))
  have h2 := h1.step (i := PoolTask.setLocation true 0 .none) (.setLocation rfl (by decide))
  have h3 := h2.step (i := PoolTask.run true) (.load (b := 0) (k := .hw) rfl)
  have h4 := h3.step (i := PoolTask.run true) (.swap (b := 0) (k := .hw) rfl (by decide) rfl)
  have h5 := h4.step (i := PoolTask.run true) (.store rfl)
  have h6 := h5.step (i := PoolTask.create false 0) (.create rfl (by decide))
  have h7 := h6.step (i := PoolTask.setLocation false 0 .hardware) (.setLocation rfl (by decide))
  have h8 := h7.step (i := PoolTask.run false) (.load (b := 0) (k := .hw) rfl)
  have h9 := h8.step (i := PoolTask.run false) (.full (b := 0) (k := .hw) rfl rfl)
  exact ⟨_, ⟨rfl, by decide⟩, source_pools_safe h9⟩

end Dsoal
