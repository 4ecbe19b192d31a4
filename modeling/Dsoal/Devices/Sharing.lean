import Dsoal.Core.DeviceTable
import Dsoal.Lib.Census
import Dsoal.Lib.Mutex
import Dsoal.Lib.Tally
import Dsoal.Lib.Transition

/-!
# Sharing devices across interleavings

Two invariants of the device table.  `Listed` is what the list mutex protects: the
list has the devices in memory, each once and no two with one id.  It holds in
every run.  `Counted` is what the reference counts are for: a device that someone
has a reference to is in memory.  It holds as long as `GetById` never adds a
reference to a device whose count is zero, which nothing in `Release` and `dispose`
prevents.
-/

universe u v

namespace Dsoal

open TransitionSystem

variable {γ : Type u} {θ : Type v} [DecidableEq θ] {s s' : DeviceTable γ θ} {op : DeviceOp γ θ}
  {t : θ} {x : DevicePc γ} {id : γ} {a : ℕ} {d y : SharedDevice γ}

namespace DeviceTable

/-- The id of the device at an address. -/
def ids (s : DeviceTable γ θ) (a : ℕ) : Option γ := (s.heap a).map SharedDevice.mId

/-- The devices that were created and deleted. -/
def census (s : DeviceTable γ θ) : Census ℕ where
  alive a := (s.heap a).map SharedDevice.serial
  born := s.created
  dead := s.deleted

/-! ## The list -/

/-- The list has every device in memory, once, and no two with one id; what a
thread with the mutex has found out about the list stays true. -/
structure Listed (s : DeviceTable γ θ) : Prop where
  mutex : Mutex.Guarded s.sDeviceListMutex DevicePc.Locks s.pc
  listed : ∀ a, a ∈ s.sDeviceList ↔ (s.ids a).isSome
  nodup : s.sDeviceList.Nodup
  ids : ∀ a b id, s.ids a = some id → s.ids b = some id → a = b
  adding : ∀ t a, s.pc t = .adding a → (s.ids a).isSome
  creating : ∀ t id, s.pc t = .creating id → ∀ a, s.ids a ≠ some id
  census : s.census.Ok

omit [DecidableEq θ] in
theorem listed_empty : (empty : DeviceTable γ θ).Listed where
  mutex := Mutex.guarded_none fun _ ↦ id
  listed := by simp [empty, DeviceTable.ids]
  nodup := .nil
  ids := nofun
  adding := nofun
  creating := nofun
  census := .empty

namespace Listed

/-- A step of `t` that leaves the devices alone. -/
theorem moved (h : s.Listed) (hids : s'.ids = s.ids) (hcensus : s'.census = s.census)
    (hlist : s'.sDeviceList = s.sDeviceList) (hpc : s'.pc = Function.update s.pc t x)
    (hmutex : Mutex.Guarded s'.sDeviceListMutex DevicePc.Locks (Function.update s.pc t x))
    (hadd : ∀ a, x = .adding a → (s.ids a).isSome)
    (hcreate : ∀ id, x = .creating id → ∀ a, s.ids a ≠ some id) : s'.Listed where
  mutex := hpc ▸ hmutex
  listed a := by rw [hlist, hids, h.listed]
  nodup := hlist ▸ h.nodup
  ids := hids ▸ h.ids
  adding u a hu := by
    rw [hids]
    rw [hpc, Function.update_apply] at hu
    split at hu
    · exact hadd a hu
    · exact h.adding u a hu
  creating u id hu := by
    rw [hids]
    rw [hpc, Function.update_apply] at hu
    split at hu
    · exact hcreate id hu
    · exact h.creating u id hu
  census := hcensus ▸ h.census

omit [DecidableEq θ] in
/-- While `t` is in the critical section no other thread has found anything out
about the list. -/
theorem outside (h : s.Listed) (ht : (s.pc t).Locks) {u : θ} (hu : u ≠ t) :
    (∀ a, s.pc u ≠ .adding a) ∧ ∀ id, s.pc u ≠ .creating id := by
  have hnot : ¬ (s.pc u).Locks := fun hl ↦ hu (h.mutex.unique hl ht)
  exact ⟨fun a ha ↦ hnot (by rw [ha]; trivial), fun id hid ↦ hnot (by rw [hid]; trivial)⟩

/-- `create` puts a device with a new id into the list. -/
theorem create (h : s.Listed) (ht : s.pc t = .creating id) (ha : s.heap a = none) :
    (s.create t id a).Listed := by
  have hlocks : (s.pc t).Locks := by rw [ht]; trivial
  have hnone : s.ids a = none := by rw [DeviceTable.ids, ha]; rfl
  have hids : (s.create t id a).ids = Function.update s.ids a (some id) := by
    funext b
    by_cases hb : b = a <;> simp [DeviceTable.ids, DeviceTable.create, hb]
  have hnew := h.creating t id ht
  have hpc : (s.create t id a).pc = Function.update s.pc t .leaving := rfl
  refine ⟨h.mutex.keep (iff_of_true trivial hlocks), fun b ↦ ?_, ?_, ?_, ?_, ?_, ?_⟩
  · rw [hids, show (s.create t id a).sDeviceList = s.sDeviceList ++ [a] from rfl,
      List.mem_append, List.mem_singleton, h.listed]
    by_cases hb : b = a <;> simp [hb]
  · refine List.nodup_append.mpr ⟨h.nodup, List.nodup_singleton a, ?_⟩
    rintro b hb _ ha' rfl
    have hb' : a ∈ s.sDeviceList := List.mem_singleton.mp ha' ▸ hb
    simpa [hnone] using (h.listed a).mp hb'
  · intro b c i hb hc
    rw [hids, Function.update_apply] at hb hc
    split at hb <;> split at hc
    · simp [*]
    · exact absurd (hb ▸ hc) (hnew c)
    · exact absurd (hc ▸ hb) (hnew b)
    · exact h.ids b c i hb hc
  · intro u b hu
    rw [hpc, Function.update_apply] at hu
    split at hu
    · cases hu
    · exact absurd hu ((h.outside hlocks ‹_›).1 b)
  · intro u i hu
    rw [hpc, Function.update_apply] at hu
    split at hu
    · cases hu
    · exact absurd hu ((h.outside hlocks ‹_›).2 i)
  · have hcensus : (s.create t id a).census = s.census.birth a := by
      refine congrArg (Census.mk · _ _) ?_
      funext b
      by_cases hb : b = a <;> simp [DeviceTable.census, DeviceTable.create, hb]
    rw [hcensus]
    exact h.census.birth (by simp [DeviceTable.census, ha])

/-- `erase` takes a device out of the list and out of memory together. -/
theorem erase (h : s.Listed) (ht : s.pc t = .erasing a) : (s.erase t a).Listed := by
  have hlocks : (s.pc t).Locks := by rw [ht]; trivial
  have hmutex : Mutex.Guarded s.sDeviceListMutex DevicePc.Locks
      (Function.update s.pc t .leaving) := h.mutex.keep (iff_of_true trivial hlocks)
  rw [DeviceTable.erase]
  split_ifs with hmem
  swap
  · exact h.moved rfl rfl rfl rfl hmutex nofun nofun
  obtain ⟨d, hd⟩ : ∃ d, s.heap a = some d := by
    simpa [DeviceTable.ids, Option.isSome_iff_exists] using (h.listed a).mp hmem
  set s' : DeviceTable γ θ := { s.goto t .leaving with
    heap := Function.update s.heap a none, sDeviceList := s.sDeviceList.erase a,
    deleted := s.deleted ++ ((s.heap a).map SharedDevice.serial).toList } with hs'
  have hids : s'.ids = Function.update s.ids a none := by
    funext b
    by_cases hb : b = a <;> simp [DeviceTable.ids, hs', hb]
  have hpc : s'.pc = Function.update s.pc t .leaving := rfl
  refine ⟨hmutex, fun b ↦ ?_, h.nodup.erase a, ?_, ?_, ?_, ?_⟩
  · rw [hids, h.nodup.mem_erase_iff, h.listed]
    by_cases hb : b = a <;> simp [hb]
  · intro b c i hb hc
    rw [hids, Function.update_apply] at hb hc
    split at hb
    · cases hb
    · split at hc
      · cases hc
      · exact h.ids b c i hb hc
  · intro u b hu
    rw [hpc, Function.update_apply] at hu
    split at hu
    · cases hu
    · exact absurd hu ((h.outside hlocks ‹_›).1 b)
  · intro u i hu
    rw [hpc, Function.update_apply] at hu
    split at hu
    · cases hu
    · exact absurd hu ((h.outside hlocks ‹_›).2 i)
  · have hcensus : s'.census = s.census.death a d.serial := by
      have halive : (fun b ↦ (s'.heap b).map SharedDevice.serial) =
          Function.update (fun b ↦ (s.heap b).map SharedDevice.serial) a none := by
        funext b
        by_cases hb : b = a <;> simp [hs', hb]
      rw [DeviceTable.census, halive, hs', hd]
      rfl
    rw [hcensus]
    exact h.census.death (by simp [DeviceTable.census, hd])

end Listed

omit [DecidableEq θ] in
/-- Replacing a device by one with the same id and number. -/
theorem map_update_heap {β : Type*} (f : SharedDevice γ → β) (hd : s.heap a = some d)
    (hf : f y = f d) :
    (fun b ↦ (Function.update s.heap a (some y) b).map f) = fun b ↦ (s.heap b).map f := by
  funext b
  by_cases hb : b = a
  · simp [hb, hd, hf]
  · simp [hb]

end DeviceTable

/-- **Step lemma** of the list, which holds whatever the counts do. -/
theorem DeviceStep.listed [DecidableEq γ] (h : s.Listed) (hs : DeviceStep s op s') :
    s'.Listed := by
  cases hs with
  | getById idle free =>
      exact h.moved rfl rfl rfl rfl ((free ▸ h.mutex).acquire trivial) nofun nofun
  | @found t id a hp hf =>
      refine h.moved rfl rfl rfl rfl (h.mutex.keep (iff_of_true trivial (by rw [hp]; trivial))) ?_
        nofun
      rintro _ ⟨⟩
      exact (h.listed a).mp (List.mem_of_find?_eq_some hf)
  | @missing t id hp hf =>
      refine h.moved rfl rfl rfl rfl (h.mutex.keep (iff_of_true trivial (by rw [hp]; trivial)))
        nofun ?_
      rintro _ ⟨⟩ a ha
      have hmem := (h.listed a).mpr (by rw [ha]; rfl)
      have hno := List.find?_eq_none.mp hf a hmem
      obtain ⟨d, hd, hid⟩ : ∃ d, s.heap a = some d ∧ d.mId = id := by
        simpa [DeviceTable.ids] using ha
      simp [hd, hid] at hno
  | @addRef t a d hp hd =>
      refine h.moved (DeviceTable.map_update_heap _ hd rfl) ?_ rfl rfl
        (h.mutex.keep (iff_of_true trivial (by rw [hp]; trivial))) nofun nofun
      exact congrArg (Census.mk · _ _) (DeviceTable.map_update_heap _ hd rfl)
  | create hp free => exact h.create hp free
  | createFail hp =>
      exact h.moved rfl rfl rfl rfl (h.mutex.keep (iff_of_true trivial (by rw [hp]; trivial)))
        nofun nofun
  | unlock hp =>
      exact h.moved rfl rfl rfl rfl (h.mutex.release (by rw [hp]; trivial) id) nofun nofun
  | @release t r d idle holds hd =>
      refine h.moved (DeviceTable.map_update_heap _ hd rfl)
        (congrArg (Census.mk · _ _) (DeviceTable.map_update_heap _ hd rfl)) rfl rfl
        (h.mutex.keep (iff_of_false ?_ (by rw [idle]; exact id))) ?_ ?_
      · split <;> exact id
      · split <;> nofun
      · split <;> nofun
  | lockDispose hp free =>
      exact h.moved rfl rfl rfl rfl ((free ▸ h.mutex).acquire trivial) nofun nofun
  | erase hp => exact h.erase hp
  | pass idle holds => exact ⟨h.mutex, h.listed, h.nodup, h.ids, h.adding, h.creating, h.census⟩

/-! ## The counts -/

variable [Fintype θ]

namespace DeviceTable

/-- How many references to a device are held. -/
def holders (s : DeviceTable γ θ) (r : DeviceRef) : ℕ := ∑ t, s.held t r

/-- A reference is held to a device in memory; the count of a device is the number
of references to it, and a thread that saw it drop to zero disposes of it. -/
structure Counted (s : DeviceTable γ θ) : Prop where
  held : ∀ r, 0 < s.holders r → ∃ d, s.heap r.addr = some d ∧ d.serial = r.serial
  count : ∀ a d, s.heap a = some d → d.mRef = UInt32.ofNat (s.holders ⟨a, d.serial⟩)
  bound : ∀ r, s.holders r ≤ 2 ^ 32
  disposal : ∀ t a, (s.pc t).Disposes a → ∃ d, s.heap a = some d ∧ s.holders ⟨a, d.serial⟩ = 0
  unique : ∀ t t' a, (s.pc t).Disposes a → (s.pc t').Disposes a → t = t'
  last : ∀ a d, s.heap a = some d → s.holders ⟨a, d.serial⟩ = 0 → ∃ t, (s.pc t).Disposes a

/-- The references held after `t` has `n` of them. -/
theorem holders_hold (r : DeviceRef) (n : ℕ) :
    (s.hold t r n).holders r + s.held t r = s.holders r + n := by
  have h := Tally.sum_update_add (Finset.mem_univ t) s.held (Function.update (s.held t) r n)
    fun f ↦ f r
  simp only [Function.update_self] at h
  exact h

theorem holders_hold_of_ne {r r' : DeviceRef} (n : ℕ) (hr : r' ≠ r) :
    (s.hold t r n).holders r' = s.holders r' := by
  have h := Tally.sum_update_add (Finset.mem_univ t) s.held (Function.update (s.held t) r n)
    fun f ↦ f r'
  simp only [Function.update_of_ne hr] at h
  exact Nat.add_right_cancel h

omit [DecidableEq θ] in
theorem held_le_holders (s : DeviceTable γ θ) (t : θ) (r : DeviceRef) :
    s.held t r ≤ s.holders r :=
  Finset.single_le_sum (f := fun t ↦ s.held t r) (fun _ _ ↦ Nat.zero_le _) (Finset.mem_univ t)

namespace Counted

omit [DecidableEq θ] in
/-- A step that changes neither the devices nor the references, nor who disposes
of what. -/
theorem moved (h : s.Counted) (hheap : s'.heap = s.heap) (hheld : s'.holders = s.holders)
    (hpc : ∀ u a, (s'.pc u).Disposes a ↔ (s.pc u).Disposes a) : s'.Counted where
  held := by rw [hheap, hheld]; exact h.held
  count := by rw [hheap, hheld]; exact h.count
  bound := by rw [hheld]; exact h.bound
  disposal := by simp only [hheap, hheld, hpc]; exact h.disposal
  unique := by simp only [hpc]; exact h.unique
  last := by simp only [hheap, hheld, hpc]; exact h.last

omit [DecidableEq θ] in
/-- Nobody disposes of a device that is referenced. -/
theorem not_disposes (h : s.Counted) (hd : s.heap a = some d)
    (hpos : 0 < s.holders ⟨a, d.serial⟩) (u : θ) : ¬ (s.pc u).Disposes a := by
  intro hu
  obtain ⟨e, he, hzero⟩ := h.disposal u a hu
  obtain rfl : d = e := Option.some.inj (hd.symm.trans he)
  omega

omit [DecidableEq θ] in
/-- A step that writes the device at `a` and changes the references to it only. -/
theorem write (h : s.Counted) (hheap : s'.heap = Function.update s.heap a (some y))
    (hserial : ∀ d, s.heap a = some d → d.serial = y.serial)
    (hother : ∀ r, r ≠ ⟨a, y.serial⟩ → s'.holders r = s.holders r)
    (hcount : y.mRef = UInt32.ofNat (s'.holders ⟨a, y.serial⟩))
    (hbound : s'.holders ⟨a, y.serial⟩ ≤ 2 ^ 32)
    (hpc : ∀ u b, b ≠ a → ((s'.pc u).Disposes b ↔ (s.pc u).Disposes b))
    (hlast : (∃ u, (s'.pc u).Disposes a) ↔ s'.holders ⟨a, y.serial⟩ = 0)
    (hunique : ∀ u v, (s'.pc u).Disposes a → (s'.pc v).Disposes a → u = v) : s'.Counted := by
  have hself : s'.heap a = some y := by rw [hheap, Function.update_self]
  have hne : ∀ b, b ≠ a → s'.heap b = s.heap b := fun b hb ↦ by
    rw [hheap, Function.update_of_ne hb]
  have hheld : ∀ b n, b ≠ a → s'.holders ⟨b, n⟩ = s.holders ⟨b, n⟩ := fun b n hb ↦
    hother _ fun he ↦ hb (congrArg DeviceRef.addr he)
  refine ⟨fun r hr ↦ ?_, fun b e he ↦ ?_, fun r ↦ ?_, fun u b hu ↦ ?_, fun u v b hu hv ↦ ?_,
    fun b e he hzero ↦ ?_⟩
  · by_cases hra : r = ⟨a, y.serial⟩
    · exact ⟨y, by rw [hra, hself], by rw [hra]⟩
    · rw [hother r hra] at hr
      obtain ⟨e, he, hes⟩ := h.held r hr
      refine ⟨e, ?_, hes⟩
      rw [hne r.addr, he]
      rintro rfl
      exact hra (by rw [← hserial e he, hes])
  · by_cases hb : b = a
    · subst hb
      obtain rfl : y = e := Option.some.inj (hself.symm.trans he)
      exact hcount
    · rw [hne b hb] at he
      rw [hheld b _ hb]
      exact h.count b e he
  · by_cases hra : r = ⟨a, y.serial⟩
    · rw [hra]
      exact hbound
    · rw [hother r hra]
      exact h.bound r
  · by_cases hb : b = a
    · subst hb
      exact ⟨y, hself, hlast.mp ⟨u, hu⟩⟩
    · obtain ⟨e, he, hzero⟩ := h.disposal u b ((hpc u b hb).mp hu)
      exact ⟨e, by rw [hne b hb, he], by rw [hheld b _ hb, hzero]⟩
  · by_cases hb : b = a
    · subst hb
      exact hunique u v hu hv
    · exact h.unique u v b ((hpc u b hb).mp hu) ((hpc v b hb).mp hv)
  · by_cases hb : b = a
    · subst hb
      obtain rfl : y = e := Option.some.inj (hself.symm.trans he)
      exact hlast.mpr hzero
    · rw [hne b hb] at he
      rw [hheld b _ hb] at hzero
      obtain ⟨u, hu⟩ := h.last b e he hzero
      exact ⟨u, (hpc u b hb).mpr hu⟩

omit [Fintype θ] in
/-- What a thread disposes of after another one has moved. -/
theorem disposes_goto (hpc : s'.pc = Function.update s.pc t x) {b : ℕ}
    (hx : x.Disposes b ↔ (s.pc t).Disposes b) (u : θ) :
    (s'.pc u).Disposes b ↔ (s.pc u).Disposes b := by
  rw [hpc]
  by_cases hu : u = t
  · rw [hu, Function.update_self, hx]
  · rw [Function.update_of_ne hu]

/-- `AddRef` on a device whose count is not zero. -/
theorem addRef (h : s.Counted) (ht : s.pc t = .adding a) (hd : s.heap a = some d)
    (hlive : d.mRef ≠ 0) : (s.addRef t a d).Counted := by
  have hheld : (s.addRef t a d).holders ⟨a, d.serial⟩ = s.holders ⟨a, d.serial⟩ + 1 := by
    have := holders_hold (s := s) (t := t) ⟨a, d.serial⟩ (s.held t ⟨a, d.serial⟩ + 1)
    change (s.hold t ⟨a, d.serial⟩ (s.held t ⟨a, d.serial⟩ + 1)).holders _ = _
    omega
  have hcount := h.count a d hd
  -- the count is not zero, so somebody holds a reference and there is room for one more
  have hpos : 0 < s.holders ⟨a, d.serial⟩ := by
    refine Nat.pos_of_ne_zero fun hzero ↦ hlive ?_
    rw [hcount, hzero]
    rfl
  have hroom : s.holders ⟨a, d.serial⟩ ≠ 2 ^ 32 := by
    intro hmax
    refine hlive ?_
    rw [hcount, hmax]
    rfl
  have hnot := h.not_disposes hd hpos
  have hpc : ∀ u b, ((s.addRef t a d).pc u).Disposes b ↔ (s.pc u).Disposes b := fun u b ↦
    disposes_goto rfl (by rw [ht]; exact Iff.rfl) u
  refine h.write (a := a) (y := { d with mRef := d.mRef + 1 }) rfl
    (fun e he ↦ show e.serial = d.serial by rw [Option.some.inj (he.symm.trans hd)])
    (fun r hr ↦ holders_hold_of_ne _ hr) ?_ ?_ (fun u b _ ↦ hpc u b) ?_ ?_
  · rw [hheld, UInt32.ofNat_add, hcount]
    rfl
  · have := h.bound ⟨a, d.serial⟩
    simp only [hheld]
    omega
  · refine iff_of_false (fun ⟨u, hu⟩ ↦ hnot u ((hpc u a).mp hu)) ?_
    simp only [hheld]
    omega
  · exact fun u v hu ↦ absurd ((hpc u a).mp hu) (hnot u)

/-- A new device has the reference of its creator. -/
theorem create (h : s.Counted) (ht : s.pc t = .creating id) (ha : s.heap a = none) :
    (s.create t id a).Counted := by
  have hzero : s.holders ⟨a, s.created⟩ = 0 := by
    by_contra hpos
    obtain ⟨e, he, -⟩ := h.held ⟨a, s.created⟩ (Nat.pos_of_ne_zero hpos)
    exact nomatch ha.symm.trans he
  have hheld : (s.create t id a).holders ⟨a, s.created⟩ = 1 := by
    have := holders_hold (s := s) (t := t) ⟨a, s.created⟩ (s.held t ⟨a, s.created⟩ + 1)
    change (s.hold t ⟨a, s.created⟩ (s.held t ⟨a, s.created⟩ + 1)).holders _ = _
    omega
  have hnot : ∀ u, ¬ (s.pc u).Disposes a := fun u hu ↦ by
    obtain ⟨e, he, -⟩ := h.disposal u a hu
    exact nomatch ha.symm.trans he
  have hpc : ∀ u b, ((s.create t id a).pc u).Disposes b ↔ (s.pc u).Disposes b := fun u b ↦
    disposes_goto rfl (by rw [ht]; exact Iff.rfl) u
  refine h.write (a := a) (y := { mId := id, mRef := 1, serial := s.created }) rfl
    (fun e he ↦ nomatch ha.symm.trans he) (fun r hr ↦ holders_hold_of_ne _ hr) ?_ ?_
    (fun u b _ ↦ hpc u b) ?_ ?_
  · rw [hheld]
    rfl
  · simp only [hheld]
    omega
  · refine iff_of_false (fun ⟨u, hu⟩ ↦ hnot u ((hpc u a).mp hu)) ?_
    simp only [hheld]
    omega
  · exact fun u v hu ↦ absurd ((hpc u a).mp hu) (hnot u)

/-- `Release` of a reference that is held; the thread that takes the last one goes
on to dispose of the device. -/
theorem release (h : s.Counted) {r : DeviceRef} (ht : s.pc t = .idle) (hr : 0 < s.held t r)
    (hd : s.heap r.addr = some d) : (s.release t r d).Counted := by
  have hpos : 0 < s.holders r := hr.trans_le (held_le_holders s t r)
  have hserial : r = ⟨r.addr, d.serial⟩ := by
    obtain ⟨e, he, hes⟩ := h.held r hpos
    rw [Option.some.inj (hd.symm.trans he), hes]
  have hheld : (s.release t r d).holders r + 1 = s.holders r := by
    have := holders_hold (s := s) (t := t) r (s.held t r - 1)
    change (s.hold t r (s.held t r - 1)).holders r + 1 = _
    omega
  have hcount : d.mRef - 1 = UInt32.ofNat ((s.release t r d).holders r) := by
    rw [h.count r.addr d hd, ← hserial, ← hheld, UInt32.ofNat_add]
    exact UInt32.add_sub_cancel _ _
  have hbound := h.bound r
  have hlast : d.mRef - 1 = 0 ↔ (s.release t r d).holders r = 0 := by
    have hlt : (s.release t r d).holders r < UInt32.size := by
      change _ < 2 ^ 32
      omega
    rw [hcount, ← UInt32.toNat_inj, UInt32.toNat_ofNat_of_lt' hlt]
    rfl
  have hnot := h.not_disposes hd (hserial ▸ hpos)
  -- `t` disposes of the device at the address of the reference or of none
  have hself : ∀ u, ((s.release t r d).pc u).Disposes r.addr ↔ u = t ∧ d.mRef - 1 = 0 := by
    intro u
    change (Function.update s.pc t _ u).Disposes r.addr ↔ _
    by_cases hu : u = t
    · rw [hu, Function.update_self]
      split_ifs with hz
      · exact iff_of_true rfl ⟨rfl, hz⟩
      · exact iff_of_false id fun h ↦ hz h.2
    · rw [Function.update_of_ne hu]
      exact iff_of_false (hnot u) fun h ↦ hu h.1
  refine h.write (a := r.addr) (y := { d with mRef := d.mRef - 1 }) rfl
    (fun e he ↦ show e.serial = d.serial by rw [Option.some.inj (he.symm.trans hd)])
    (fun r' hr' ↦ holders_hold_of_ne _ (hserial ▸ hr')) ?_ ?_ (fun u b hb ↦ ?_) ?_ ?_
  · change _ = UInt32.ofNat ((s.release t r d).holders ⟨r.addr, d.serial⟩)
    rw [← hserial]
    exact hcount
  · change (s.release t r d).holders ⟨r.addr, d.serial⟩ ≤ _
    rw [← hserial]
    omega
  · refine disposes_goto rfl ?_ u
    rw [ht]
    split
    · exact iff_of_false hb id
    · exact Iff.rfl
  · change _ ↔ (s.release t r d).holders ⟨r.addr, d.serial⟩ = 0
    rw [← hserial]
    simp only [hself]
    exact ⟨fun ⟨_, _, hz⟩ ↦ hlast.mp hz, fun hz ↦ ⟨t, rfl, hlast.mpr hz⟩⟩
  · intro u v hu hv
    rw [((hself u).mp hu).1, ((hself v).mp hv).1]

/-- `dispose` deletes a device nobody has a reference to. -/
theorem erase (h : s.Counted) (hlist : s.Listed) (ht : s.pc t = .erasing a) :
    (s.erase t a).Counted := by
  have hta : (s.pc t).Disposes a := by rw [ht]; rfl
  obtain ⟨d, hd, hzero⟩ := h.disposal t a hta
  have hmem : a ∈ s.sDeviceList := (hlist.listed a).mpr (by rw [DeviceTable.ids, hd]; rfl)
  rw [DeviceTable.erase, if_pos hmem]
  have hpc : ∀ u b, (Function.update s.pc t .leaving u).Disposes b ↔
      u ≠ t ∧ (s.pc u).Disposes b := by
    intro u b
    by_cases hu : u = t
    · rw [hu, Function.update_self]
      exact iff_of_false id fun h ↦ h.1 rfl
    · rw [Function.update_of_ne hu]
      exact ⟨fun h ↦ ⟨hu, h⟩, fun h ↦ h.2⟩
  refine ⟨fun r hr ↦ ?_, fun b e he ↦ ?_, h.bound, fun u b hu ↦ ?_, fun u v b hu hv ↦ ?_,
    fun b e he hzero' ↦ ?_⟩
  · change 0 < s.holders r at hr
    obtain ⟨e, he, hes⟩ := h.held r hr
    refine ⟨e, ?_, hes⟩
    change Function.update s.heap a none r.addr = some e
    rw [Function.update_of_ne, he]
    rintro rfl
    obtain rfl : d = e := Option.some.inj (hd.symm.trans he)
    rw [hes] at hzero
    exact hr.ne' hzero
  · change Function.update s.heap a none b = some e at he
    rw [Function.update_apply] at he
    split at he
    · cases he
    · exact h.count b e he
  · obtain ⟨hut, hub⟩ := (hpc u b).mp hu
    obtain ⟨e, he, hz⟩ := h.disposal u b hub
    refine ⟨e, ?_, hz⟩
    change Function.update s.heap a none b = some e
    rw [Function.update_of_ne, he]
    rintro rfl
    exact hut (h.unique u t b hub hta)
  · exact h.unique u v b ((hpc u b).mp hu).2 ((hpc v b).mp hv).2
  · change Function.update s.heap a none b = some e at he
    rw [Function.update_apply] at he
    split at he
    · cases he
    · rename_i hb
      obtain ⟨u, hu⟩ := h.last b e he hzero'
      refine ⟨u, (hpc u b).mpr ⟨?_, hu⟩⟩
      rintro rfl
      rw [ht] at hu
      exact hb hu

end Counted

end DeviceTable

/-- The device a thread is about to call `AddRef` on in `GetById`. -/
def DeviceTable.target (s : DeviceTable γ θ) (t : θ) : Option (SharedDevice γ) :=
  match s.pc t with
  | .adding a => s.heap a
  | _ => none

/-- `GetById` adds a reference only to a device whose count is not zero: no `Release`
has brought it down without having got to the list yet. -/
def DeviceOp.Live (s : DeviceTable γ θ) : DeviceOp γ θ → Prop
  | addRef t => ∀ d ∈ s.target t, d.mRef ≠ 0
  | _ => True

omit [DecidableEq θ] in
theorem DeviceTable.counted_empty : (empty : DeviceTable γ θ).Counted where
  held r hr := by simp [holders, empty] at hr
  count := nofun
  bound r := by simp [holders, empty]
  disposal _ _ := False.elim
  unique _ _ _ := False.elim
  last := nofun

/-- **Step lemma** of the counts. -/
theorem DeviceStep.counted [DecidableEq γ] (hlist : s.Listed) (h : s.Counted) (hlive : op.Live s)
    (hs : DeviceStep s op s') : s'.Counted := by
  cases hs with
  | getById hp _ | found hp _ | missing hp _ | createFail hp | unlock hp | lockDispose hp _ =>
      exact h.moved rfl rfl fun u b ↦
        DeviceTable.Counted.disposes_goto rfl (by rw [hp]; exact Iff.rfl) u
  | addRef hp hd => exact h.addRef hp hd (hlive _ (by rw [DeviceTable.target, hp]; exact hd))
  | create hp free => exact h.create hp free
  | release idle holds hd => exact h.release idle holds hd
  | erase hp => exact h.erase hlist hp
  | @pass t t' r idle holds =>
      refine h.moved rfl ?_ fun u b ↦ Iff.rfl
      have hgive := DeviceTable.holders_hold (s := s) (t := t) r (s.held t r - 1)
      have htake := DeviceTable.holders_hold (s := s.hold t r (s.held t r - 1)) (t := t') r
        ((s.hold t r (s.held t r - 1)).held t' r + 1)
      funext r'
      by_cases hr : r' = r
      · rw [hr]
        omega
      · rw [DeviceTable.holders_hold_of_ne _ hr, DeviceTable.holders_hold_of_ne _ hr]

/-! ## Runs -/

section Runs

variable [DecidableEq γ]

omit [Fintype θ] in
/-- **Run lemma** of the list: in every run the list has the devices in memory. -/
theorem listed_of_reachable (h : Reachable DeviceStep (· = .empty) s) : s.Listed :=
  h.invariant (P := DeviceTable.Listed) (fun _ hs ↦ hs ▸ DeviceTable.listed_empty)
    fun _ _ _ hl hs ↦ hs.listed hl

/-- **Run lemma** of the counts. -/
theorem counted_of_reachable
    (h : Reachable (guarded DeviceOp.Live DeviceStep) (· = .empty) s) : s.Counted :=
  h.invariant_of (Q := DeviceTable.Listed) (fun _ hr ↦ listed_of_reachable hr.of_guarded)
    (fun _ hs ↦ hs ▸ DeviceTable.counted_empty) fun _ _ _ hl hc hs ↦ hs.2.counted hl hc hs.1

/-- The guarantees of sharing in a state. -/
structure DeviceTable.Safe (s : DeviceTable γ θ) : Prop where
  /-- A reference is held to a device that has not been deleted. -/
  held_alive : ∀ t r, 0 < s.held t r → ∃ d, s.heap r.addr = some d ∧ d.serial = r.serial
  /-- No device is deleted twice. -/
  deleted_nodup : s.deleted.Nodup
  /-- A device is in memory until it is deleted, and only until then. -/
  deleted_iff : ∀ n, n < s.created → (n ∉ s.deleted ↔ ∃ a d, s.heap a = some d ∧ d.serial = n)
  /-- When no call is in progress, a device nobody has a reference to has been
  deleted. -/
  deleted_unheld : (∀ t, s.pc t = .idle) →
    ∀ a d, s.heap a = some d → ∃ t, 0 < s.held t ⟨a, d.serial⟩
  /-- The list has no two devices with one id. -/
  ids_nodup : (s.sDeviceList.map s.ids).Nodup

omit [DecidableEq γ] [DecidableEq θ] [Fintype θ] in
theorem DeviceTable.Listed.ids_nodup (h : s.Listed) : (s.sDeviceList.map s.ids).Nodup := by
  refine (List.nodup_map_iff_inj_on h.nodup).mpr fun a ha b _ hab ↦ ?_
  obtain ⟨id, hid⟩ := Option.isSome_iff_exists.mp ((h.listed a).mp ha)
  exact h.ids a b id hid (hab ▸ hid)

omit [DecidableEq γ] [DecidableEq θ] in
/-- The two invariants are the guarantees. -/
theorem DeviceTable.Counted.safe (hl : s.Listed) (h : s.Counted) : s.Safe where
  held_alive t r hr := h.held r (hr.trans_le (held_le_holders s t r))
  deleted_nodup := hl.census.once
  deleted_iff n hn := by
    have := hl.census.alive_iff (n := n) hn
    simpa [DeviceTable.census] using this
  deleted_unheld hidle a d hd := by
    by_contra hnone
    have hzero : s.holders ⟨a, d.serial⟩ = 0 :=
      Finset.sum_eq_zero fun t _ ↦ Nat.eq_zero_of_not_pos fun ht ↦ hnone ⟨t, ht⟩
    obtain ⟨t, ht⟩ := h.last a d hd hzero
    rw [hidle t] at ht
    exact ht
  ids_nodup := hl.ids_nodup

/-- **Sharing is safe while no count is revived.**  In every run, of any number of
threads, whose `GetById` calls never add a reference to a device with a count of
zero, every state keeps the guarantees. -/
theorem device_sharing_safe (h : Reachable (guarded DeviceOp.Live DeviceStep) (· = .empty) s) :
    s.Safe := (counted_of_reachable h).safe (listed_of_reachable h.of_guarded)

/-- Two threads share a device and both release it. -/
theorem device_sharing_safe_two : ∃ s : DeviceTable ℕ Bool,
    s.created = 1 ∧ s.deleted = [0] ∧ s.Safe := by
  have h0 : Reachable (guarded DeviceOp.Live DeviceStep)
      (· = (.empty : DeviceTable ℕ Bool)) _ := .init rfl
  have h1 := h0.step (i := DeviceOp.getById true 7) ⟨trivial, .getById rfl rfl⟩
  have h2 := h1.step (i := DeviceOp.find true) ⟨trivial, .missing rfl rfl⟩
  have h3 := h2.step (i := DeviceOp.create true 64) ⟨trivial, .create rfl rfl⟩
  have h4 := h3.step (i := DeviceOp.unlock true) ⟨trivial, .unlock rfl⟩
  have h5 := h4.step (i := DeviceOp.getById false 7) ⟨trivial, .getById rfl rfl⟩
  have h6 := h5.step (i := DeviceOp.find false) ⟨trivial, .found rfl rfl⟩
  have h7 := h6.step (i := DeviceOp.addRef false)
    ⟨fun d hd ↦ Option.some.inj hd ▸ by decide, .addRef rfl rfl⟩
  have h8 := h7.step (i := DeviceOp.unlock false) ⟨trivial, .unlock rfl⟩
  have h9 := h8.step (i := DeviceOp.release true ⟨64, 0⟩) ⟨trivial, .release rfl (by decide) rfl⟩
  have h10 := h9.step (i := DeviceOp.release false ⟨64, 0⟩) ⟨trivial, .release rfl (by decide) rfl⟩
  have h11 := h10.step (i := DeviceOp.lockDispose false) ⟨trivial, .lockDispose rfl rfl⟩
  have h12 := h11.step (i := DeviceOp.erase false) ⟨trivial, .erase rfl⟩
  exact ⟨_, rfl, rfl, device_sharing_safe h12⟩

end Runs

/-! ## What a revived count does -/

/-- One thread releases the last reference; before it gets to the list another finds
the device there, and is left with a reference to a deleted device. -/
theorem device_sharing_race : ∃ s : DeviceTable ℕ Bool,
    Reachable DeviceStep (· = .empty) s ∧ s.held false ⟨64, 0⟩ = 1 ∧ s.heap 64 = none ∧
      ¬ s.Safe := by
  have h0 : Reachable DeviceStep (· = (.empty : DeviceTable ℕ Bool)) _ := .init rfl
  have h1 := h0.step (i := DeviceOp.getById true 7) (.getById rfl rfl)
  have h2 := h1.step (i := DeviceOp.find true) (.missing rfl rfl)
  have h3 := h2.step (i := DeviceOp.create true 64) (.create rfl rfl)
  have h4 := h3.step (i := DeviceOp.unlock true) (.unlock rfl)
  have h5 := h4.step (i := DeviceOp.release true ⟨64, 0⟩) (.release rfl (by decide) rfl)
  have h6 := h5.step (i := DeviceOp.getById false 7) (.getById rfl rfl)
  have h7 := h6.step (i := DeviceOp.find false) (.found rfl rfl)
  have h8 := h7.step (i := DeviceOp.addRef false) (.addRef rfl rfl)
  have h9 := h8.step (i := DeviceOp.unlock false) (.unlock rfl)
  have h10 := h9.step (i := DeviceOp.lockDispose true) (.lockDispose rfl rfl)
  have h11 := h10.step (i := DeviceOp.erase true) (.erase rfl)
  refine ⟨_, h11, by decide, by decide, fun hsafe ↦ ?_⟩
  obtain ⟨d, hd, -⟩ := hsafe.held_alive false ⟨64, 0⟩ (by decide)
  cases hd

end Dsoal
