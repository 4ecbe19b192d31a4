import Dsoal.Core.Factory
import Dsoal.Lib.Tally
import Dsoal.Lib.Transition

/-!
# What the client is given

The functions that create objects construct one with a reference of their own, which they hand on
or release.  Whatever the client calls, the counters of an object are the references that the
client has, an object lives as long as there is one, and a call that fails changes nothing.  The
counters are machine words, and nothing stops them at their greatest value: the client must not
have as many references to one object (`ComWorld.Fits`).
-/

namespace Dsoal

open TransitionSystem

variable {w w' : ComWorld} {o o' : ExportedObject} {a b : ℕ} {i j : Iface} {hr : ComResult}
  {held held' : Iface → ℕ} {c : ComCall}

namespace ExportedObject

/-- The counters are those of the references in `held`. -/
structure Counts (o : ExportedObject) (held : Iface → ℕ) : Prop where
  total : o.mTotalRef.toNat = ∑ i, held i
  each : ∀ i, (o.mRef i).toNat = held (some i)

/-- The references of one interface are among all of them. -/
theorem Counts.each_le (h : o.Counts held) (i : RefCounter) :
    (o.mRef i).toNat ≤ o.mTotalRef.toNat := by
  rw [h.each, h.total]
  exact Finset.single_le_sum (fun _ _ ↦ Nat.zero_le _) (Finset.mem_univ (some i))

theorem Counts.mTotalRef_ne_zero (h : o.Counts held) (hpos : 0 < held i) : o.mTotalRef ≠ 0 := by
  intro h0
  have hle : held i ≤ ∑ j, held j :=
    Finset.single_le_sum (fun _ _ ↦ Nat.zero_le _) (Finset.mem_univ i)
  have htotal := h.total
  rw [h0, UInt32.toNat_zero] at htotal
  omega

theorem Counts.mRef_ne_zero (h : o.Counts held) {i : RefCounter} (hpos : 0 < held (some i)) :
    o.mRef i ≠ 0 := by
  intro h0
  rw [← h.each i, h0] at hpos
  exact absurd hpos (by decide)

/-- One more reference, if there is room for it. -/
theorem Counts.addRef (h : o.Counts held) (i : Iface) (hfits : ∑ j, held j + 1 < 2 ^ 32) :
    (o.addRef i).Counts (Function.update held i (held i + 1)) := by
  have hsum := Tally.sum_update_add (Finset.mem_univ i) held (held i + 1) id
  simp only [id_eq] at hsum
  have htotal := h.total
  have hadd : (o.mTotalRef + 1).toNat = o.mTotalRef.toNat + 1 :=
    Tally.toNat_add_one_of_lt (by omega)
  cases i with
  | none =>
      refine ⟨?_, fun j ↦ ?_⟩
      · simp only [ExportedObject.addRef]
        omega
      · simp [h.each, ExportedObject.addRef]
  | some i =>
      have hle := h.each_le i
      refine ⟨?_, fun j ↦ ?_⟩
      · simp only [ExportedObject.addRef]
        omega
      · simp only [ExportedObject.addRef]
        by_cases hj : j = i
        · rw [hj, Function.update_self, Function.update_self, ← h.each]
          exact Tally.toNat_add_one_of_lt (by omega)
        · rw [Function.update_of_ne hj, Function.update_of_ne (by simpa using hj), h.each]

/-- One reference less: without another, the object deletes itself. -/
theorem Counts.release (h : o.Counts held) (hpos : 0 < held i)
    (hheld : held' = Function.update held i (held i - 1)) :
    (o.release i = none ∧ ∀ j, held' j = 0) ∨
      ∃ o', o.release i = some o' ∧ o'.Counts held' ∧ o'.mTotalRef ≠ 0 := by
  have hsum := Tally.sum_update_add (Finset.mem_univ i) held (held i - 1) id
  simp only [id_eq, ← hheld] at hsum
  have htotal := h.total
  have hzero : o.mTotalRef = 1 → ∀ j, held' j = 0 := fun hone j ↦ by
    rw [hone, UInt32.toNat_one] at htotal
    exact Finset.sum_eq_zero_iff.mp (by omega) j (Finset.mem_univ j)
  have hsub := Tally.toNat_sub_one (h.mTotalRef_ne_zero hpos)
  cases i with
  | none =>
      by_cases hone : o.mTotalRef = 1
      · exact .inl ⟨by simp [ExportedObject.release, hone], hzero hone⟩
      · have hleft := Tally.sub_one_ne_zero hone
        refine .inr ⟨_, if_neg hleft, ⟨?_, fun j ↦ ?_⟩, hleft⟩
        · dsimp only
          omega
        · simp [hheld, h.each]
  | some i =>
      by_cases hone : o.mTotalRef = 1
      · exact .inl ⟨by simp [ExportedObject.release, hone], hzero hone⟩
      · refine .inr ⟨_, if_neg hone, ⟨?_, fun j ↦ ?_⟩, Tally.sub_one_ne_zero hone⟩
        · dsimp only
          omega
        · dsimp only
          rw [hheld]
          by_cases hj : j = i
          · have hcount := Tally.toNat_sub_one (h.mRef_ne_zero hpos)
            rw [hj, Function.update_self, Function.update_self, ← h.each]
            omega
          · rw [Function.update_of_ne hj, Function.update_of_ne (by simpa using hj), h.each]

/-- The reference an object is constructed with. -/
theorem counts_construct (kind : ExportedKind) (object : Option FactoryObject) :
    (construct kind object).Counts (Function.update (fun _ ↦ 0) kind.primary 1) := by
  have hsum := Tally.sum_update_add (Finset.mem_univ kind.primary) (fun _ : Iface ↦ 0) 1 id
  simp only [id_eq, Finset.sum_const_zero] at hsum
  refine ⟨?_, fun i ↦ ?_⟩
  · simp only [construct, UInt32.toNat_one]
    omega
  · simp only [construct, Function.update_apply, eq_comm]
    split_ifs <;> rfl

/-- Releasing it. -/
theorem release_construct (kind : ExportedKind) (object : Option FactoryObject) :
    (construct kind object).release kind.primary = none := by
  cases h : kind.primary <;> simp [construct, release]

@[simp] theorem construct_kind (kind : ExportedKind) (object : Option FactoryObject) :
    (construct kind object).kind = kind := rfl

@[simp] theorem construct_mTotalRef (kind : ExportedKind) (object : Option FactoryObject) :
    (construct kind object).mTotalRef = 1 := rfl

/-- Releasing it after another reference has been added. -/
theorem release_addRef_construct (kind : ExportedKind) (object : Option FactoryObject)
    (j : Iface) :
    ∃ o, ((construct kind object).addRef j).release kind.primary = some o ∧
      o.Counts (Function.update (fun _ ↦ 0) j 1) ∧ o.mTotalRef ≠ 0 := by
  have hconstruct := counts_construct kind object
  have hcounts := hconstruct.addRef j (by
    rw [← hconstruct.total, construct_mTotalRef]
    decide)
  set held := Function.update (Function.update (fun _ ↦ 0) kind.primary 1) j
    (Function.update (fun _ ↦ 0) kind.primary 1 j + 1) with hheld
  have hpos : 0 < held kind.primary := by
    by_cases h : kind.primary = j <;> simp [hheld, h]
  have hone : Function.update (fun _ : Iface ↦ 0) j 1 =
      Function.update held kind.primary (held kind.primary - 1) := by
    funext k
    by_cases hk : k = kind.primary
    · rw [hk, Function.update_self]
      by_cases hj : kind.primary = j
      · simp [hheld, hj]
      · simp [hheld, hj, Function.update_of_ne]
    · rw [Function.update_of_ne hk]
      by_cases hj : k = j
      · rw [← hj] at hheld ⊢
        simp [hheld, Function.update_of_ne hk]
      · simp [hheld, Function.update_of_ne hj, Function.update_of_ne hk]
  obtain ⟨-, hnone⟩ | hsome := hcounts.release hpos hone
  · exact absurd (hnone j) (by simp)
  · exact hsome

end ExportedObject

/-- What `Create` of a class does. -/
theorem ClassId.exists_construct (clsid : ClassId) :
    ∃ kind object, clsid.construct = .construct kind object := by
  cases clsid with
  | object clsid => exact ⟨_, _, rfl⟩
  | directSoundPrivate => exact ⟨_, _, rfl⟩

namespace ComWorld

/-! ## The invariant -/

/-- An address has an object which counts the references that the client has, or there are none. -/
def Accounted (o : Option ExportedObject) (held : Iface → ℕ) : Prop :=
  match o with
  | none => ∀ i, held i = 0
  | some o => o.Counts held ∧ o.mTotalRef ≠ 0

/-- Every address is accounted for. -/
def Ok (w : ComWorld) : Prop := ∀ a, Accounted (w.objects a) (w.client a)

/-- What happens at one address. -/
theorem Ok.update (h : w.Ok) (hhere : Accounted (w'.objects a) (w'.client a))
    (hobjects : ∀ b, b ≠ a → w'.objects b = w.objects b)
    (hclient : ∀ b, b ≠ a → w'.client b = w.client b) : w'.Ok := by
  intro b
  by_cases hb : b = a
  · rw [hb]
    exact hhere
  · rw [hobjects b hb, hclient b hb]
    exact h b

theorem Accounted.held_eq_zero (h : Accounted none held) : held = fun _ ↦ 0 := funext h

/-- A reference that the client has is to an object. -/
theorem Ok.object (h : w.Ok) (hpos : 0 < w.client a i) :
    ∃ o, w.objects a = some o ∧ o.Counts (w.client a) := by
  have ha := h a
  cases ho : w.objects a with
  | none =>
      rw [ho] at ha
      exact absurd (ha i) hpos.ne'
  | some o =>
      rw [ho] at ha
      exact ⟨o, rfl, ha.1⟩

/-! ## Giving and taking references -/

/-- An object is given a reference to, which it has counted. -/
theorem Ok.give (h : w.Ok) (ho : o.Counts (w.client a)) (hfits : ∑ j, w.client a j + 1 < 2 ^ 32) :
    ((w.setObject a (some (o.addRef i))).give a i).Ok := by
  refine h.update (a := a) ?_ (fun b hb ↦ Function.update_of_ne hb _ _)
    fun b hb ↦ Function.update_of_ne hb _ _
  have hobject : ((w.setObject a (some (o.addRef i))).give a i).objects a = some (o.addRef i) :=
    Function.update_self ..
  have hclient : ((w.setObject a (some (o.addRef i))).give a i).client a =
      Function.update (w.client a) i (w.client a i + 1) := Function.update_self ..
  rw [hobject, hclient]
  have hadd := ho.addRef i hfits
  refine ⟨hadd, hadd.mTotalRef_ne_zero (i := i) ?_⟩
  rw [Function.update_self]
  exact Nat.succ_pos _

/-- A reference that is released. -/
theorem Ok.take (h : w.Ok) (hpos : 0 < w.client a i) (ho : o.Counts (w.client a)) :
    ((w.setObject a (o.release i)).take a i).Ok := by
  refine h.update (a := a) ?_ (fun b hb ↦ Function.update_of_ne hb _ _)
    fun b hb ↦ Function.update_of_ne hb _ _
  have hobject : ((w.setObject a (o.release i)).take a i).objects a = o.release i :=
    Function.update_self ..
  have hclient : ((w.setObject a (o.release i)).take a i).client a =
      Function.update (w.client a) i (w.client a i - 1) := Function.update_self ..
  rw [hobject, hclient]
  obtain ⟨hnone, hzero⟩ | ⟨o', hsome, hcounts, htotal⟩ := ho.release hpos rfl
  · rw [hnone]
    exact hzero
  · rw [hsome]
    exact ⟨hcounts, htotal⟩

/-- A new object whose only reference the client is given. -/
theorem Ok.giveNew (h : w.Ok) (hfree : w.objects a = none) (kind : ExportedKind)
    (object : Option FactoryObject) :
    ((w.setObject a (some (.construct kind object))).give a kind.primary).Ok := by
  refine h.update (a := a) ?_ (fun b hb ↦ Function.update_of_ne hb _ _)
    fun b hb ↦ Function.update_of_ne hb _ _
  have hzero : w.client a = fun _ ↦ 0 := Accounted.held_eq_zero (hfree ▸ h a)
  have hobject : ((w.setObject a (some (.construct kind object))).give a kind.primary).objects a =
      some (.construct kind object) := Function.update_self ..
  have hclient : ((w.setObject a (some (.construct kind object))).give a kind.primary).client a =
      Function.update (w.client a) kind.primary (w.client a kind.primary + 1) :=
    Function.update_self ..
  rw [hobject, hclient, hzero]
  exact ⟨ExportedObject.counts_construct kind object, by simp⟩

/-- A new object that the client is given another reference to than it was constructed with. -/
theorem Ok.giveQueried (h : w.Ok) (hfree : w.objects a = none) (clsid : ClassId) (j : Iface) :
    ((w.setObject a
      ((clsid.construct.addRef j).release clsid.construct.kind.primary)).give a j).Ok := by
  obtain ⟨kind, object, hnew⟩ := clsid.exists_construct
  rw [hnew, ExportedObject.construct_kind]
  obtain ⟨o, hrelease, ho, htotal⟩ := ExportedObject.release_addRef_construct kind object j
  have hzero : w.client a = fun _ ↦ 0 := Accounted.held_eq_zero (hfree ▸ h a)
  rw [hrelease]
  refine h.update (a := a) ?_ (fun b hb ↦ Function.update_of_ne hb _ _)
    fun b hb ↦ Function.update_of_ne hb _ _
  have hobject : ((w.setObject a (some o)).give a j).objects a = some o := Function.update_self ..
  have hclient : ((w.setObject a (some o)).give a j).client a =
      Function.update (w.client a) j (w.client a j + 1) := Function.update_self ..
  rw [hobject, hclient, hzero]
  exact ⟨ho, htotal⟩

/-! ## What the calls do -/

theorem setObject_setObject (w : ComWorld) (a : ℕ) (x y : Option ExportedObject) :
    (w.setObject a x).setObject a y = w.setObject a y := by
  simp [setObject]

/-- An object that is deleted again. -/
theorem setObject_none (h : w.objects a = none) : w.setObject a none = w := by
  simp only [setObject, ← h, Function.update_eq_self]

/-- The object at an address. -/
theorem objects_setObject (w : ComWorld) (a : ℕ) (x : Option ExportedObject) :
    (w.setObject a x).objects a = x := Function.update_self ..

/-- The last reference of an object that has just been constructed. -/
theorem releaseAt_construct (hfree : w.objects a = none) (kind : ExportedKind)
    (object : Option FactoryObject) :
    (w.setObject a (some (.construct kind object))).releaseAt a kind.primary = some w := by
  simp only [releaseAt, objects_setObject, Option.bind_eq_bind, Option.bind_some,
    ExportedObject.release_construct, setObject_setObject, setObject_none hfree]

/-- An object is released after it has been given a reference to. -/
theorem releaseAt_give (w : ComWorld) (a : ℕ) (j : Iface) (o : ExportedObject) (i : Iface) :
    ((w.setObject a (some o)).give a j).releaseAt a i =
      some ((w.setObject a (o.release i)).give a j) := by
  have hobject : ((w.setObject a (some o)).give a j).objects a = some o := Function.update_self ..
  simp only [releaseAt, hobject, Option.bind_eq_bind, Option.bind_some]
  simp only [setObject, give, Function.update_idem]

/-- `QueryInterface` gives a reference, or changes nothing. -/
theorem queryInterfaceAt_cases {riid : Riid} {ppvObject : Bool} (ho : w.objects a = some o)
    (h : w.queryInterfaceAt a riid ppvObject = some (hr, w')) :
    (hr ≠ .ok ∧ w' = w) ∨
      (hr = .ok ∧ ∃ j, w' = (w.setObject a (some (o.addRef j))).give a j) := by
  simp only [queryInterfaceAt, ho, Option.bind_eq_bind, Option.bind_some] at h
  split at h
  · cases h
    exact .inl ⟨nofun, rfl⟩
  · split at h
    · cases h
      exact .inl ⟨nofun, rfl⟩
    · simp only [addRefAt, ho, Option.bind_eq_bind, Option.bind_some] at h
      cases h
      exact .inr ⟨rfl, _, rfl⟩

/-- The exported functions that initialize give the reference of a new object, or change
nothing. -/
theorem create_cases [Abi] {f : CreateFunction} {ds outer : Bool} {addr : Option ℕ}
    (hfree : ∀ a' ∈ addr, (w.objects a').isNone)
    (h : w.create f ds outer addr = some (hr, w')) :
    (hr ≠ .ok ∧ w' = w) ∨
      (hr = .ok ∧ ∃ a kind object, w.objects a = none ∧
        w' = (w.setObject a (some (.construct kind object))).give a kind.primary) := by
  unfold create at h
  split at h
  · cases h
    exact .inl ⟨nofun, rfl⟩
  · split at h
    · cases h
      exact .inl ⟨nofun, rfl⟩
    · split at h
      · cases h
        exact .inl ⟨nofun, rfl⟩
      · rename_i a
        have hfree := Option.isNone_iff_eq_none.mp (hfree a rfl)
        obtain ⟨⟨hr', object⟩, -, h⟩ := Option.bind_eq_some_iff.mp h
        dsimp only at h
        split at h
        · cases h
          exact .inr ⟨rfl, a, _, _, hfree, rfl⟩
        · rename_i hfailed
          rw [show (ExportedObject.construct f.create.kind (some object)).kind = f.create.kind
            from rfl, releaseAt_construct hfree] at h
          cases h
          refine .inl ⟨fun heq ↦ hfailed ?_, rfl⟩
          rw [ComResult.ds.inj heq]
          rfl

/-- `CreateInstance` gives a reference to a new object which has no other, or changes nothing. -/
theorem createInstance_cases {clsid : ClassId} {unkOuter ppvObject : Bool} {riid : Riid}
    {addr : Option ℕ} (hfree : ∀ a' ∈ addr, (w.objects a').isNone)
    (h : w.createInstance clsid unkOuter riid ppvObject addr = some (hr, w')) :
    (hr ≠ .ok ∧ w' = w) ∨
      (hr = .ok ∧ ∃ a j, w.objects a = none ∧
        w' = (w.setObject a
          ((clsid.construct.addRef j).release clsid.construct.kind.primary)).give a j) := by
  unfold createInstance at h
  split at h
  · cases h
    exact .inl ⟨nofun, rfl⟩
  · split at h
    · cases h
      exact .inl ⟨nofun, rfl⟩
    · obtain ⟨a, ha, h⟩ := Option.bind_eq_some_iff.mp h
      have hfree := Option.isNone_iff_eq_none.mp (hfree a ha)
      obtain ⟨⟨hr', w₁⟩, hquery, h⟩ := Option.bind_eq_some_iff.mp h
      obtain ⟨w₂, hrelease, h⟩ := Option.bind_eq_some_iff.mp h
      cases h
      obtain ⟨kind, object, hnew⟩ := clsid.exists_construct
      rw [hnew] at hquery hrelease ⊢
      rcases queryInterfaceAt_cases (objects_setObject w a _) hquery with
        ⟨hne, rfl⟩ | ⟨rfl, j, rfl⟩
      · refine .inl ⟨hne, ?_⟩
        exact (Option.some.inj ((releaseAt_construct hfree kind object).symm.trans hrelease)).symm
      · refine .inr ⟨rfl, a, j, hfree, ?_⟩
        rw [setObject_setObject] at hrelease
        exact (Option.some.inj ((releaseAt_give w a j _ kind.primary).symm.trans hrelease)).symm

/-! ## One call -/

/-- `GetClassObject` counts a reference to the factory, or changes nothing. -/
theorem getClassObject_cases {clsid : Option ClassId} {riid : FactoryIid} {ppv : Bool}
    (h : w.getClassObject clsid riid ppv = (hr, w')) :
    (hr ≠ .ok → w' = w) ∧ w'.objects = w.objects ∧ w'.client = w.client := by
  unfold getClassObject at h
  split at h
  · cases h
    exact ⟨fun _ ↦ rfl, rfl, rfl⟩
  · split at h
    · cases h
      exact ⟨fun _ ↦ rfl, rfl, rfl⟩
    · cases h
      refine ⟨fun hne ↦ ?_, rfl, rfl⟩
      simp [factoryCall, AtomicObject.Retry.spec, Factory.counter, hne]

/-- A call that fails changes nothing. -/
theorem exec_failed [Abi] (h : w.exec c = some (hr, w')) (hfailed : hr ≠ .ok) : w' = w := by
  cases c with
  | create f ds outer addr =>
      simp only [exec] at h
      split at h
      · rename_i hfree
        rcases create_cases hfree h with ⟨-, rfl⟩ | ⟨hok, -⟩
        · rfl
        · exact absurd hok hfailed
      · cases h
  | getClassObject clsid riid ppv =>
      exact (getClassObject_cases (Option.some.inj h)).1 hfailed
  | factoryAddRef clsid =>
      cases h
      exact absurd rfl hfailed
  | factoryRelease clsid =>
      cases h
      exact absurd rfl hfailed
  | createInstance clsid unkOuter riid ppvObject addr =>
      simp only [exec] at h
      split at h
      · rename_i hfree
        rcases createInstance_cases hfree h with ⟨-, rfl⟩ | ⟨hok, -⟩
        · rfl
        · exact absurd hok hfailed
      · cases h
  | addRef a i =>
      simp only [exec] at h
      split at h
      · obtain ⟨w₁, -, h⟩ := Option.bind_eq_some_iff.mp h
        cases h
        exact absurd rfl hfailed
      · cases h
  | queryInterface a i riid ppvObject =>
      simp only [exec] at h
      split at h
      · obtain ⟨o, ho, -⟩ := Option.bind_eq_some_iff.mp h
        rcases queryInterfaceAt_cases ho h with ⟨-, rfl⟩ | ⟨hok, -⟩
        · rfl
        · exact absurd hok hfailed
      · cases h
  | release a i =>
      simp only [exec] at h
      split at h
      · obtain ⟨w₁, -, h⟩ := Option.bind_eq_some_iff.mp h
        cases h
        exact absurd rfl hfailed
      · cases h

/-- **Step lemma**: every call keeps the addresses accounted for. -/
theorem Ok.exec [Abi] (hw : w.Ok) (hfits : w.Fits c) (h : w.exec c = some (hr, w')) :
    w'.Ok := by
  cases c with
  | create f ds outer addr =>
      simp only [ComWorld.exec] at h
      split at h
      · rename_i hfree
        rcases create_cases hfree h with ⟨-, rfl⟩ | ⟨-, a, kind, object, hnone, rfl⟩
        · exact hw
        · exact hw.giveNew hnone kind object
      · cases h
  | getClassObject clsid riid ppv =>
      obtain ⟨-, hobjects, hclient⟩ := getClassObject_cases (Option.some.inj h)
      intro a
      rw [hobjects, hclient]
      exact hw a
  | factoryAddRef clsid =>
      cases h
      exact hw
  | factoryRelease clsid =>
      cases h
      exact hw
  | createInstance clsid unkOuter riid ppvObject addr =>
      simp only [ComWorld.exec] at h
      split at h
      · rename_i hfree
        rcases createInstance_cases hfree h with ⟨-, rfl⟩ | ⟨-, a, j, hnone, rfl⟩
        · exact hw
        · exact hw.giveQueried hnone clsid j
      · cases h
  | addRef a i =>
      simp only [ComWorld.exec] at h
      split at h
      · rename_i hpos
        obtain ⟨o, ho, hcounts⟩ := hw.object hpos
        simp only [addRefAt, ho, Option.bind_eq_bind, Option.bind_some] at h
        cases h
        exact hw.give hcounts hfits
      · cases h
  | queryInterface a i riid ppvObject =>
      simp only [ComWorld.exec] at h
      split at h
      · rename_i hpos
        obtain ⟨o, ho, hcounts⟩ := hw.object hpos
        rcases queryInterfaceAt_cases ho h with ⟨-, rfl⟩ | ⟨-, j, rfl⟩
        · exact hw
        · exact hw.give hcounts hfits
      · cases h
  | release a i =>
      simp only [ComWorld.exec] at h
      split at h
      · rename_i hpos
        obtain ⟨o, ho, hcounts⟩ := hw.object hpos
        simp only [releaseAt, ho, Option.bind_eq_bind, Option.bind_some] at h
        cases h
        exact hw.take hpos hcounts
      · cases h

/-! ## Every run -/

/-- **Run lemma**. -/
theorem ok_of_reachable [Abi] (h : Reachable (guarded Fits ComStep) IsNew w) : w.Ok := by
  refine h.invariant ?_ fun _ _ _ hw ⟨hfits, _, hexec⟩ ↦ hw.exec hfits hexec
  rintro _ rfl
  exact fun _ _ ↦ rfl

/-- An object lives exactly as long as the client has a reference to it. -/
theorem Ok.objects_eq_none_iff (h : w.Ok) (a : ℕ) :
    w.objects a = none ↔ ∀ i, w.client a i = 0 := by
  have ha := h a
  constructor
  · intro ho
    rw [ho] at ha
    exact ha
  · intro hzero
    cases ho : w.objects a with
    | none => rfl
    | some o =>
        rw [ho] at ha
        have htotal := ha.1.total
        rw [Finset.sum_eq_zero fun i _ ↦ hzero i] at htotal
        exact absurd (UInt32.toNat_inj.mp htotal) ha.2

/-- **References are balanced**: whatever the client calls, as long as it never has `2 ^ 32`
references to one object, an object that has been created lives as long as the client has a
reference to it, its counters are the references that the client has, and a call that fails
changes neither an object nor a factory. -/
theorem exports_balanced [Abi] (h : Reachable (guarded Fits ComStep) IsNew w) :
    (∀ a, w.objects a = none ↔ ∀ i, w.client a i = 0) ∧
      (∀ a o, w.objects a = some o →
        o.mTotalRef.toNat = ∑ i, w.client a i ∧
          ∀ i, (o.mRef i).toNat = w.client a (some i)) ∧
      ∀ c hr w', w.exec c = some (hr, w') → hr ≠ .ok → w' = w := by
  have hw := ok_of_reachable h
  refine ⟨hw.objects_eq_none_iff, fun a o ho ↦ ?_, fun c hr w' ↦ exec_failed⟩
  have ha := hw a
  rw [ho] at ha
  exact ⟨ha.1.total, ha.1.each⟩

/-- An object that a factory has created is queried once more and then released by its first
reference. -/
theorem exports_balanced_queried : letI : Abi := ⟨⟨600, by decide⟩⟩
    ∃ w, Reachable (guarded Fits ComStep) IsNew w ∧
      w.client 0 (some .mDsRef) = 1 ∧ w.client 0 (some .mUnkRef) = 0 ∧
      (w.objects 0).map (fun o ↦ o.mTotalRef) = some 1 ∧
      ((∀ a, w.objects a = none ↔ ∀ i, w.client a i = 0) ∧
        (∀ a o, w.objects a = some o →
          o.mTotalRef.toNat = ∑ i, w.client a i ∧
            ∀ i, (o.mRef i).toNat = w.client a (some i)) ∧
        ∀ c hr w', w.exec c = some (hr, w') → hr ≠ .ok → w' = w) := by
  let : Abi := ⟨⟨600, by decide⟩⟩
  have h : Reachable (guarded Fits ComStep) IsNew {} := .init rfl
  have h := h.step (i := .createInstance (.object .directSound8) false .iidUnknown true (some 0))
    ⟨by trivial, _, rfl⟩
  have h := h.step (i := .queryInterface 0 (some .mUnkRef) .iidDirectSound8 true)
    ⟨by decide +kernel, _, rfl⟩
  have h := h.step (i := .release 0 (some .mUnkRef)) ⟨by trivial, _, rfl⟩
  exact ⟨_, h, rfl, rfl, rfl, exports_balanced h⟩

end ComWorld

end Dsoal
