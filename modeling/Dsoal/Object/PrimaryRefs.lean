import Dsoal.Object.WriteEmu

/-!
# The references to the primary buffer

The primary buffer counts the references to its three interfaces, and all of them together
in `mTotalRef`.  `Release` of the buffer stops at zero; `Release` of the listener and of the
property set do not.  `AddRef` of the buffer makes it uninitialized when `mTotalRef` is zero,
and `CreateSoundBuffer` initializes it when `mDsRef` was.  What goes wrong, and when, is
`primary_counts`.
-/

namespace Dsoal

open TransitionSystem DSound8OAL

namespace PrimaryBuffer

/-- `mTotalRef` is the number of references to the three interfaces. -/
def Balanced (p : PrimaryBuffer) : Prop := p.mTotalRef = p.mDsRef + p.mDs3dRef + p.mPropRef

/-- A count is lowered when it is zero. -/
def Wraps (n n' : UInt32) : Prop := n = 0 ∧ n' = 0 - 1

/-- One of the counts is lowered when it is zero. -/
def Underflows (p p' : PrimaryBuffer) : Prop :=
  Wraps p.mTotalRef p'.mTotalRef ∨ Wraps p.mDsRef p'.mDsRef ∨ Wraps p.mDs3dRef p'.mDs3dRef ∨
    Wraps p.mPropRef p'.mPropRef

theorem not_wraps_self (n : UInt32) : ¬ Wraps n n := by
  rintro ⟨rfl, h⟩
  exact absurd h (by decide)

theorem not_wraps_add_one (n : UInt32) : ¬ Wraps n (n + 1) := by
  rintro ⟨rfl, h⟩
  exact absurd h (by decide)

theorem wraps_sub_one_iff {n : UInt32} : Wraps n (n - 1) ↔ n = 0 := by
  refine ⟨And.left, ?_⟩
  rintro rfl
  exact ⟨rfl, rfl⟩

variable {p p' : PrimaryBuffer}

theorem Balanced.congr (h : p.Balanced) (hrefs : p'.refs = p.refs) : p'.Balanced := by
  obtain ⟨htotal, hds, hds3d, hprop⟩ : p'.mTotalRef = p.mTotalRef ∧ p'.mDsRef = p.mDsRef ∧
      p'.mDs3dRef = p.mDs3dRef ∧ p'.mPropRef = p.mPropRef := by
    simpa [refs] using hrefs
  rw [Balanced, htotal, hds, hds3d, hprop]
  exact h

theorem underflows_congr {q : PrimaryBuffer} (hrefs : q.refs = p'.refs) :
    p.Underflows q ↔ p.Underflows p' := by
  obtain ⟨htotal, hds, hds3d, hprop⟩ : q.mTotalRef = p'.mTotalRef ∧ q.mDsRef = p'.mDsRef ∧
      q.mDs3dRef = p'.mDs3dRef ∧ q.mPropRef = p'.mPropRef := by
    simpa [refs] using hrefs
  rw [Underflows, Underflows, htotal, hds, hds3d, hprop]

theorem not_underflows_of_refs (hrefs : p'.refs = p.refs) : ¬ p.Underflows p' := by
  rw [underflows_congr hrefs]
  simp [Underflows, not_wraps_self]

/-! ## The six methods -/

theorem Balanced.addRef (h : p.Balanced) : p.addRef.2.Balanced := by
  simp only [Balanced, PrimaryBuffer.addRef] at h ⊢
  rw [h]
  grind

theorem Balanced.listenerAddRef (h : p.Balanced) : p.listenerAddRef.Balanced := by
  simp only [Balanced, PrimaryBuffer.listenerAddRef] at h ⊢
  rw [h]
  grind

theorem Balanced.propAddRef (h : p.Balanced) : p.propAddRef.Balanced := by
  simp only [Balanced, PrimaryBuffer.propAddRef] at h ⊢
  rw [h]
  grind

theorem Balanced.release (h : p.Balanced) : p.release.Balanced := by
  unfold PrimaryBuffer.release
  split_ifs
  · exact h
  · simp only [Balanced] at h ⊢
    rw [h]
    grind

theorem Balanced.listenerRelease (h : p.Balanced) : p.listenerRelease.Balanced := by
  simp only [Balanced, PrimaryBuffer.listenerRelease] at h ⊢
  rw [h]
  grind

theorem Balanced.propRelease (h : p.Balanced) : p.propRelease.Balanced := by
  simp only [Balanced, PrimaryBuffer.propRelease] at h ⊢
  rw [h]
  grind

theorem not_underflows_addRef (p : PrimaryBuffer) : ¬ p.Underflows p.addRef.2 := by
  simp [Underflows, PrimaryBuffer.addRef, not_wraps_self, not_wraps_add_one]

theorem not_underflows_listenerAddRef (p : PrimaryBuffer) : ¬ p.Underflows p.listenerAddRef := by
  simp [Underflows, PrimaryBuffer.listenerAddRef, not_wraps_self, not_wraps_add_one]

theorem not_underflows_propAddRef (p : PrimaryBuffer) : ¬ p.Underflows p.propAddRef := by
  simp [Underflows, PrimaryBuffer.propAddRef, not_wraps_self, not_wraps_add_one]

/-- **`Release`** of the buffer lowers no count that is zero but `mTotalRef`. -/
theorem underflows_release_iff :
    p.Underflows p.release ↔ p.mDsRef ≠ 0 ∧ p.mTotalRef = 0 := by
  unfold PrimaryBuffer.release
  split_ifs with h
  · exact iff_of_false (not_underflows_of_refs rfl) fun hne ↦ hne.1 h
  · simp [Underflows, not_wraps_self, wraps_sub_one_iff, h]

/-- **`Release`** of the listener lowers whatever it finds. -/
theorem underflows_listenerRelease_iff :
    p.Underflows p.listenerRelease ↔ p.mDs3dRef = 0 ∨ p.mTotalRef = 0 := by
  simp [Underflows, PrimaryBuffer.listenerRelease, not_wraps_self, wraps_sub_one_iff, or_comm]

theorem underflows_propRelease_iff :
    p.Underflows p.propRelease ↔ p.mPropRef = 0 ∨ p.mTotalRef = 0 := by
  simp [Underflows, PrimaryBuffer.propRelease, not_wraps_self, wraps_sub_one_iff, or_comm]

/-- A reference that is released again leaves the counts as they were, if it is the first. -/
theorem refs_release_addRef (h : p.mDsRef + 1 = 1) (hrefs : p'.refs = p.addRef.2.refs) :
    p'.release.refs = p.refs := by
  obtain ⟨htotal, hds, hds3d, hprop⟩ : p'.mTotalRef = p.mTotalRef + 1 ∧ p'.mDsRef = p.mDsRef + 1 ∧
      p'.mDs3dRef = p.mDs3dRef ∧ p'.mPropRef = p.mPropRef := by
    simpa [refs, PrimaryBuffer.addRef] using hrefs
  unfold PrimaryBuffer.release
  rw [if_neg (by rw [hds, h]; decide)]
  simp only [refs, htotal, hds, hds3d, hprop, Prod.mk.injEq, and_true]
  constructor <;> grind

end PrimaryBuffer

namespace DSound8OAL

variable {s s' s'' : DSound8OAL} {hr : HResult} {mem : Memory} {flags : UInt32}

/-! ## What leaves the references alone -/

/-- The primary buffer has the same references and the same flags. -/
structure RefsKept (s s' : DSound8OAL) : Prop where
  refs : s'.mPrimaryBuffer.refs = s.mPrimaryBuffer.refs
  flags : s'.mPrimaryBuffer.mFlags = s.mPrimaryBuffer.mFlags

/-- The parameters of the listener are the same as well. -/
structure SettingsKept (s s' : DSound8OAL) : Prop extends s.RefsKept s' where
  immediate : s'.mPrimaryBuffer.mImmediate = s.mPrimaryBuffer.mImmediate
  deferred : s'.mPrimaryBuffer.mDeferred = s.mPrimaryBuffer.mDeferred

theorem SettingsKept.refl (s : DSound8OAL) : s.SettingsKept s := ⟨⟨rfl, rfl⟩, rfl, rfl⟩

theorem SettingsKept.trans (h : s.SettingsKept s') (h' : s'.SettingsKept s'') :
    s.SettingsKept s'' where
  refs := h'.refs.trans h.refs
  flags := h'.flags.trans h.flags
  immediate := h'.immediate.trans h.immediate
  deferred := h'.deferred.trans h.deferred

theorem SamePrimary.settingsKept (h : s.SamePrimary s') : s.SettingsKept s' :=
  ⟨⟨by rw [h.primary], by rw [h.primary]⟩, by rw [h.primary], by rw [h.primary]⟩

theorem PrimaryFrame.refsKept (h : s.PrimaryFrame s') : s.RefsKept s' := ⟨h.refs, h.flags⟩

theorem destroyWriteEmu_refs (hc : s.destroyWriteEmu = some s') :
    s'.mPrimaryBuffer.mWriteEmu = none ∧ s.SettingsKept s' := by
  obtain ⟨hp, -, -⟩ := destroyWriteEmu_eq hc
  exact ⟨by rw [hp], ⟨by rw [hp]; rfl, by rw [hp]⟩, by rw [hp], by rw [hp]⟩

theorem createWriteEmu_refs (hnone : s.mPrimaryBuffer.mWriteEmu = none)
    (hc : s.createWriteEmu flags mem = some (hr, s')) : s.SettingsKept s' := by
  obtain ⟨⟨hp, -, -⟩, -⟩ := createWriteEmu_spec hnone hc
  exact ⟨⟨by rw [hp]; rfl, by rw [hp]⟩, by rw [hp], by rw [hp]⟩

/-- The flags `Initialize` stores. -/
theorem stored_ne_zero (flags : UInt32) :
    (flags &&& ~~~Caps.locSoftware) ||| Caps.locHardware ≠ 0 := by
  intro h
  have hbit := congrArg (fun x : UInt32 ↦ x.toNat.testBit 2) h
  simp [Caps.locHardware] at hbit
  exact absurd hbit.2 (by decide)

/-- **`Initialize`** of the primary buffer leaves the references alone.  It makes the flags
nonzero if it succeeds, and leaves them as they are if it fails. -/
theorem primaryInitialize_refs {desc : Option BufferDesc}
    (hc : s.primaryInitialize desc mem = some (hr, s')) :
    (hr = .ok ∧ s'.mPrimaryBuffer.refs = s.mPrimaryBuffer.refs ∧ s'.mPrimaryBuffer.mFlags ≠ 0) ∨
      (hr ≠ .ok ∧ s.SettingsKept s') := by
  obtain ⟨hfail, rfl, -⟩ | ⟨d, hr₁, s₁, -, -, hs₁, hs'⟩ := primaryInitialize_cases hc
  · exact .inr ⟨hfail, .refl _⟩
  have hkept : s.SettingsKept s₁ := by
    obtain ⟨-, s₀, hdestroy, hcreate⟩ | ⟨-, -, rfl⟩ := hs₁
    · obtain ⟨hnone, hkept⟩ := destroyWriteEmu_refs hdestroy
      exact hkept.trans (createWriteEmu_refs hnone hcreate)
    · exact .refl _
  obtain ⟨hfail, -, rfl⟩ | ⟨hok, -, hset⟩ := hs'
  · exact .inr ⟨hfail, hkept⟩
  · obtain ⟨gs, rfl⟩ := eq_of_setListenerParams hset
    exact .inl ⟨hok, hkept.refs, stored_ne_zero d.dwFlags⟩

theorem setFormat_refs {wfx : Option WaveFormat} (hc : s.setFormat wfx mem = some (hr, s')) :
    s.SettingsKept s' := by
  obtain ⟨rfl, -⟩ | ⟨format, -, ⟨-, rfl⟩ | ⟨-, s₀, hdestroy, hcreate⟩⟩ := setFormat_cases hc
  · exact .refl _
  · exact ⟨⟨rfl, rfl⟩, rfl, rfl⟩
  · obtain ⟨hnone, hkept⟩ := destroyWriteEmu_refs hdestroy
    have hkept : s.SettingsKept s₀ := ⟨⟨hkept.refs, hkept.flags⟩, hkept.immediate, hkept.deferred⟩
    exact hkept.trans (createWriteEmu_refs hnone hcreate)

theorem loseBuffers_primary {ps : List Ptr} (hc : s.loseBuffers ps = some (hr, s')) :
    s'.mPrimaryBuffer = s.mPrimaryBuffer := by
  obtain ⟨gs, rfl⟩ := eq_of_loseBuffers hc
  rfl

theorem enterWritePrimary_refs (hc : s.enterWritePrimary mem = some (hr, s')) :
    s.SettingsKept s' := by
  obtain ⟨s₁, hr₂, s₂, hdestroy, hlose, hs₂⟩ := enterWritePrimary_cases hc
  obtain ⟨hnone, hkept⟩ := destroyWriteEmu_refs hdestroy
  have hlost := loseBuffers_primary hlose
  have hkept₂ : s.SettingsKept s₂ :=
    hkept.trans ⟨⟨by rw [hlost], by rw [hlost]⟩, by rw [hlost], by rw [hlost]⟩
  obtain ⟨-, -, rfl⟩ | ⟨-, -, hcreate⟩ | ⟨-, -, -, rfl⟩ := hs₂
  · exact hkept₂
  · exact hkept₂.trans (createWriteEmu_refs (by rw [hlost, hnone]) hcreate)
  · exact hkept₂

theorem setCooperativeLevel_refs {level : UInt32}
    (hc : s.setCooperativeLevel level mem = some (hr, s')) : s.SettingsKept s' := by
  obtain ⟨rfl, -⟩ | ⟨s₁, rfl, -, -, hs₁⟩ := setCooperativeLevel_cases hc
  · exact .refl _
  have hkept : s.SettingsKept s₁ := by
    obtain ⟨-, henter⟩ | ⟨-, -, hdestroy⟩ | ⟨-, -, rfl⟩ := hs₁
    · exact enterWritePrimary_refs henter
    · exact (destroyWriteEmu_refs hdestroy).2
    · exact .refl _
  split_ifs
  · exact ⟨⟨hkept.refs, hkept.flags⟩, hkept.immediate, hkept.deferred⟩
  · exact hkept

theorem primaryPlay_refs {priority : UInt32} {started : Bool}
    (hc : s.primaryPlay priority flags started = some (hr, s')) :
    s.SettingsKept s' := by
  obtain ⟨-, -, rfl⟩ | ⟨-, -, rfl⟩ | ⟨-, -, -, -, -, -, -, -, rfl⟩ := primaryPlay_cases hc
  all_goals exact ⟨⟨rfl, rfl⟩, rfl, rfl⟩

theorem primaryStop_refs (hc : s.primaryStop = some (hr, s')) :
    s.SettingsKept s' := by
  obtain ⟨-, -, rfl⟩ | ⟨-, -, -, -, -, -, -, -, -, -, rfl⟩ := primaryStop_cases hc
  all_goals exact ⟨⟨rfl, rfl⟩, rfl, rfl⟩

theorem primarySetPan_refs {pan : Int32} (hc : s.primarySetPan pan = some (hr, s')) :
    s.SettingsKept s' := by
  obtain ⟨-, rfl⟩ | ⟨-, -, rfl⟩ | ⟨-, -, -, -, rfl⟩ := primarySetPan_cases hc
  all_goals exact ⟨⟨rfl, rfl⟩, rfl, rfl⟩

/-- Whether an operation is one of the six methods that count references. -/
def countsRefs : PrimaryCall → Bool
  | .addRef | .release | .listenerAddRef | .listenerRelease | .propAddRef | .propRelease => true
  | _ => false

/-- **Every other call** on the primary buffer but `Initialize` leaves the references, the flags
and the parameters alone. -/
theorem primaryCall_kept {c : PrimaryCall} (hcounts : countsRefs c = false)
    (hinit : ∀ desc mem, c ≠ .initializePrimary desc mem)
    (hc : s.primaryCall c = some (hr, s')) : s.SettingsKept s' := by
  cases c with
  | initializePrimary desc mem => exact absurd rfl (hinit desc mem)
  | play priority flags started => exact primaryPlay_refs hc
  | stop => exact primaryStop_refs hc
  | setFormat wfx mem => exact setFormat_refs hc
  | setVolume volume =>
      rw [← show (s.primarySetVolume volume).2 = s' from congrArg Prod.snd (Option.some.inj hc)]
      unfold primarySetVolume
      split_ifs <;> exact ⟨⟨rfl, rfl⟩, rfl, rfl⟩
  | setPan pan => exact primarySetPan_refs hc
  | restore =>
      rw [← show s.primaryRestore.2 = s' from congrArg Prod.snd (Option.some.inj hc)]
      unfold primaryRestore
      split <;> exact ⟨⟨rfl, rfl⟩, rfl, rfl⟩
  | _ => cases hcounts

theorem primaryCall_refs {c : PrimaryCall} (hcounts : countsRefs c = false)
    (hc : s.primaryCall c = some (hr, s')) :
    s'.mPrimaryBuffer.refs = s.mPrimaryBuffer.refs := by
  by_cases hinit : ∃ desc mem, c = .initializePrimary desc mem
  · obtain ⟨desc, mem, rfl⟩ := hinit
    obtain ⟨-, hrefs, -⟩ | ⟨-, hkept⟩ := primaryInitialize_refs hc
    · exact hrefs
    · exact hkept.refs
  · simp only [not_exists] at hinit
    exact (primaryCall_kept hcounts hinit hc).refs

/-! ## Creating the primary buffer -/

/-- `CreateSoundBuffer` comes to the primary buffer. -/
def CreatesPrimary (s : DSound8OAL) (bufferDesc : Option BufferDesc) (dsBuffer outer : Bool) :
    Prop :=
  dsBuffer = true ∧ outer = false ∧ s.mShared.isSome = true ∧ ∃ desc, bufferDesc = some desc ∧
    sizeofBufferDesc1 ≤ desc.dwSize ∧ hasFlag desc.dwFlags Caps.primaryBuffer = true

/-- **`CreateSoundBuffer` of the primary buffer** takes one reference if it succeeds, and none
if it fails. -/
theorem createPrimary_spec {desc : BufferDesc} (hc : s.createPrimary desc mem = some (hr, s')) :
    (hr = .ok ∧ s'.mPrimaryBuffer.refs = s.mPrimaryBuffer.addRef.2.refs ∧
      (s'.mPrimaryBuffer.mFlags = 0 ↔ s.mPrimaryBuffer.mDsRef ≠ 0 ∧
        (s.mPrimaryBuffer.mFlags = 0 ∨ s.mPrimaryBuffer.mTotalRef = 0))) ∨
    (hr ≠ .ok ∧ s'.mPrimaryBuffer.refs = s.mPrimaryBuffer.refs ∧
      s.mPrimaryBuffer.mDsRef = 0) := by
  have hone : s.mPrimaryBuffer.mDsRef + 1 = 1 ↔ s.mPrimaryBuffer.mDsRef = 0 := by
    constructor <;> grind
  obtain ⟨s₁, hfirst, hinit, hs'⟩ | ⟨hnot, rfl, rfl⟩ := createPrimary_cases hc
  · have hzero := hone.mp hfirst.1
    obtain ⟨rfl, hrefs, hflags⟩ | ⟨hne, hkept⟩ := primaryInitialize_refs hinit
    · obtain ⟨hfail, -⟩ | ⟨-, rfl⟩ := hs'
      · exact absurd rfl hfail
      · exact .inl ⟨rfl, hrefs, iff_of_false hflags fun h ↦ h.1 hzero⟩
    · obtain ⟨-, rfl⟩ | ⟨hok, -⟩ := hs'
      · exact .inr ⟨hne, PrimaryBuffer.refs_release_addRef hfirst.1 hkept.refs, hzero⟩
      · exact absurd hok hne
  · refine .inl ⟨rfl, rfl, ?_⟩
    have hadd : s.mPrimaryBuffer.addRef.2.mFlags = 0 ↔
        s.mPrimaryBuffer.mFlags = 0 ∨ s.mPrimaryBuffer.mTotalRef = 0 := by
      by_cases htotal : s.mPrimaryBuffer.mTotalRef = 0 <;>
        simp [PrimaryBuffer.addRef, htotal]
    rw [← hadd]
    refine ⟨fun hflags ↦ ⟨fun hzero ↦ hnot ⟨hone.mpr hzero, hflags⟩, hflags⟩, And.right⟩

theorem createsPrimary_iff {bufferDesc : Option BufferDesc} {dsBuffer outer : Bool} :
    s.CreatesPrimary bufferDesc dsBuffer outer ↔ ∃ desc,
      s.Accepts bufferDesc dsBuffer outer desc ∧ hasFlag desc.dwFlags Caps.primaryBuffer := by
  constructor
  · rintro ⟨hptr, houter, hshared, desc, hdesc, hsize, hflag⟩
    rw [← Option.not_isNone, Bool.not_eq_true'] at hshared
    exact ⟨desc, ⟨hdesc, hptr, houter, UInt32.not_lt.mpr hsize, hshared⟩, hflag⟩
  · rintro ⟨desc, ⟨hdesc, hptr, houter, hsize, hshared⟩, hflag⟩
    refine ⟨hptr, houter, ?_, desc, hdesc, UInt32.not_lt.mp hsize, hflag⟩
    rw [← Option.not_isNone, hshared, Bool.not_false]

/-- `CreateSoundBuffer` returns the primary buffer, or does not come to it. -/
theorem createsPrimary_or_settingsKept [Abi] {bufferDesc : Option BufferDesc}
    {dsBuffer outer : Bool}
    (hc : s.createSoundBuffer bufferDesc dsBuffer outer mem = some (hr, s')) :
    (s.CreatesPrimary bufferDesc dsBuffer outer ∧
      ∃ desc, s.createPrimary desc mem = some (hr, s')) ∨
    (¬ s.CreatesPrimary bufferDesc dsBuffer outer ∧ s.SettingsKept s') := by
  rw [createsPrimary_iff]
  obtain ⟨rfl, -, hreject⟩ | ⟨desc, hacc, ⟨hprimary, hc⟩ | ⟨hprimary, -, p, s₁, hcon, hc⟩⟩ :=
    createSoundBuffer_cases hc
  · refine .inr ⟨?_, .refl _⟩
    rintro ⟨desc, hacc, hprimary⟩
    exact (hreject desc hacc).1 hprimary
  · exact .inl ⟨⟨desc, hacc, hprimary⟩, desc, hc⟩
  · refine .inr ⟨?_, ((SamePrimary.construct hcon).trans
      (SamePrimary.initializeNew hc)).settingsKept⟩
    rintro ⟨desc', hacc', hprimary'⟩
    cases hacc.eq.symm.trans hacc'.eq
    exact hprimary hprimary'

/-- An operation that counts references to the primary buffer, initializes it or returns it. -/
def UsesPrimary (s : DSound8OAL) : Op → Prop
  | .primary (.initializePrimary _ _) => True
  | .primary c => countsRefs c = true
  | .createSoundBuffer desc dsBuffer outer _ => s.CreatesPrimary desc dsBuffer outer
  | _ => False

/-- **Every other operation** leaves the references and the flags alone. -/
theorem exec_refsKept [Abi] {op : Op} (hop : ¬ s.UsesPrimary op) (hc : s.exec op = some (hr, s')) :
    s.RefsKept s' := by
  by_cases hcreate : ∃ desc dsBuffer outer mem, op = .createSoundBuffer desc dsBuffer outer mem
  · obtain ⟨desc, dsBuffer, outer, mem, rfl⟩ := hcreate
    obtain ⟨hprimary, -⟩ | ⟨-, hkept⟩ := createsPrimary_or_settingsKept hc
    · exact absurd hprimary hop
    · exact hkept.toRefsKept
  by_cases hprimary : ∃ c, op = .primary c
  · obtain ⟨c, rfl⟩ := hprimary
    refine (primaryCall_kept ?_ ?_ hc).toRefsKept
    · cases c <;> first | rfl | exact absurd rfl hop
    · rintro desc mem rfl
      exact hop trivial
  by_cases hlevel : ∃ level mem, op = .setCooperativeLevel level mem
  · obtain ⟨level, mem, rfl⟩ := hlevel
    exact (setCooperativeLevel_refs hc).toRefsKept
  simp only [not_exists] at hcreate hprimary hlevel
  exact (PrimaryFrame.exec hc hcreate hlevel hprimary).refsKept

/-! ## The counts in a run -/

/-- A count is lowered that is zero, or `CreateSoundBuffer` succeeds with a primary buffer that
is not initialized. -/
def Fails (s : DSound8OAL) (op : Op) (hr : HResult) (s' : DSound8OAL) : Prop :=
  s.mPrimaryBuffer.Underflows s'.mPrimaryBuffer ∨
    ∃ desc dsBuffer outer mem, op = .createSoundBuffer desc dsBuffer outer mem ∧
      s.CreatesPrimary desc dsBuffer outer ∧ hr = .ok ∧ s'.mPrimaryBuffer.mFlags = 0

/-- `Release` of the listener or of the property set when there is no reference to it;
`CreateSoundBuffer` when there are references to the buffer and it is uninitialized, or is made
so because `mTotalRef` is zero; and any `Release` that lowers `mTotalRef` when it is zero. -/
def Miscounts (s : DSound8OAL) (op : Op) : Prop :=
  match op with
  | .primary .release => s.mPrimaryBuffer.mDsRef ≠ 0 ∧ s.mPrimaryBuffer.mTotalRef = 0
  | .primary .listenerRelease => s.mPrimaryBuffer.mDs3dRef = 0 ∨ s.mPrimaryBuffer.mTotalRef = 0
  | .primary .propRelease => s.mPrimaryBuffer.mPropRef = 0 ∨ s.mPrimaryBuffer.mTotalRef = 0
  | .createSoundBuffer desc dsBuffer outer _ => s.CreatesPrimary desc dsBuffer outer ∧
      s.mPrimaryBuffer.mDsRef ≠ 0 ∧ (s.mPrimaryBuffer.mFlags = 0 ∨ s.mPrimaryBuffer.mTotalRef = 0)
  | _ => False

/-- An operation that leaves the references alone, and is not `CreateSoundBuffer`. -/
theorem fails_iff_of_refs {op : Op} (hrefs : s'.mPrimaryBuffer.refs = s.mPrimaryBuffer.refs)
    (hop : ∀ desc dsBuffer outer mem, op ≠ .createSoundBuffer desc dsBuffer outer mem)
    (hmis : ¬ s.Miscounts op) : s.Fails op hr s' ↔ s.Miscounts op := by
  refine iff_of_false ?_ hmis
  rintro (hunder | ⟨desc, dsBuffer, outer, mem, rfl, -⟩)
  · exact PrimaryBuffer.not_underflows_of_refs hrefs hunder
  · exact hop _ _ _ _ rfl

/-- One of the six methods. -/
theorem fails_iff_of_call {c : PrimaryCall} {P : Prop}
    (h : s.mPrimaryBuffer.Underflows s'.mPrimaryBuffer ↔ P) : s.Fails (.primary c) hr s' ↔ P := by
  rw [← h]
  constructor
  · rintro (hunder | ⟨desc, dsBuffer, outer, mem, hop, -⟩)
    · exact hunder
    · cases hop
  · exact .inl

theorem Miscounts.usesPrimary {op : Op} (h : s.Miscounts op) : s.UsesPrimary op := by
  unfold Miscounts at h
  split at h
  · rfl
  · rfl
  · rfl
  · exact h.1
  · exact h.elim

/-- **A call on the primary buffer** keeps the balance, and lowers a count that is zero if and
only if it miscounts. -/
theorem primaryCall_counts {c : PrimaryCall} (h : s.mPrimaryBuffer.Balanced)
    (hc : s.primaryCall c = some (hr, s')) :
    s'.mPrimaryBuffer.Balanced ∧
      (s.mPrimaryBuffer.Underflows s'.mPrimaryBuffer ↔ s.Miscounts (.primary c)) := by
  cases c with
  | addRef =>
      cases hc
      exact ⟨h.addRef, iff_of_false (PrimaryBuffer.not_underflows_addRef _) id⟩
  | release =>
      cases hc
      exact ⟨h.release, PrimaryBuffer.underflows_release_iff⟩
  | listenerAddRef =>
      cases hc
      exact ⟨h.listenerAddRef, iff_of_false (PrimaryBuffer.not_underflows_listenerAddRef _) id⟩
  | listenerRelease =>
      cases hc
      exact ⟨h.listenerRelease, PrimaryBuffer.underflows_listenerRelease_iff⟩
  | propAddRef =>
      cases hc
      exact ⟨h.propAddRef, iff_of_false (PrimaryBuffer.not_underflows_propAddRef _) id⟩
  | propRelease =>
      cases hc
      exact ⟨h.propRelease, PrimaryBuffer.underflows_propRelease_iff⟩
  | _ =>
      have hrefs := primaryCall_refs rfl hc
      exact ⟨h.congr hrefs, iff_of_false (PrimaryBuffer.not_underflows_of_refs hrefs) id⟩

/-- **`CreateSoundBuffer`** keeps the balance, and lowers no count that is zero. -/
theorem createSoundBuffer_counts [Abi] {desc : Option BufferDesc} {dsBuffer outer : Bool}
    (h : s.mPrimaryBuffer.Balanced)
    (hc : s.createSoundBuffer desc dsBuffer outer mem = some (hr, s')) :
    s'.mPrimaryBuffer.Balanced ∧ ¬ s.mPrimaryBuffer.Underflows s'.mPrimaryBuffer ∧
      (s.CreatesPrimary desc dsBuffer outer → (hr = .ok ∧ s'.mPrimaryBuffer.mFlags = 0 ↔
        s.mPrimaryBuffer.mDsRef ≠ 0 ∧
          (s.mPrimaryBuffer.mFlags = 0 ∨ s.mPrimaryBuffer.mTotalRef = 0))) := by
  obtain ⟨hprimary, desc', hcreate⟩ | ⟨hnot, hkept⟩ := createsPrimary_or_settingsKept hc
  · obtain ⟨rfl, hrefs, hflags⟩ | ⟨hne, hrefs, hzero⟩ := createPrimary_spec hcreate
    · refine ⟨h.addRef.congr hrefs, ?_, fun _ ↦ ?_⟩
      · rw [PrimaryBuffer.underflows_congr hrefs]
        exact PrimaryBuffer.not_underflows_addRef _
      · rw [← hflags]
        exact and_iff_right rfl
    · refine ⟨h.congr hrefs, PrimaryBuffer.not_underflows_of_refs hrefs, fun _ ↦ ?_⟩
      exact iff_of_false (fun hok ↦ hne hok.1) fun hmis ↦ hmis.1 hzero
  · exact ⟨h.congr hkept.refs, PrimaryBuffer.not_underflows_of_refs hkept.refs,
      fun hprimary ↦ absurd hprimary hnot⟩

/-- **Every operation** keeps the balance, and does what is expected unless it miscounts. -/
theorem exec_counts [Abi] {op : Op} (h : s.mPrimaryBuffer.Balanced)
    (hc : s.exec op = some (hr, s')) :
    s'.mPrimaryBuffer.Balanced ∧ (s.Fails op hr s' ↔ s.Miscounts op) := by
  by_cases hcreate : ∃ desc dsBuffer outer mem, op = .createSoundBuffer desc dsBuffer outer mem
  · obtain ⟨desc, dsBuffer, outer, mem, rfl⟩ := hcreate
    obtain ⟨hbalanced, hunder, hflags⟩ := createSoundBuffer_counts h hc
    refine ⟨hbalanced, ?_⟩
    constructor
    · rintro (h' | ⟨desc, dsBuffer, outer, mem, hop, hprimary, hfails⟩)
      · exact absurd h' hunder
      · cases hop
        exact ⟨hprimary, (hflags hprimary).mp hfails⟩
    · rintro ⟨hprimary, hmis⟩
      exact .inr ⟨desc, dsBuffer, outer, mem, rfl, hprimary, (hflags hprimary).mpr hmis⟩
  by_cases hprimary : ∃ c, op = .primary c
  · obtain ⟨c, rfl⟩ := hprimary
    obtain ⟨hbalanced, hunder⟩ := primaryCall_counts h hc
    exact ⟨hbalanced, fails_iff_of_call hunder⟩
  simp only [not_exists] at hcreate hprimary
  have hop : ¬ s.UsesPrimary op := by
    unfold UsesPrimary
    split
    · exact absurd rfl (hprimary _)
    · exact absurd rfl (hprimary _)
    · exact absurd rfl (hcreate _ _ _ _)
    · exact id
  have hrefs := (exec_refsKept hop hc).refs
  exact ⟨h.congr hrefs, fails_iff_of_refs hrefs hcreate fun hmis ↦ hop hmis.usesPrimary⟩

end DSound8OAL

/-- **The counts of the primary buffer.**  In every reachable state `mTotalRef` is the number
of references to the three interfaces, and an operation lowers a count that is zero, or
succeeds with an uninitialized primary buffer, if and only if it miscounts. -/
theorem primary_counts [Abi] {s : DSound8OAL} (h : Reachable DSoundStep DSound8OAL.IsNew s) :
    s.mPrimaryBuffer.Balanced ∧ ∀ op hr s', op.Legal s → s.exec op = some (hr, s') →
      (s.Fails op hr s' ↔ s.Miscounts op) := by
  have hbalanced : s.mPrimaryBuffer.Balanced := by
    refine h.invariant (P := fun t ↦ t.mPrimaryBuffer.Balanced) ?_ ?_
    · rintro t ⟨is8, rfl⟩
      exact show (0 : UInt32) = 0 + 0 + 0 by decide
    · rintro t op t' ht ⟨-, hr, hc⟩
      exact (exec_counts ht hc).1
  exact ⟨hbalanced, fun op hr s' _ hc ↦ (exec_counts hbalanced hc).2⟩

/-- Two interfaces are referenced, and released in the other order. -/
theorem primary_counts_release : letI : Abi := ⟨⟨600, by decide⟩⟩
    ∃ s s' : DSound8OAL, Reachable DSoundStep DSound8OAL.IsNew s ∧
      s.exec (.primary .release) = some (.ok, s') ∧ s.mPrimaryBuffer.mTotalRef = 2 ∧
      ¬ s.Fails (.primary .release) .ok s' := by
  let _ : Abi := ⟨⟨600, by decide⟩⟩
  have h0 : Reachable DSoundStep DSound8OAL.IsNew (DSound8OAL.new true) := .init ⟨true, rfl⟩
  have h1 := h0.step (i := initializeOne) ⟨initializeOne_legal true, _, rfl⟩
  have h2 := h1.step (.of_isSome createPrimary (createPrimary_legal _) (by decide +kernel))
  have h3 := h2.step (i := Op.primary .listenerAddRef) ⟨trivial, _, rfl⟩
  refine ⟨_, _, h3, rfl, by decide +kernel, ?_⟩
  rw [(primary_counts h3).2 (.primary .release) _ _ trivial rfl]
  exact fun hmis ↦ absurd hmis.2 (by decide +kernel)

/-- The listener is released when there is no reference to it, and the primary buffer is created
again. -/
theorem primary_created_uninitialized : letI : Abi := ⟨⟨600, by decide⟩⟩
    ∃ s s₁ s₂ : DSound8OAL, Reachable DSoundStep DSound8OAL.IsNew s ∧
      s.exec (.primary .listenerRelease) = some (.ok, s₁) ∧
      s.mPrimaryBuffer.mDs3dRef = 0 ∧ s₁.mPrimaryBuffer.mDs3dRef = 0xFFFFFFFF ∧
      s₁.exec createPrimary = some (.ok, s₂) ∧ s₂.mPrimaryBuffer.mFlags = 0 := by
  let _ : Abi := ⟨⟨600, by decide⟩⟩
  have h0 : Reachable DSoundStep DSound8OAL.IsNew (DSound8OAL.new true) := .init ⟨true, rfl⟩
  have h1 := h0.step (i := initializeOne) ⟨initializeOne_legal true, _, rfl⟩
  have h2 := h1.step (.of_isSome createPrimary (createPrimary_legal _) (by decide +kernel))
  exact ⟨_, _, _, h2, rfl, by decide +kernel, by decide +kernel, rfl, by decide +kernel⟩

end Dsoal
