import Dsoal.Object.Creation
import Dsoal.Object.Resources

/-!
# Buffers that fail to be created

A failing `CreateSoundBuffer` or `DuplicateSoundBuffer` leaves everything as it was.  That
a reference which is taken and returned does not destroy the `SharedBuffer` depends on the
original's own reference, which is counted in every reachable state
(`ResourceRun.ok_of_reachable`).  The variable of the caller is not always cleared
(`creation_failed_iff`).
-/

namespace Dsoal

open TransitionSystem

namespace ResourceRun

variable [Abi] {w w' w₁ : ResourceRun} {p : Ptr} {mBuffer : Option ℕ} {b : Buffer} {hr : HResult}
  {mem : Memory} {names : Names} {desc : Option BufferDesc} {memory : Bool}

/-! ## The calls -/

/-- The invariant: that of the object, and every secondary buffer has a reference to a
`SharedBuffer` which is counted. -/
structure Ok (w : ResourceRun) : Prop where
  object : w.object.Ok
  covered : w.resources.shared.Covered w.live fun p ↦ (w.owned p).mBuffer

omit [Abi] in
theorem mem_live [Abi] (h : w.object.Ok) : p ∈ w.live ↔ (w.object.getBuffer p).isSome := by
  rw [live, List.mem_toFinset, h.pool.mem_livePtrs]
  rfl

/-- A call that gets as far as creating a buffer, with the pointer `mBuffer` of its
original. -/
structure Tried (w : ResourceRun) (mBuffer : Option ℕ) (mem : Memory) (names : Names)
    (hr : HResult) (result' : Option (Option Ptr)) (w' : ResourceRun) : Prop where
  /-- A live buffer is the original. -/
  original : ∀ a, mBuffer = some a → ∃ p ∈ w.live, (w.owned p).mBuffer = some a
  /-- The object performs a step. -/
  step : ∃ op, DSoundStep w.object op w'.object
  /-- It constructs a buffer and initializes it. -/
  attempt : ∃ b p s₁ desc memory result, b.Blank ∧ b.born = w.object.nextBorn ∧
    w.object.construct b mem = some (p, s₁) ∧
    s₁.initializeNew p desc memory = some (hr, w'.object) ∧
    w.Attempt mBuffer names p hr result w' ∧ result' = some result

/-- What construction and initialization of a buffer do. -/
theorem getBuffer_construct (h : w.object.Ok)
    (hgroup : ∀ base, mem.group = some base → FreshBase base w.object.mSecondaryBuffers)
    (hcon : w.construct b mBuffer mem = some (p, w₁)) : w₁.object.getBuffer p = some b := by
  obtain ⟨hcon, -, -⟩ := construct_eq hcon
  obtain ⟨gs, hobject, -, -, hlook⟩ := DSound8OAL.construct_eq h.pool hgroup hcon
  rw [hobject]
  exact (hlook p).trans (if_pos rfl)

/-- **`CreateSoundBuffer`** of a secondary buffer. -/
theorem createSoundBuffer_cases (h : w.Ok) {bufferDesc : Option BufferDesc}
    {dsBuffer result' : Option (Option Ptr)} {outer : Bool}
    (hlegal : (ResourceOp.create (.createSoundBuffer bufferDesc outer) dsBuffer mem names).Legal w)
    (hc : w.createSoundBuffer bufferDesc dsBuffer outer mem names = some (hr, result', w')) :
    (w' = w ∧ hr ≠ .ok ∧ result'.join = none) ∨ w.Tried none mem names hr result' w' := by
  obtain ⟨hgroup, hfresh⟩ := hlegal
  unfold createSoundBuffer at hc
  cases dsBuffer with
  | none =>
      cases hc
      exact .inl ⟨rfl, by decide, rfl⟩
  | some v =>
      dsimp only at hc
      split at hc
      · cases hc
        exact .inl ⟨rfl, by decide, rfl⟩
      rename_i houter
      cases bufferDesc with
      | none =>
          cases hc
          exact .inl ⟨rfl, by decide, rfl⟩
      | some desc =>
          dsimp only at hc
          split at hc
          · cases hc
            exact .inl ⟨rfl, by decide, rfl⟩
          split at hc
          · cases hc
            exact .inl ⟨rfl, by decide, rfl⟩
          split at hc
          · cases hc
          split at hc
          · cases hc
            exact .inl ⟨rfl, by decide, rfl⟩
          rename_i hsize hshared hprimary hpan
          obtain ⟨⟨p, w₁⟩, hcon, hc⟩ := Option.bind_eq_some_iff.mp hc
          obtain ⟨⟨hr₁, q, w₂⟩, hinit, hc⟩ := Option.bind_eq_some_iff.mp hc
          cases hc
          have hblank := Buffer.blank_fresh w.object.nextBorn w.object.mIs8
          obtain ⟨hobject, hattempt⟩ := attempt hblank hfresh rfl (fun _ _ h ↦ by cases h) hcon
            (getBuffer_construct h.object hgroup hcon) hinit
          obtain ⟨hcon', -, -⟩ := construct_eq hcon
          refine .inr ⟨nofun, ⟨.createSoundBuffer (some desc) true outer mem, hgroup, hr₁, ?_⟩,
            _, p, _, _, _, q, hblank, rfl, hcon', hobject, hattempt, rfl⟩
          simp only [DSound8OAL.exec, DSound8OAL.createSoundBuffer, houter, hsize, hshared, hprimary,
            hpan, Bool.not_true, Bool.false_eq_true, if_false, hcon', Option.bind_eq_bind,
            Option.bind_some, hobject]

/-- **`DuplicateSoundBuffer`.** -/
theorem duplicateSoundBuffer_cases (h : w.Ok) {original : Option Original}
    {duplicate result' : Option (Option Ptr)}
    (hlegal : (ResourceOp.create (.duplicateSoundBuffer original) duplicate mem names).Legal w)
    (hc : w.duplicateSoundBuffer original duplicate mem names = some (hr, result', w')) :
    (w' = w ∧ hr ≠ .ok ∧
        if w.Skips (.duplicateSoundBuffer original) then result' = duplicate
        else result'.join = none) ∨
      ¬ w.Skips (.duplicateSoundBuffer original) ∧
        ∃ mBuffer, w.Tried mBuffer mem names hr result' w' := by
  obtain ⟨hgroup, hfresh⟩ := hlegal
  unfold duplicateSoundBuffer at hc
  split at hc
  · rename_i hshared
    cases hc
    exact .inl ⟨rfl, by decide, by rw [if_pos (.inl (by simpa using hshared))]⟩
  rename_i hshared
  rcases original with _ | original
  · cases hc
    exact .inl ⟨rfl, by decide, by rw [if_pos (.inr rfl)]⟩
  have hskips : ¬ w.Skips (.duplicateSoundBuffer (some original)) := by
    simpa [Skips] using hshared
  rw [if_neg hskips]
  rcases duplicate with _ | v
  · cases original <;>
      · cases hc
        exact .inl ⟨rfl, by decide, rfl⟩
  cases original with
  | primary =>
      dsimp only at hc
      split at hc
      · cases hc
        exact .inl ⟨rfl, by decide, rfl⟩
      · cases hc
  | secondary p =>
      obtain ⟨orig, horig, hc⟩ := Option.bind_eq_some_iff.mp hc
      obtain ⟨sb, hsb, hc⟩ := Option.bind_eq_some_iff.mp hc
      split at hc
      · cases hc
        exact .inl ⟨rfl, by decide, rfl⟩
      split at hc
      · cases hc
        exact .inl ⟨rfl, by decide, rfl⟩
      rename_i hprimary hfx
      obtain ⟨b, hdup, hc⟩ := Option.bind_eq_some_iff.mp hc
      split at hc
      · cases hc
        exact .inl ⟨rfl, by decide, rfl⟩
      obtain ⟨⟨q, w₁⟩, hcon, hc⟩ := Option.bind_eq_some_iff.mp hc
      obtain ⟨⟨hr₁, result, w₂⟩, hinit, hc⟩ := Option.bind_eq_some_iff.mp hc
      cases hc
      have hlive : p ∈ w.live := (mem_live h.object).mpr (by rw [horig]; rfl)
      obtain ⟨a, ha⟩ : ∃ a, (w.owned p).mBuffer = some a := by
        obtain ⟨a, -, ha, -⟩ := h.covered p hlive
        exact ⟨a, ha⟩
      have hbuffer : b.mBuffer = some sb := by
        obtain ⟨sb', hsb', hdup⟩ := Option.bind_eq_some_iff.mp hdup
        obtain rfl : sb = sb' := Option.some.inj (hsb.symm.trans hsb')
        cases hdup
        rfl
      obtain ⟨hblank, hborn⟩ := (h.object.buffers p orig horig).1.blank_duplicate hdup
      obtain ⟨hobject, hattempt⟩ := attempt hblank hfresh (by rw [hbuffer, ha]; rfl)
        (fun a' c' ha' hc' ↦ by
          obtain ⟨c₁, hc₁, hpos⟩ := h.covered.count_pos hlive ha'
          obtain rfl : c' = c₁ := Option.some.inj (hc'.symm.trans hc₁)
          exact hpos)
        hcon (getBuffer_construct h.object hgroup hcon) hinit
      obtain ⟨hcon', -, -⟩ := construct_eq hcon
      refine .inr ⟨hskips, _, fun a ha ↦ ⟨p, hlive, ha⟩,
        ⟨.duplicateSoundBuffer (some p) true mem, hgroup, hr, ?_⟩,
        b, q, _, _, _, result, hblank, hborn, hcon', hobject, hattempt, rfl⟩
      simp only [DSound8OAL.exec, DSound8OAL.duplicateSoundBuffer, hshared, horig, hsb, hprimary,
        hfx, hdup, Bool.not_true, Bool.false_eq_true, if_false, hcon', Option.bind_eq_bind,
        Option.bind_some, hobject]

/-- **The calls that create a buffer** change nothing, or get as far as creating one. -/
theorem create_cases (h : w.Ok) {c : Creation} {result result' : Option (Option Ptr)}
    (hlegal : (ResourceOp.create c result mem names).Legal w)
    (hc : w.create c result mem names = some (hr, result', w')) :
    (w' = w ∧ hr ≠ .ok ∧ if w.Skips c then result' = result else result'.join = none) ∨
      ¬ w.Skips c ∧ ∃ mBuffer, w.Tried mBuffer mem names hr result' w' := by
  cases c with
  | createSoundBuffer bufferDesc outer =>
      have hskips : ¬ w.Skips (.createSoundBuffer bufferDesc outer) := id
      rw [if_neg hskips]
      rcases createSoundBuffer_cases h hlegal hc with hearly | htried
      · exact .inl hearly
      · exact .inr ⟨hskips, none, htried⟩
  | duplicateSoundBuffer original => exact duplicateSoundBuffer_cases h hlegal hc

/-! ## What a failure leaves -/

/-- Everything is as it was, up to empty groups of slots: the buffers and their slots, the
two lists, the counters of both pools, the live sources and OpenAL buffers, all
`SharedBuffer`s with their counters, and what the buffers own. -/
structure Unchanged (w w' : ResourceRun) : Prop where
  groups : ∃ extra, w'.object.mSecondaryBuffers = w.object.mSecondaryBuffers ++ extra ∧
    ∀ g ∈ extra, g.mFreeMask = ~~~0#64 ∧ ∀ i, g.elem i = none
  buffers : ∀ p, w'.object.getBuffer p = w.object.getBuffer p
  m3dBuffers : w'.object.m3dBuffers = w.object.m3dBuffers
  mNotifyBuffers : w'.object.mNotifyBuffers = w.object.mNotifyBuffers
  mShared : w'.object.mShared = w.object.mShared
  resources : w'.resources = w.resources
  owned : ∀ p ∈ w.live, w'.owned p = w.owned p

omit [Abi] in
theorem Unchanged.refl (w : ResourceRun) : w.Unchanged w :=
  ⟨⟨[], (List.append_nil _).symm, nofun⟩, fun _ ↦ rfl, rfl, rfl, rfl, rfl, fun _ _ ↦ rfl⟩

/-- **A creation that fails leaves everything as it was.** -/
theorem Tried.unchanged (h : w.Ok)
    (hgroup : ∀ base, mem.group = some base → FreshBase base w.object.mSecondaryBuffers)
    {result' : Option (Option Ptr)} (ht : w.Tried mBuffer mem names hr result' w')
    (hfail : hr ≠ .ok) : w.Unchanged w' ∧ result'.join = none := by
  obtain ⟨b, p, s₁, desc, memory, result, hblank, -, hcon, hinit, hattempt, rfl⟩ := ht.attempt
  obtain ⟨extra, hobject, -, hextra⟩ :=
    DSound8OAL.initializeNew_failed h.object hgroup hblank hcon hinit hfail
  obtain ⟨gs, -, -, hfree, -⟩ := DSound8OAL.construct_eq h.object.pool hgroup hcon
  cases hattempt with
  | created a hok => exact absurd hok hfail
  | failed _ hnull hresources howned =>
      refine ⟨⟨⟨extra, by rw [hobject], hextra⟩, fun q ↦ ?_, by rw [hobject], by rw [hobject],
        by rw [hobject], hresources, fun q hq ↦ howned q ?_⟩, hnull⟩
      · rw [hobject]
        exact PoolOk.lookup_append_of_empty (fun g hg ↦ (hextra g hg).2) q
      · rintro rfl
        rw [mem_live h.object, hfree] at hq
        cases hq

/-! ## Runs -/

/-- The live buffers after a creation that succeeds. -/
theorem live_created (h : w.object.Ok) (h' : w'.object.Ok)
    (hgroup : ∀ base, mem.group = some base → FreshBase base w.object.mSecondaryBuffers)
    {s₁ : DSound8OAL} (hcon : w.object.construct b mem = some (p, s₁))
    (hinit : s₁.initializeNew p desc memory = some (.ok, w'.object)) :
    w'.live = insert p w.live := by
  obtain ⟨gs, rfl, hpool, -, hlook⟩ := DSound8OAL.construct_eq h.pool hgroup hcon
  obtain ⟨s₂, hinit, ⟨-, rfl⟩ | ⟨hfail, -⟩⟩ := DSound8OAL.initializeNew_cases hinit
  case inr => exact absurd rfl hfail
  obtain ⟨-, hothers, b', hb', -⟩ := DSound8OAL.initializeBuffer_storage hpool hinit
  ext q
  rw [mem_live h', Finset.mem_insert, mem_live h]
  by_cases hq : q = p
  · simp [hq, hb']
  · have hsame : w'.object.getBuffer q = w.object.getBuffer q :=
      (hothers q hq).trans ((hlook q).trans (if_neg hq))
    simp [hq, hsame]

/-- **Step lemma** for the calls that create a buffer. -/
theorem Tried.ok (h : w.Ok)
    (hgroup : ∀ base, mem.group = some base → FreshBase base w.object.mSecondaryBuffers)
    {result' : Option (Option Ptr)} (ht : w.Tried mBuffer mem names hr result' w') : w'.Ok := by
  obtain ⟨op, hstep⟩ := ht.step
  have hobject := hstep.ok h.object
  refine ⟨hobject, ?_⟩
  by_cases hok : hr = .ok
  · obtain ⟨b, p, s₁, desc, memory, result, hblank, hborn, hcon, hinit, hattempt, rfl⟩ :=
      ht.attempt
    subst hok
    rw [live_created h.object hobject hgroup hcon hinit]
    have hfree : p ∉ w.live := by
      obtain ⟨gs, -, -, hfree, -⟩ := DSound8OAL.construct_eq h.object.pool hgroup hcon
      rw [mem_live h.object, hfree]
      simp
    cases hattempt with
    | failed hfail => exact absurd rfl hfail
    | created a _ howner howned hshared =>
        have hcovered : w.resources.shared.Covered w.live fun q ↦ (w'.owned q).mBuffer :=
          h.covered.congr fun q hq ↦ howned q (by rintro rfl; exact hfree hq)
        obtain ⟨-, hnone, hshared⟩ | ⟨hsome, hadd⟩ := hshared
        · rw [hshared]
          exact hcovered.alloc hnone howner
        · obtain ⟨q, hq, hqa⟩ := ht.original a hsome
          exact hcovered.addRef hadd hq
            ((howned q (by rintro rfl; exact hfree hq)).trans hqa) howner
  · obtain ⟨hsame, -⟩ := ht.unchanged h hgroup hok
    have hlive : w'.live = w.live := by
      ext q
      rw [mem_live hobject, mem_live h.object, hsame.buffers]
    rw [hsame.resources, hlive]
    exact h.covered.congr fun q hq ↦ by rw [hsame.owned q hq]

/-- **Step lemma** for the last `Release` of a buffer. -/
theorem Ok.dispose (h : w.Ok) (hb : w.object.getBuffer p = some b) (hc : w.dispose p = some w') :
    w'.Ok := by
  obtain ⟨hobject, hreset, howned⟩ := dispose_eq hc
  have hok := (h.object.dispose hb hobject).ok
  refine ⟨hok, ?_⟩
  have hp : p ∈ w.live := (mem_live h.object).mpr (by rw [hb]; rfl)
  have hlive : w'.live = w.live.erase p := by
    ext q
    rw [mem_live hok, Finset.mem_erase, mem_live h.object,
      (DSound8OAL.dispose_storage h.object.pool hb hobject).2 q]
    by_cases hq : q = p <;> simp [hq]
  obtain ⟨a, -, ha, -⟩ := h.covered p hp
  obtain ⟨freed, hrelease⟩ : ∃ freed,
      w.resources.shared.release a = some (freed, w'.resources.shared) := by
    rw [show (w.owned p).mBuffer = some a from ha] at hreset
    obtain ⟨freed, hrelease⟩ := Resources.shared_releaseShared hreset
    exact ⟨freed, by rwa [Resources.shared_deleteSource] at hrelease⟩
  rw [hlive]
  refine (h.covered.release hp ha hrelease).congr fun q hq ↦ ?_
  rw [howned, Function.update_of_ne (Finset.ne_of_mem_erase hq)]

end ResourceRun

/-- The calls that do not create or destroy secondary buffers. -/
theorem DSoundStep.isSome_getBuffer [Abi] {s s' : DSound8OAL} {op : Op} (h : s.Ok)
    (hs : DSoundStep s op s') (hop : op.managesBuffers = false) (p : Ptr) :
    (s'.getBuffer p).isSome = (s.getBuffer p).isSome := by
  have hkeeps : ∀ {s₁ : DSound8OAL}, s.Keeps s₁ →
      (s₁.getBuffer p).isSome = (s.getBuffer p).isSome := by
    intro s₁ hk
    rw [Bool.eq_iff_iff, Option.isSome_iff_exists, Option.isSome_iff_exists]
    constructor
    · rintro ⟨b', hb'⟩
      obtain ⟨b, hb, -⟩ := hk.buffer_of hb'
      exact ⟨b, hb⟩
    · rintro ⟨b, hb⟩
      obtain ⟨b', hb', -⟩ := hk.buffer hb
      exact ⟨b', hb'⟩
  cases hs.outcome h with
  | keeps hk => exact hkeeps hk
  | created q b hb hcreates =>
      cases op with
      | createSoundBuffer bufferDesc dsBuffer outer mem =>
          rcases bufferDesc with _ | desc
          · cases hcreates
          have hprimary : ¬ hasFlag desc.dwFlags Caps.primaryBuffer := by
            cases dsBuffer <;> cases outer <;>
              first | exact hcreates.elim | exact hcreates.2.1
          exact absurd hop (by simpa [Op.managesBuffers] using hprimary)
      | duplicateSoundBuffer => cases hop
      | _ => cases hcreates
  | removed q hq hrelease =>
      rw [hrelease] at hop
      cases hop
  | levels level hl =>
      obtain ⟨⟨s₁, hk, rfl⟩, -⟩ := hl
      have hsame := hkeeps hk
      exact hsame
  | initialized hi => rw [hi.buffers]

namespace ResourceRun

variable [Abi] {w w' : ResourceRun}

/-- **Step lemma**: every step keeps the invariant. -/
theorem Ok.step {op : ResourceOp} (h : w.Ok) (hs : ResourceStep w op w') : w'.Ok := by
  obtain ⟨hlegal, hc⟩ := hs
  cases op with
  | create c result mem names =>
      obtain ⟨⟨hr, result', w₁⟩, hcreate, hc⟩ := Option.bind_eq_some_iff.mp hc
      cases hc
      rcases create_cases h hlegal hcreate with ⟨rfl, -⟩ | ⟨-, mBuffer, htried⟩
      · exact h
      · exact htried.ok h hlegal.1
  | release p =>
      obtain ⟨b, hb, hc⟩ := Option.bind_eq_some_iff.mp hc
      exact h.dispose hb hc
  | other op resources mSource =>
      obtain ⟨hlegal, hop, hrespects⟩ := hlegal
      obtain ⟨⟨hr, object⟩, hexec, hc⟩ := Option.bind_eq_some_iff.mp hc
      cases hc
      have hstep : DSoundStep w.object op object := ⟨hlegal, hr, hexec⟩
      have hok := hstep.ok h.object
      refine ⟨hok, fun p hp ↦ ?_⟩
      have hlive : ∀ owned, live ⟨object, resources, owned⟩ = w.live := by
        intro owned
        ext q
        rw [mem_live hok, mem_live h.object]
        exact iff_of_eq (congrArg (· = true) (hstep.isSome_getBuffer h.object hop q))
      rw [hlive] at hp ⊢
      obtain ⟨a, c, ha, hcell, -⟩ := h.covered p hp
      obtain ⟨c', hcell', -, hle⟩ := hrespects p hp a c ha hcell
      exact ⟨a, c', ha, hcell', hle⟩

theorem IsNew.ok (h : w.IsNew) : w.Ok := by
  have hok := DSound8OAL.IsNew.ok h
  refine ⟨hok, fun p hp ↦ ?_⟩
  obtain ⟨is8, hnew⟩ := h
  rw [mem_live hok, hnew] at hp
  cases hp

/-- **Run lemma**: the invariant holds in every reachable state. -/
theorem ok_of_reachable (h : Reachable ResourceStep ResourceRun.IsNew w) : w.Ok :=
  h.invariant (P := Ok) (fun _ hs ↦ hs.ok) fun _ _ _ hok hs ↦ hok.step hs

/-- **The runs with resources are runs of the object.** -/
theorem reachable_object (h : Reachable ResourceStep ResourceRun.IsNew w) :
    Reachable DSoundStep DSound8OAL.IsNew w.object := by
  induction h with
  | init hs => exact .init hs
  | @step w w' op hw hs ih =>
      have hok := ok_of_reachable hw
      obtain ⟨hlegal, hc⟩ := hs
      cases op with
      | create c result mem names =>
          obtain ⟨⟨hr, result', w₁⟩, hcreate, hc⟩ := Option.bind_eq_some_iff.mp hc
          cases hc
          rcases create_cases hok hlegal hcreate with ⟨rfl, -⟩ | ⟨-, mBuffer, htried⟩
          · exact ih
          · obtain ⟨op, hstep⟩ := htried.step
            exact ih.step hstep
      | release p =>
          obtain ⟨b, hb, hc⟩ := Option.bind_eq_some_iff.mp hc
          obtain ⟨hobject, -, -⟩ := dispose_eq hc
          refine ih.step (i := .release p) ⟨trivial, .ok, ?_⟩
          simp [DSound8OAL.exec, hb, hobject]
      | other op resources mSource =>
          obtain ⟨⟨hr, object⟩, hexec, hc⟩ := Option.bind_eq_some_iff.mp hc
          cases hc
          exact ih.step ⟨hlegal.1, hr, hexec⟩

end ResourceRun

open ResourceRun

/-- **A failing creation changes nothing.**  In any reachable state, a call of
`CreateSoundBuffer` for a secondary buffer or of `DuplicateSoundBuffer` that fails leaves
everything as it was, up to empty groups of slots.  It leaves a null pointer in the caller's
variable as well, if and only if the variable held one, or the call does not return before
it clears the variable. -/
theorem creation_failed_iff [Abi] {w w' : ResourceRun}
    (h : Reachable ResourceStep ResourceRun.IsNew w) {c : Creation}
    {result result' : Option (Option Ptr)} {mem : Memory} {names : Names} {hr : HResult}
    (hlegal : (ResourceOp.create c result mem names).Legal w)
    (hc : w.create c result mem names = some (hr, result', w')) (hfail : hr ≠ .ok) :
    (w.Unchanged w' ∧ result'.join = none) ↔ (w.Skips c → result.join = none) := by
  have hok := ok_of_reachable h
  rcases create_cases hok hlegal hc with ⟨rfl, -, hresult⟩ | ⟨hskips, mBuffer, htried⟩
  · split_ifs at hresult with hskips
    · rw [hresult]
      exact ⟨fun h _ ↦ h.2, fun h ↦ ⟨.refl _, h hskips⟩⟩
    · exact ⟨fun _ hs ↦ absurd hs hskips, fun _ ↦ ⟨.refl _, hresult⟩⟩
  · exact ⟨fun _ hs ↦ absurd hs hskips, fun _ ↦ htried.unchanged hok hlegal.1 hfail⟩

/-- An object that has been initialized with one source in each pool. -/
def ResourceRun.one : ResourceRun where
  object := ((DSound8OAL.new true).initializeObject (.ok (oneSource, {})) [(some 4096, false)]).2

theorem reachable_one :
    letI : Abi := ⟨⟨600, by decide⟩⟩
    Reachable ResourceStep ResourceRun.IsNew ResourceRun.one := by
  let _ : Abi := ⟨⟨600, by decide⟩⟩
  have hnew : Reachable ResourceStep ResourceRun.IsNew { object := .new true } :=
    .init ⟨true, rfl⟩
  refine hnew.step (i := .other initializeOne {} fun _ ↦ 0)
    ⟨⟨initializeOne_legal true, rfl, ?_⟩, rfl⟩
  intro p hp
  cases hp

/-- A 3D buffer gets the only hardware source, so that there is none for a second one, which
has been registered by then. -/
theorem creation_failed_allocated :
    letI : Abi := ⟨⟨600, by decide⟩⟩
    ∃ w w' : ResourceRun, Reachable ResourceStep ResourceRun.IsNew w ∧
      w.create (.createSoundBuffer (some (monoDesc (Caps.ctrl3D ||| Caps.locHardware))) false)
        (some (some ⟨4096, 0⟩)) {} ⟨2, 2, 2⟩ = some (.allocated, some none, w') ∧
      w.Unchanged w' := by
  let _ : Abi := ⟨⟨600, by decide⟩⟩
  set c : Creation :=
    .createSoundBuffer (some (monoDesc (Caps.ctrl3D ||| Caps.locHardware))) false
  have hrun : (ResourceRun.one.create c (some none) {} ⟨1, 1, 1⟩).any (fun r ↦
      decide (r.2.2.resources.Fresh ⟨2, 2, 2⟩) &&
        (r.2.2.create c (some (some ⟨4096, 0⟩)) {} ⟨2, 2, 2⟩).any fun r' ↦
          decide (r'.1 = .allocated ∧ r'.2.1 = some none)) = true := by decide +kernel
  obtain ⟨⟨hr, result, w⟩, hcreate, hrun⟩ := (Option.any_eq_true _ _).mp hrun
  obtain ⟨hfresh, hrun⟩ := Bool.and_eq_true_iff.mp hrun
  obtain ⟨⟨hr', result', w'⟩, hfail, hrun⟩ := (Option.any_eq_true _ _).mp hrun
  obtain ⟨rfl, rfl⟩ := of_decide_eq_true hrun
  have hw : Reachable ResourceStep ResourceRun.IsNew w :=
    reachable_one.step (i := .create c (some none) {} ⟨1, 1, 1⟩)
      ⟨⟨by rintro b ⟨⟩, by decide⟩, by simp [ResourceRun.exec, hcreate]⟩
  exact ⟨w, w', hw, hfail,
    ((creation_failed_iff hw ⟨by rintro b ⟨⟩, of_decide_eq_true hfresh⟩ hfail (by decide)).mpr
      fun hskips ↦ hskips.elim).1⟩

/-- A null pointer instead of a buffer to duplicate.  The variable keeps what it held. -/
theorem duplicateSoundBuffer_keeps_variable :
    letI : Abi := ⟨⟨600, by decide⟩⟩
    ∃ w w' : ResourceRun, Reachable ResourceStep ResourceRun.IsNew w ∧
      w.create (.duplicateSoundBuffer none) (some (some ⟨4096, 0⟩)) {} ⟨1, 1, 1⟩ =
        some (.invalidParam, some (some ⟨4096, 0⟩), w') := by
  let _ : Abi := ⟨⟨600, by decide⟩⟩
  exact ⟨_, _, reachable_one, rfl⟩

end Dsoal
