import Dsoal.Object.PrimaryRefs
import Dsoal.Object.Tracks
import Dsoal.Params.Ranges

/-!
# The parameters of an object stay in range

In every reachable state the parameters of every buffer are in range.  Those of an initialized
listener are as well, unless a call of its setters has been passed something that is not a
number (`params_inRange`).
-/

namespace Dsoal

open FloatValue TransitionSystem

/-! ## Buffers -/

/-- **Every method keeps** the parameters in range, whatever offsets OpenAL gives the source. -/
theorem Buffer.lasts_inRange (A : SharedBuffer → UInt32 → Prop) :
    Buffer.Lasts A Buffer.ParamsInRange where
  fresh _ _ := ⟨inRange_defaultParams, inRange_defaultParams⟩
  duplicate h hc := h.duplicate hc
  attach h _ _ hc := h.attach hc
  initLocation h hc := by
    obtain ⟨-, src, loc, rfl⟩ := initLocation_eq hc
    exact h.congr rfl rfl
  writeRolloff _ h := by
    unfold writeRolloff
    split_ifs
    · exact h.congr rfl rfl
    · exact h
  commit parent h := h.commit parent
  poll h := h.congr rfl rfl
  call parent c _ h hc := h.call parent c hc
  restore parent isWriteEmu h := h.restore parent isWriteEmu
  acquireResources h hc := by
    obtain rfl | hloc := acquireResources_asks hc
    · exact h
    · exact h.deferredLocation hloc
  play h hc := h.play hc
  stop h _ _ := h.congr rfl rfl
  notifies _ h := h.congr rfl rfl
  genSource h := h.congr rfl rfl
  lose h := h.congr rfl rfl
  mix _ h _ := h.congr rfl rfl

/-! ## The setters of the listener -/

namespace ListenerCall

variable {c : ListenerCall} {F : ListenerFlags} {P Q : DS3DListener}

/-- The call is accepted, and sets a factor that is not a number. -/
def PassesNaN : ListenerCall → Prop
  | .setAllParameters (some params) => sizeofDS3DListener ≤ params.dwSize ∧
    PrimaryBuffer.validParams params = true ∧ params.HasNaN
  | .setDistanceFactor x | .setDopplerFactor x | .setRolloffFactor x => value x = none
  | _ => False

/-- What the checks of a call and the choice of what it sets come to. -/
structure Sets (c : ListenerCall) (F : ListenerFlags) (P : DS3DListener) : Prop where
  valid : PrimaryBuffer.validParams P = true
  passes : c.PassesNaN ↔ P.HasNaN
  stores : ∀ Q, P.HasNaN → (PrimaryBuffer.copyParams F P Q).HasNaN

/-- A setter of one factor, the others being those of a new listener. -/
theorem sets_of_one {valid : Bool} {flag : ListenerFlag} {params : DS3DListener}
    (hc : one valid flag params = some (F, P))
    (hvalid : valid = true → PrimaryBuffer.validParams params = true)
    (hpasses : c.PassesNaN ↔ params.HasNaN)
    (hstores : ∀ Q, params.HasNaN → (PrimaryBuffer.copyParams (.only flag) params Q).HasNaN) :
    c.Sets F P := by
  obtain ⟨hv, heq⟩ := Option.ite_none_right_eq_some.mp hc
  cases heq
  exact ⟨hvalid hv, hpasses, hstores⟩

theorem sets_of_update (hc : c.update = some (F, P)) : c.Sets F P := by
  have hone : value 1 ≠ none := nofun
  have hfactor : PrimaryBuffer.validFactor 1 = true := by decide +kernel
  have hdistance : PrimaryBuffer.validDistanceFactor 1 = true := by decide +kernel
  cases c with
  | setAllParameters listener =>
      cases listener with
      | none => cases hc
      | some params =>
          obtain ⟨hok, heq⟩ := Option.ite_none_left_eq_some.mp hc
          cases heq
          rw [not_or, Bool.not_eq_true', Bool.not_eq_false] at hok
          refine ⟨hok.2, ⟨fun h ↦ h.2.2, fun h ↦ ⟨UInt32.not_lt.mp hok.1, hok.2, h⟩⟩, fun _ h ↦ h⟩
  | setDistanceFactor x =>
      have hnan : DS3DListener.HasNaN { PrimaryBuffer.defaultParams with flDistanceFactor := x } ↔
          value x = none := by
        simp [DS3DListener.HasNaN, PrimaryBuffer.defaultParams, hone]
      refine sets_of_one hc (fun hv ↦ ?_) hnan.symm fun Q h ↦ .inl (hnan.mp h)
      simp [PrimaryBuffer.validParams, PrimaryBuffer.defaultParams, hv, hfactor]
  | setDopplerFactor x =>
      have hnan : DS3DListener.HasNaN { PrimaryBuffer.defaultParams with flDopplerFactor := x } ↔
          value x = none := by
        simp [DS3DListener.HasNaN, PrimaryBuffer.defaultParams, hone]
      refine sets_of_one hc (fun hv ↦ ?_) hnan.symm fun Q h ↦ .inr (.inr (hnan.mp h))
      simp [PrimaryBuffer.validParams, PrimaryBuffer.defaultParams, hv, hfactor, hdistance]
  | setRolloffFactor x =>
      have hnan : DS3DListener.HasNaN { PrimaryBuffer.defaultParams with flRolloffFactor := x } ↔
          value x = none := by
        simp [DS3DListener.HasNaN, PrimaryBuffer.defaultParams, hone]
      refine sets_of_one hc (fun hv ↦ ?_) hnan.symm fun Q h ↦ .inr (.inl (hnan.mp h))
      simp [PrimaryBuffer.validParams, PrimaryBuffer.defaultParams, hv, hfactor, hdistance]
  | setOrientation x y z x' y' z' | setPosition x y z | setVelocity x y z =>
      have hno : ¬ PrimaryBuffer.defaultParams.HasNaN := by
        simp [DS3DListener.HasNaN, PrimaryBuffer.defaultParams, hone]
      refine sets_of_one hc (fun _ ↦ ?_) ⟨False.elim, hno⟩ fun Q h ↦ (hno h).elim
      simp [PrimaryBuffer.validParams, PrimaryBuffer.defaultParams, hfactor, hdistance]

/-- A call that passes what is not a number is not refused for it. -/
theorem not_passesNaN_of_update (hc : c.update = none) : ¬ c.PassesNaN := by
  intro h
  cases c with
  | setAllParameters listener =>
      cases listener with
      | none => exact h
      | some params =>
          rw [ListenerCall.update, if_neg] at hc
          · cases hc
          · rintro (hsize | hvalid)
            · exact UInt32.not_lt.mpr h.1 hsize
            · rw [h.2.1] at hvalid
              cases hvalid
  | setDistanceFactor x =>
      have hvalid := PrimaryBuffer.validDistanceFactor_iff.mpr (.inl h)
      rw [ListenerCall.update, one, if_pos hvalid] at hc
      cases hc
  | setDopplerFactor x | setRolloffFactor x =>
      rw [ListenerCall.update, one, if_pos (PrimaryBuffer.validFactor_iff.mpr (.inl h))] at hc
      cases hc
  | _ => exact h

end ListenerCall

namespace DSound8OAL

variable [Abi] {s s' : DSound8OAL} {hr : HResult} {mem : Memory}

/-- A listener that is initialized is passed something that is not a number. -/
def StoresNaN (s : DSound8OAL) : Op → Prop
  | .listener c _ => s.mPrimaryBuffer.mFlags ≠ 0 ∧ c.PassesNaN
  | _ => False

/-- The parameters of the listener, if it is initialized, are in range. -/
abbrev ListenerInRange (s : DSound8OAL) : Prop := s.mPrimaryBuffer.ParamsInRange

/-! ## What the operations do to the listener -/

omit [Abi] in
theorem SettingsKept.inRange (h : s.SettingsKept s') (hs : s.ListenerInRange) :
    s'.ListenerInRange :=
  hs.congr (fun hne ↦ h.flags ▸ hne) h.immediate h.deferred

omit [Abi] in
theorem setListenerParams_inRange (hs : s.ListenerInRange) {P : DS3DListener} {F : ListenerFlags}
    (hP : s.mPrimaryBuffer.mFlags ≠ 0 → P.InRange) (hc : s.setListenerParams P F = some s') :
    s'.ListenerInRange := by
  obtain ⟨gs, rfl⟩ := eq_of_setListenerParams hc
  intro hne
  exact ⟨PrimaryBuffer.inRange_copyParams (hP hne) (hs hne).1, (hs hne).2⟩

omit [Abi] in
theorem commit_inRange (hs : s.ListenerInRange) (hc : s.commit = some s') :
    s'.ListenerInRange := by
  rw [commit_eq] at hc
  obtain ⟨s₁, hset, hfor⟩ := Option.bind_eq_some_iff.mp hc
  have hclean : s.clearDirty.ListenerInRange := hs
  have h₁ := setListenerParams_inRange hclean (fun hne ↦ (hs hne).2) hset
  exact (SamePrimary.forBuffers hfor).settingsKept.inRange h₁

omit [Abi] in
/-- **`Initialize`** of the primary buffer sets parameters that are in range. -/
theorem primaryInitialize_inRange (hs : s.ListenerInRange) {desc : Option BufferDesc}
    (hc : s.primaryInitialize desc mem = some (hr, s')) : s'.ListenerInRange := by
  obtain ⟨rfl, -⟩ | ⟨-, hkept⟩ := primaryInitialize_refs hc
  · obtain ⟨hne, -⟩ | ⟨d, hr₁, s₁, -, -, -, ⟨hne, -⟩ | ⟨-, -, hset⟩⟩ := primaryInitialize_cases hc
    · exact absurd rfl hne
    · exact absurd rfl hne
    · obtain ⟨gs, rfl⟩ := eq_of_setListenerParams hset
      have hd := PrimaryBuffer.inRange_defaultParams
      exact fun _ ↦ ⟨PrimaryBuffer.inRange_copyParams hd hd, hd⟩
  · exact hkept.inRange hs

omit [Abi] in
/-- `AddRef` may make the buffer uninitialized. -/
theorem addRef_inRange (hs : s.ListenerInRange) : s.mPrimaryBuffer.addRef.2.ParamsInRange := by
  refine PrimaryBuffer.ParamsInRange.congr hs ?_ rfl rfl
  intro hne hzero
  refine hne ?_
  unfold PrimaryBuffer.addRef
  dsimp only
  split_ifs
  · rfl
  · exact hzero

omit [Abi] in
theorem release_inRange {p : PrimaryBuffer} (hp : p.ParamsInRange) : p.release.ParamsInRange := by
  unfold PrimaryBuffer.release
  split_ifs
  · exact hp
  · exact hp.congr id rfl rfl

omit [Abi] in
theorem createPrimary_inRange (hs : s.ListenerInRange) {desc : BufferDesc}
    (hc : s.createPrimary desc mem = some (hr, s')) : s'.ListenerInRange := by
  have hadd : DSound8OAL.ListenerInRange { s with mPrimaryBuffer := s.mPrimaryBuffer.addRef.2 } :=
    addRef_inRange hs
  obtain ⟨s₁, -, hinit, hs'⟩ | ⟨-, -, rfl⟩ := createPrimary_cases hc
  · have h₁ := primaryInitialize_inRange hadd hinit
    obtain ⟨-, rfl⟩ | ⟨-, rfl⟩ := hs'
    · exact release_inRange h₁
    · exact h₁
  · exact hadd

omit [Abi] in
theorem primaryCall_inRange (hs : s.ListenerInRange) {c : PrimaryCall}
    (hc : s.primaryCall c = some (hr, s')) : s'.ListenerInRange := by
  by_cases hcounts : countsRefs c
  · cases c with
    | addRef =>
        cases hc
        exact addRef_inRange hs
    | release =>
        cases hc
        exact release_inRange hs
    | listenerAddRef | listenerRelease | propAddRef | propRelease =>
        cases hc
        exact PrimaryBuffer.ParamsInRange.congr hs id rfl rfl
    | _ => cases hcounts
  by_cases hinit : ∃ desc mem, c = .initializePrimary desc mem
  · obtain ⟨desc, mem, rfl⟩ := hinit
    exact primaryInitialize_inRange hs hc
  · simp only [not_exists] at hinit
    exact (primaryCall_kept (Bool.eq_false_iff.mpr hcounts) hinit hc).inRange hs

omit [Abi] in
theorem eaxSet_inRange (hs : s.ListenerInRange) {p : Ptr} {immediate accepted : Bool}
    (hc : s.eaxSet p immediate accepted = some (hr, s')) : s'.ListenerInRange := by
  obtain ⟨b, -, hs'⟩ := eaxSet_cases hc
  have hgen : (s.setBuffer p b.genSource).ListenerInRange := hs
  obtain ⟨-, -, rfl⟩ | ⟨-, -, -, rfl⟩ | ⟨-, -, -, -, hcommit⟩ := hs'
  · exact hs
  · exact hgen
  · exact commit_inRange hgen hcommit

omit [Abi] in
/-- **A setter of the listener** leaves the parameters in range unless it stores what is not a
number. -/
theorem callListener_inRange_iff (hs : s.ListenerInRange) {c : ListenerCall} {apply : UInt32}
    (hc : s.callListener c apply = some (hr, s')) :
    s'.ListenerInRange ↔ ¬ s.StoresNaN (.listener c apply) := by
  by_cases hflags : s.mPrimaryBuffer.mFlags = 0
  · have hflags' : s'.mPrimaryBuffer.mFlags = 0 := (PrimaryFrame.callListener hc).flags.trans hflags
    exact iff_of_true (fun hne ↦ absurd hflags' hne) fun h ↦ h.1 hflags
  have hstores : s.StoresNaN (.listener c apply) ↔ c.PassesNaN := and_iff_right hflags
  rw [hstores]
  obtain ⟨hu, -, rfl⟩ | ⟨F, P, hu, -, happly⟩ := callListener_cases hc
  · exact iff_of_true hs (ListenerCall.not_passesNaN_of_update hu)
  have hsets := ListenerCall.sets_of_update hu
  have hcopy : ∀ Q : DS3DListener, Q.InRange →
      ((PrimaryBuffer.copyParams F P Q).InRange ↔ ¬ c.PassesNaN) := by
    intro Q hQ
    rw [hsets.passes]
    refine ⟨fun hrange hnan ↦ hrange.not_hasNaN (hsets.stores Q hnan), fun hno ↦ ?_⟩
    exact PrimaryBuffer.inRange_copyParams (PrimaryBuffer.inRange_of_valid hsets.valid hno) hQ
  obtain ⟨himm, hdef⟩ := hs hflags
  obtain ⟨-, n, rfl⟩ | ⟨-, hset⟩ := happly
  · rw [← hcopy _ hdef]
    exact ⟨fun h ↦ { (h hflags).2 with }, fun h _ ↦ ⟨himm, { h with }⟩⟩
  · obtain ⟨gs, rfl⟩ := eq_of_setListenerParams hset
    rw [← hcopy _ himm]
    exact ⟨fun h ↦ (h hflags).1, fun h _ ↦ ⟨h, hdef⟩⟩

/-- **Every operation** leaves the parameters of the listener in range unless it stores what is
not a number. -/
theorem exec_inRange_iff (hs : s.ListenerInRange) {op : Op} (hc : s.exec op = some (hr, s')) :
    s'.ListenerInRange ↔ ¬ s.StoresNaN op := by
  by_cases htouches : TouchesPrimary op
  · cases op with
    | listener c apply => exact callListener_inRange_iff hs hc
    | createSoundBuffer desc dsBuffer outer mem =>
        refine iff_of_true ?_ id
        obtain ⟨-, d, hcreate⟩ | ⟨-, hkept⟩ := createsPrimary_or_settingsKept hc
        · exact createPrimary_inRange hs hcreate
        · exact hkept.inRange hs
    | setCooperativeLevel level mem =>
        exact iff_of_true ((setCooperativeLevel_refs hc).inRange hs) id
    | eaxSet p immediate accepted => exact iff_of_true (eaxSet_inRange hs hc) id
    | primary c => exact iff_of_true (primaryCall_inRange hs hc) id
    | commitDeferredSettings =>
        obtain ⟨s₁, hcommit, hc⟩ := Option.map_eq_some_iff.mp hc
        cases hc
        exact iff_of_true (commit_inRange hs hcommit) id
    | mix p offset ended =>
        obtain ⟨s₁, hmix, hc⟩ := Option.map_eq_some_iff.mp hc
        cases hc
        refine iff_of_true ?_ id
        cases p with
        | none =>
            obtain ⟨emu, -, hc⟩ := Option.bind_eq_some_iff.mp hmix
            cases hc
            exact hs
        | some p => exact htouches.elim
    | _ => exact htouches.elim
  · have hkept := (SamePrimary.exec htouches hc).settingsKept
    refine iff_of_true (hkept.inRange hs) ?_
    cases op with
    | listener c apply => exact absurd trivial htouches
    | _ => exact id

/-! ## Runs -/

/-- All parameters are in range. -/
structure ParamsInRange (s : DSound8OAL) : Prop where
  buffers : ∀ b, s.Holds b → b.ParamsInRange
  listener : s.ListenerInRange

theorem buffers_inRange (h : Reachable DSoundStep IsNew s) (b : Buffer) (hb : s.Holds b) :
    b.ParamsInRange :=
  (each_any (Buffer.lasts_inRange anyOffset) h).buffers b hb

end DSound8OAL

open DSound8OAL

/-- **The parameters in range.**  In every state reached without passing an initialized listener
what is not a number, the immediate and the pending parameters of the buffers and of the
listener are in range.  From a reachable state in which they are, a step leaves them so if and
only if it does not do that; and it never puts those of the buffers out of range. -/
theorem params_inRange [Abi] :
    (∀ s, Reachable (guarded (fun s op ↦ ¬ s.StoresNaN op) DSoundStep) IsNew s →
      s.ParamsInRange) ∧
    (∀ s op s', Reachable DSoundStep IsNew s → s.ParamsInRange → DSoundStep s op s' →
      (s'.ParamsInRange ↔ ¬ s.StoresNaN op)) ∧
    ∀ s, Reachable DSoundStep IsNew s → ∀ b, s.Holds b → b.ParamsInRange := by
  have hstep : ∀ {s op s'}, s.ListenerInRange → DSoundStep s op s' →
      (s'.ListenerInRange ↔ ¬ s.StoresNaN op) := by
    rintro s op s' hs ⟨-, hr, hc⟩
    exact exec_inRange_iff hs hc
  refine ⟨fun s h ↦ ?_, fun s op s' h hs hop ↦ ?_, fun s h ↦ buffers_inRange h⟩
  · refine ⟨buffers_inRange h.of_guarded, ?_⟩
    refine h.invariant ?_ ?_
    · rintro t ⟨is8, rfl⟩ hne
      exact absurd rfl hne
    · rintro t op t' ht ⟨hno, hop⟩
      exact (hstep ht hop).mpr hno
  · rw [← hstep hs.listener hop]
    exact ⟨ParamsInRange.listener, fun hl ↦ ⟨buffers_inRange (h.step hop), hl⟩⟩

/-- `CreateSoundBuffer` of a primary buffer with a listener. -/
def createListener : Op :=
  .createSoundBuffer (some ⟨sizeofBufferDesc1, Caps.primaryBuffer ||| Caps.ctrl3D, 0, none⟩)
    true false {}

theorem createListener_legal [Abi] (s : DSound8OAL) : createListener.Legal s := by
  intro b hb
  cases hb

set_option maxRecDepth 4000 in
/-- A distance of a buffer and the rolloff factor are deferred and committed. -/
theorem params_inRange_committed : letI : Abi := ⟨⟨600, by decide⟩⟩
    ∃ s : DSound8OAL, s.ParamsInRange ∧ s.mPrimaryBuffer.mFlags ≠ 0 ∧
      s.mPrimaryBuffer.mImmediate.flRolloffFactor = 5 ∧
      ∃ b, s.getBuffer ⟨4096, 0⟩ = some b ∧ b.mImmediate.flMinDistance = 2 := by
  let _ : Abi := ⟨⟨600, by decide⟩⟩
  have h0 : Reachable (guarded (fun s op ↦ ¬ s.StoresNaN op) DSoundStep) IsNew
      (DSound8OAL.new true) := .init ⟨true, rfl⟩
  have h1 := h0.step (i := initializeOne) ⟨id, initializeOne_legal true, _, rfl⟩
  have h2 := h1.step (i := createMono (Caps.ctrl3D ||| Caps.locHardware))
    ⟨id, createMono_legal _ _, _, rfl⟩
  have h3 := h2.step (i := createListener) ⟨id, createListener_legal _, _, rfl⟩
  have h4 := h3.step (i := Op.buffer ⟨4096, 0⟩ (.call3D (.setMinDistance 2) ds3dDeferred))
    ⟨id, trivial, _, rfl⟩
  have h5 := h4.step (i := Op.listener (.setRolloffFactor 5) ds3dDeferred)
    ⟨fun h ↦ absurd h.2 nofun, trivial, _, rfl⟩
  have h6 := h5.step (i := Op.commitDeferredSettings) ⟨id, trivial, _, rfl⟩
  exact ⟨_, params_inRange.1 _ h6, by decide, rfl, _, rfl, rfl⟩

/-- The distance factor is set to something that is not a number, and the setter succeeds. -/
theorem distance_factor_nan : letI : Abi := ⟨⟨600, by decide⟩⟩
    ∃ s : DSound8OAL, Reachable DSoundStep IsNew s ∧ s.mPrimaryBuffer.mFlags ≠ 0 ∧
      value s.mPrimaryBuffer.mImmediate.flDistanceFactor = none ∧ ¬ s.ParamsInRange := by
  let _ : Abi := ⟨⟨600, by decide⟩⟩
  have h0 : Reachable DSoundStep IsNew (DSound8OAL.new true) := .init ⟨true, rfl⟩
  have h1 := h0.step (i := initializeOne) ⟨initializeOne_legal true, _, rfl⟩
  have h2 := h1.step (i := createListener) ⟨createListener_legal _, _, rfl⟩
  have h3 := h2.step (i := Op.listener (.setDistanceFactor (Float32.ofBits 0x7FC00000))
    ds3dImmediate) ⟨trivial, .ok, rfl⟩
  refine ⟨_, h3, by decide, rfl, fun hrange ↦ ?_⟩
  exact (hrange.listener (by decide)).1.distanceFactor.value_ne_none rfl

end Dsoal
