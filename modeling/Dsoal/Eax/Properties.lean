import Dsoal.Core.Eax
import Dsoal.Devices.Generation

/-!
# `Prop::Get` returns what `Prop::Set` has set

The source of a buffer is the only copy of its EAX properties.  They are lost with it
when the buffer changes its location, so that the next source starts with the defaults,
and `setLocation` overwrites the active effect slots of a buffer without 3D controls.
`Forgets` says when one of these happens to a property the application has set to another
value; in all other runs a property keeps its last value (`eax_gets_last_set`).
-/

namespace Dsoal

open TransitionSystem

namespace EaxBuffer

variable {κ V : Type} [DecidableEq κ] (api : EaxApi κ V)

/-- `Prop::Get` returns the last value a property has been set to. -/
def GetsLastSet (s : EaxBuffer κ V) : Prop :=
  ∀ (parent : Parent) (p : EaxProp) (value : V), parent.mExtensions.eax →
    s.buffer.mSource.isSome → s.lastSet (api.key p) = some value →
      s.propGet api parent p = .ok value

/-- `setLocation` writes the active effect slots. -/
def nulls (s : EaxBuffer κ V) (parent : Parent) : Bool :=
  !s.buffer.is3D && parent.mExtensions.eax && api.accepts api.activeFxSlots api.nullSlots

/-- A property that has been set has another value on the source that
`setLocation(want)` leaves: on a new source that is not the default, or it is the active
effect slots and has not been set to the null slots. -/
def ForgetsAt (room : Bool) (parent : Parent) (s : EaxBuffer κ V) (dev : DeviceSources)
    (want : LocStatus) : Prop :=
  s.buffer.Moves want ∧ ((s.buffer.leaveLocation dev).2.acquire want).isSome ∧
    ((s.buffer.leaveLocation dev).1.mSource.isSome ∨ room) ∧
    ∃ p value, s.lastSet (api.key p) = some value ∧
      if s.nulls api parent ∧ api.key p = api.activeFxSlots then value ≠ api.nullSlots
      else (s.buffer.leaveLocation dev).1.mSource.isNone ∧ value ≠ api.default (api.key p)

/-- An operation makes a source forget a property: its call of `setLocation` does, or
`Prop::Set` generates a source although another property has been set. -/
def Forgets (s : EaxBuffer κ V) : EaxOp V → Prop
  | .propSet room parent p value =>
    parent.mExtensions.eax ∧ room ∧ s.buffer.mSource.isNone ∧
      ∃ p' value', s.lastSet (api.key p') = some value' ∧ value' ≠ api.default (api.key p') ∧
        ¬ (api.key p' = api.key p ∧ api.accepts (api.key p) value)
  | .play room parent dev _ flags _ =>
    ∃ want ∈ s.buffer.playCall flags, s.ForgetsAt api room parent dev want
  | .acquireResources room parent dev flags effectsCount resultCodes =>
    ∃ want ∈ s.buffer.acquireCall flags effectsCount resultCodes,
      s.ForgetsAt api room parent dev want
  | .other _ => False

variable {api} {s s' t : EaxBuffer κ V} {room : Bool} {parent : Parent} {dev dev' : DeviceSources}
  {want : LocStatus} {hr : HResult} {b : Buffer} {k : κ} {value : V}

/-! ## The source keeps what has been set -/

/-- The source has the last value of every property. -/
def Kept (api : EaxApi κ V) (s : EaxBuffer κ V) : Prop :=
  s.buffer.mSource.isSome → ∀ p value, s.lastSet (api.key p) = some value →
    s.eax (api.key p) = value

omit [DecidableEq κ] in
theorem propGet_eq (hparent : parent.mExtensions.eax) (hs : s.buffer.mSource.isSome)
    (p : EaxProp) : s.propGet api parent p = .ok (s.eax (api.key p)) := by
  simp [propGet, eaxGet, hparent, hs]

omit [DecidableEq κ] in
theorem getsLastSet_iff : s.GetsLastSet api ↔ s.Kept api := by
  constructor
  · intro h hs p value hset
    have hget := h eaxParent p value rfl hs hset
    rw [propGet_eq rfl hs] at hget
    exact Except.ok.inj hget
  · intro h parent p value hparent hs hset
    rw [propGet_eq hparent hs, h hs p value hset]

omit [DecidableEq κ] in
/-- Of the buffer only matters whether it has a source. -/
theorem kept_setBuffer (hs : b.mSource.isSome = s.buffer.mSource.isSome) :
    EaxBuffer.Kept api { s with buffer := b } ↔ s.Kept api := by
  unfold Kept
  rw [hs]

theorem eaxSet_buffer : (s.eaxSet api k value).2.buffer = s.buffer := by
  unfold eaxSet
  split <;> rfl

theorem eaxSet_lastSet : (s.eaxSet api k value).2.lastSet = s.lastSet := by
  unfold eaxSet
  split <;> rfl

theorem eaxSet_eax (hs : s.buffer.mSource.isSome) : (s.eaxSet api k value).2.eax =
    if api.accepts k value then Function.update s.eax k value else s.eax := by
  simp only [eaxSet, hs, true_and]
  split <;> rfl

/-! ## `setLocation` -/

/-- To the buffer it does what `setLocation` does. -/
theorem setLocation_buffer (hc : s.setLocation api room parent dev want = some (hr, s', dev')) :
    s.buffer.setLocationIn room parent dev want = some (hr, s'.buffer, dev') := by
  unfold setLocation at hc
  unfold Buffer.setLocationIn
  split at hc
  · rename_i h
    cases hc
    rw [if_pos h]
  rename_i h₁
  rw [if_neg h₁]
  split at hc
  · rename_i h
    cases hc
    rw [if_pos h]
  rename_i h₂
  rw [if_neg h₂]
  cases ha : (s.buffer.leaveLocation dev).2.acquire want with
  | none =>
      simp only [ha] at hc ⊢
      cases hc
      rfl
  | some kd =>
      simp only [ha] at hc ⊢
      obtain ⟨sb, hsb, hc⟩ := Option.bind_eq_some_iff.mp hc
      cases hc
      rw [hsb]
      rfl

/-- The properties of the source that `setLocation` leaves, where it finds a location. -/
def locatedEax (api : EaxApi κ V) (parent : Parent) (s : EaxBuffer κ V) (dev : DeviceSources) :
    κ → V :=
  let eax := if (s.buffer.leaveLocation dev).1.mSource.isSome then s.eax else api.default
  if s.nulls api parent then Function.update eax api.activeFxSlots api.nullSlots else eax

theorem setLocation_cases (hc : s.setLocation api room parent dev want = some (hr, s', dev')) :
    s'.lastSet = s.lastSet ∧
      ((¬ s.buffer.Moves want ∧ s' = s) ∨
      (s.buffer.Moves want ∧ (s.buffer.leaveLocation dev).2.acquire want = none ∧
        s'.eax = s.eax ∧ s'.buffer = (s.buffer.leaveLocation dev).1) ∨
      (s.buffer.Moves want ∧ ((s.buffer.leaveLocation dev).2.acquire want).isSome ∧
        s'.buffer.mSource.isSome = ((s.buffer.leaveLocation dev).1.mSource.isSome || room) ∧
        (s'.buffer.mSource.isSome → s'.eax = s.locatedEax api parent dev))) := by
  unfold setLocation at hc
  split at hc
  · cases hc
    rename_i h
    exact ⟨rfl, .inl ⟨fun hm ↦ (Buffer.moves_iff.mp hm).1 h, rfl⟩⟩
  split at hc
  · cases hc
    rename_i h
    exact ⟨rfl, .inl ⟨fun hm ↦ (Buffer.moves_iff.mp hm).2 h, rfl⟩⟩
  rename_i h₁ h₂
  have hmoves : s.buffer.Moves want := Buffer.moves_iff.mpr ⟨h₁, h₂⟩
  cases ha : (s.buffer.leaveLocation dev).2.acquire want with
  | none =>
      simp only [ha] at hc
      cases hc
      exact ⟨rfl, .inr (.inl ⟨hmoves, rfl, rfl, rfl⟩)⟩
  | some kd =>
      simp only [ha] at hc
      obtain ⟨sb, hsb, hc⟩ := Option.bind_eq_some_iff.mp hc
      have hsb' : s.buffer.mBuffer = some sb := by rwa [Buffer.leaveLocation_eq] at hsb
      have h3 : s.buffer.is3D = hasFlag sb.mFlags Caps.ctrl3D := by
        simp [Buffer.is3D, Buffer.hasCaps, hsb']
      simp only [genSource] at hc
      cases hc
      refine ⟨?_, .inr (.inr ⟨hmoves, rfl, ?_, fun hs ↦ ?_⟩)⟩
      · split_ifs <;> simp only [eaxSet_lastSet]
      · rw [Buffer.isSome_writeSource, Buffer.isSome_genSourceIn]
      · simp only [locatedEax, nulls, h3, Bool.and_assoc]
        by_cases hflat : (!hasFlag sb.mFlags Caps.ctrl3D) = true ∧ parent.mExtensions.eax = true
        · rw [if_pos hflat, eaxSet_eax, hflat.1, hflat.2]
          · rfl
          · exact hs
        · have hnull : (!hasFlag sb.mFlags Caps.ctrl3D &&
              (parent.mExtensions.eax && api.accepts api.activeFxSlots api.nullSlots)) = false := by
            rw [← Bool.and_assoc, Bool.and_eq_false_iff]
            exact .inl (by simpa using hflat)
          rw [if_neg hflat, hnull]
          rfl

/-- What the source that `setLocation` leaves has for a property that has been set. -/
theorem locatedEax_eq_iff (h : s.Kept api) {p : EaxProp}
    (hp : s.lastSet (api.key p) = some value) :
    s.locatedEax api parent dev (api.key p) = value ↔
      ¬ if s.nulls api parent ∧ api.key p = api.activeFxSlots then value ≠ api.nullSlots
        else (s.buffer.leaveLocation dev).1.mSource.isNone ∧ value ≠ api.default (api.key p) := by
  have hbase : (if (s.buffer.leaveLocation dev).1.mSource.isSome then s.eax else api.default)
        (api.key p) = value ↔
      ¬ ((s.buffer.leaveLocation dev).1.mSource.isNone ∧ value ≠ api.default (api.key p)) := by
    cases hl : (s.buffer.leaveLocation dev).1.mSource with
    | none => simp [eq_comm]
    | some src =>
        have hs : s.buffer.mSource.isSome := by
          rw [Buffer.mSource_leaveLocation] at hl
          rw [(Option.ite_none_right_eq_some.mp hl).2]
          rfl
        simpa using h hs p value hp
  unfold locatedEax
  by_cases hn : s.nulls api parent
  · by_cases hk : api.key p = api.activeFxSlots
    · simp only [hn, hk, if_true, and_self, Function.update_self, ne_eq, not_not]
      exact eq_comm
    · simp only [hn, hk, if_true, and_false, if_false, Function.update_of_ne, ne_eq,
        not_false_eq_true]
      exact hbase
  · rw [if_neg hn, if_neg fun hnk ↦ hn (And.left hnk)]
    exact hbase

/-- **`setLocation`** keeps what has been set if and only if it does not forget it. -/
theorem setLocation_kept (h : s.Kept api)
    (hc : s.setLocation api room parent dev want = some (hr, s', dev')) :
    s'.Kept api ↔ ¬ s.ForgetsAt api room parent dev want := by
  obtain ⟨hset, ⟨hmoves, rfl⟩ | ⟨-, ha, heax, hbuf⟩ | ⟨hmoves, ha, hsome, heax⟩⟩ :=
    setLocation_cases hc
  · exact iff_of_true h fun hf ↦ hmoves hf.1
  · refine iff_of_true (fun hs p value hp ↦ ?_) fun hf ↦ ?_
    · rw [hbuf, Buffer.mSource_leaveLocation] at hs
      rw [heax]
      refine h ?_ p value (hset ▸ hp)
      split at hs
      · exact hs
      · cases hs
    · have := hf.2.1
      simp [ha] at this
  · have hroom : s'.buffer.mSource.isSome ↔
        (s.buffer.leaveLocation dev).1.mSource.isSome ∨ room := by
      rw [hsome, Bool.or_eq_true]
    constructor
    · rintro hkept ⟨-, -, hr, p, value, hp, hne⟩
      have hget := hkept (hroom.mpr hr) p value (hset ▸ hp)
      rw [heax (hroom.mpr hr)] at hget
      exact (locatedEax_eq_iff h hp).mp hget hne
    · intro hf hs p value hp
      rw [hset] at hp
      rw [heax hs]
      exact (locatedEax_eq_iff h hp).mpr fun hne ↦
        hf ⟨hmoves, ha, hroom.mp hs, p, value, hp, hne⟩

/-! ## The methods -/

/-- A method that makes the call `call`. -/
theorem locate_kept (h : s.Kept api) {call : Option LocStatus}
    (hb : s.buffer.AfterCall room parent dev call b dev')
    (hc : s.locate api room parent dev call = some t) :
    EaxBuffer.Kept api { t with buffer := b } ↔
      ¬ ∃ want ∈ call, s.ForgetsAt api room parent dev want := by
  obtain ⟨hr, b₁, hcall, -, hs⟩ := hb
  cases call with
  | none =>
      cases hcall
      cases hc
      exact iff_of_true ((kept_setBuffer hs).mpr h) (by simp)
  | some want =>
      obtain ⟨⟨hr₁, t₁, dev₁⟩, hset, hc⟩ := Option.map_eq_some_iff.mp hc
      cases hc
      have hb₁ := (setLocation_buffer hset).symm.trans hcall
      cases hb₁
      rw [kept_setBuffer hs, setLocation_kept h hset]
      simp

theorem propSet_eq (hparent : parent.mExtensions.eax) (p : EaxProp) :
    (s.propSet api room parent p value).2 =
      if (s.genSource api room).buffer.mSource.isSome ∧ api.accepts (api.key p) value then
        { s.genSource api room with
          eax := Function.update (s.genSource api room).eax (api.key p) value
          lastSet := Function.update s.lastSet (api.key p) (some value) }
      else s.genSource api room := by
  simp only [propSet, eaxSet, hparent, Bool.not_true, Bool.false_eq_true, if_false]
  by_cases hok :
      (s.genSource api room).buffer.mSource.isSome ∧ api.accepts (api.key p) value
  · simp only [if_pos hok, if_true]
    rfl
  · simp only [if_neg hok, Bool.false_eq_true, if_false]

/-- What is set is kept, if the other properties are. -/
theorem kept_propSet (hparent : parent.mExtensions.eax) {p : EaxProp}
    (hs : (s.genSource api room).buffer.mSource.isSome) :
    (s.propSet api room parent p value).2.Kept api ↔
      ∀ p' value', ¬ (api.key p' = api.key p ∧ api.accepts (api.key p) value) →
        s.lastSet (api.key p') = some value' →
        (s.genSource api room).eax (api.key p') = value' := by
  rw [propSet_eq hparent]
  by_cases ha : api.accepts (api.key p) value
  · rw [if_pos ⟨hs, ha⟩]
    constructor
    · intro h p' value' hk hp'
      have hk : api.key p' ≠ api.key p := fun hk' ↦ hk ⟨hk', ha⟩
      have hget := h hs p' value'
      simp only [Function.update_of_ne hk] at hget
      exact hget hp'
    · intro h _ p' value' hp'
      by_cases hk : api.key p' = api.key p
      · simp only [hk, Function.update_self] at hp' ⊢
        exact Option.some.inj hp'
      · simp only [Function.update_of_ne hk] at hp' ⊢
        exact h p' value' (fun hk' ↦ hk hk'.1) hp'
  · rw [if_neg fun h ↦ ha h.2]
    constructor
    · exact fun h p' value' _ hp' ↦ h hs p' value' hp'
    · exact fun h _ p' value' hp' ↦ h p' value' (fun hk ↦ ha hk.2) hp'

/-- **`Prop::Set`** keeps what has been set if and only if it does not generate a source
while another property has been set. -/
theorem propSet_kept (h : s.Kept api) {p : EaxProp} :
    (s.propSet api room parent p value).2.Kept api ↔
      ¬ s.Forgets api (.propSet room parent p value) := by
  by_cases hparent : parent.mExtensions.eax
  · cases hs : s.buffer.mSource with
    | some src =>
        have hsome : s.buffer.mSource.isSome := by simp [hs]
        have hgen : (s.genSource api room).buffer.mSource.isSome := by
          simp [genSource, hsome]
        refine iff_of_true ((kept_propSet hparent hgen).mpr fun p' value' _ hp' ↦ ?_) fun hf ↦ ?_
        · simp only [genSource, hsome, if_true]
          exact h hsome p' value' hp'
        · have := hf.2.2.1
          simp [hs] at this
    | none =>
        cases room with
        | false =>
            have hgen : ¬ (s.genSource api false).buffer.mSource.isSome := by simp [genSource, hs]
            rw [propSet_eq hparent, if_neg fun hok ↦ hgen hok.1]
            exact iff_of_true (fun hs' ↦ absurd hs' hgen) fun hf ↦ by simpa using hf.2.1
        | true =>
            have hgen : (s.genSource api true).buffer.mSource.isSome := by simp [genSource, hs]
            have heax : (s.genSource api true).eax = api.default := by simp [genSource, hs]
            rw [kept_propSet hparent hgen, heax]
            constructor
            · rintro hall ⟨-, -, -, p', value', hp', hne, hk⟩
              exact hne (hall p' value' hk hp').symm
            · intro hf p' value' hk hp'
              by_contra hne
              exact hf ⟨hparent, rfl, by simp [hs], p', value', hp', Ne.symm hne, hk⟩
  · have hsame : (s.propSet api room parent p value).2 = s := by simp [propSet, hparent]
    rw [hsame]
    exact iff_of_true h fun hf ↦ hparent hf.1

/-- **One operation** keeps what has been set if and only if it does not forget it. -/
theorem exec_kept {op : EaxOp V} (h : s.Kept api) (hc : s.exec api op = some s') :
    s'.Kept api ↔ ¬ s.Forgets api op := by
  cases op with
  | propSet room parent p value =>
      cases hc
      exact propSet_kept h
  | play room parent dev priority flags started =>
      obtain ⟨⟨hr, b, dev', notify⟩, hplay, hc⟩ := Option.bind_eq_some_iff.mp hc
      obtain ⟨t, hloc, hc⟩ := Option.bind_eq_some_iff.mp hc
      cases hc
      exact locate_kept h (Buffer.playIn_answers hplay).afterCall hloc
  | acquireResources room parent dev flags effectsCount resultCodes =>
      obtain ⟨⟨hr, b, dev'⟩, hacq, hc⟩ := Option.bind_eq_some_iff.mp hc
      obtain ⟨t, hloc, hc⟩ := Option.bind_eq_some_iff.mp hc
      cases hc
      exact locate_kept h (Buffer.acquireResourcesIn_answers hacq).afterCall hloc
  | other b =>
      obtain ⟨⟨hs, -⟩, hc⟩ := Option.ite_none_right_eq_some.mp hc
      cases hc
      exact iff_of_true ((kept_setBuffer hs).mpr h) id

end EaxBuffer

/-! ## Every run -/

open EaxBuffer

/-- **EAX properties are kept.**  In every run in which no operation forgets a property,
`Prop::Get` returns the last value the application has set, on a buffer that has a source;
and an operation keeps that up if and only if it forgets no property. -/
theorem eax_gets_last_set {κ V : Type} [DecidableEq κ] (api : EaxApi κ V) {s : EaxBuffer κ V}
    (h : Reachable (guarded (fun s op ↦ ¬ s.Forgets api op) (functional (exec api)))
      EaxBuffer.IsNew s) :
    s.GetsLastSet api ∧
      ∀ op s', s.exec api op = some s' → (s'.GetsLastSet api ↔ ¬ s.Forgets api op) := by
  simp only [getsLastSet_iff]
  have hkept : s.Kept api := by
    refine h.invariant (fun t ht _ p value hp ↦ ?_) ?_
    · rw [ht] at hp
      cases hp
    · rintro t op t' ht ⟨hop, hc⟩
      exact (exec_kept ht hc).mpr hop
  exact ⟨hkept, fun op s' hc ↦ exec_kept hkept hc⟩

/-- An EAX implementation whose properties are numbers. -/
def numberedEax : EaxApi EaxProp ℕ where
  key := id
  default := fun _ ↦ 0
  accepts := fun _ _ ↦ true
  nullSlots := 0

/-- `EAXSOURCE_DIRECT` of an EAX 4.0 source. -/
def eaxDirect : EaxProp := (.eax40Source, 5)

/-- A new 3D buffer whose location is deferred. -/
def deferredBuffer : EaxBuffer EaxProp ℕ where
  buffer := ((Buffer.fresh 0 true).attach {} (some (monoDesc (Caps.locDefer ||| Caps.ctrl3D))) true
    ).toOption.getD (.fresh 0 true)
  eax := fun _ ↦ 0
  lastSet := fun _ ↦ none

/-- A property is set before the first `Play`, and read after it. -/
theorem eax_gets_last_set_play : ∃ s : EaxBuffer EaxProp ℕ,
    Reachable (guarded (fun s op ↦ ¬ s.Forgets numberedEax op) (functional (exec numberedEax)))
      EaxBuffer.IsNew s ∧ s.propGet numberedEax eaxParent eaxDirect = .ok 7 := by
  have h0 : Reachable (guarded (fun s op ↦ ¬ s.Forgets numberedEax op)
      (functional (exec numberedEax))) EaxBuffer.IsNew deferredBuffer := .init rfl
  have hfirst : ¬ deferredBuffer.Forgets numberedEax (.propSet true eaxParent eaxDirect 7) := by
    rintro ⟨-, -, -, p, value, hp, -⟩
    cases hp
  have hplay : ¬ (deferredBuffer.propSet numberedEax true eaxParent eaxDirect 7).2.Forgets
      numberedEax (.play true eaxParent oneSource 0 0 true) := by
    rintro ⟨want, -, -, -, -, p, value, -, hne⟩
    rw [if_neg fun hn ↦ absurd hn.1 (by decide)] at hne
    exact absurd hne.1 (by decide)
  obtain ⟨s, hs, hset⟩ := (Option.any_eq_true _ _).mp (show Option.any
    (fun s ↦ decide (s.buffer.mSource.isSome ∧ s.lastSet eaxDirect = some 7))
    (exec numberedEax (deferredBuffer.propSet numberedEax true eaxParent eaxDirect 7).2
      (.play true eaxParent oneSource 0 0 true)) = true by decide +kernel)
  have h2 := (h0.step ⟨hfirst, rfl⟩).step ⟨hplay, hs⟩
  obtain ⟨hsome, hset⟩ := of_decide_eq_true hset
  exact ⟨s, h2, (eax_gets_last_set numberedEax h2).1 eaxParent eaxDirect 7 rfl hsome hset⟩

/-- A property is set, the buffer gets a hardware location and then a software location. -/
theorem eax_property_lost : ∃ s : EaxBuffer EaxProp ℕ,
    Reachable (functional (exec numberedEax)) EaxBuffer.IsNew s ∧
      ¬ s.GetsLastSet numberedEax := by
  obtain ⟨s, hs, hsome, hset, hget⟩ := Reachable.exists_of_runFun
    (p := fun s : EaxBuffer EaxProp ℕ ↦ s.buffer.mSource.isSome ∧
      s.lastSet eaxDirect = some 7 ∧ s.propGet numberedEax eaxParent eaxDirect ≠ .ok 7)
    (f := exec numberedEax) (show deferredBuffer.IsNew from rfl)
    [.propSet true eaxParent eaxDirect 7,
      .acquireResources true eaxParent leastContext.dev PlayFlags.locHardware 0 false,
      .acquireResources true eaxParent leastContext.dev PlayFlags.locSoftware 0 false]
    (by decide +kernel)
  exact ⟨s, hs, fun h ↦ hget (h eaxParent eaxDirect 7 rfl hsome hset)⟩

end Dsoal
