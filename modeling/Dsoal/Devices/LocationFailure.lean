import Dsoal.Eax.Properties

/-!
# Failing to find a location

`setLocation` returns the source of the old location before it looks for a new one.  If
`Play` or `AcquireResources` then fails with `DSERR_ALLOCATED`, a buffer that had no location
is as it was, with the source that `Prop::Set` may have generated for it; a buffer that had
one has given it back, and its source with it.
-/

namespace Dsoal

open TransitionSystem

/-- A call of a method that locates a buffer. -/
inductive Locating where
  | play (priority flags : UInt32) (started : Bool)
  | acquireResources (flags effectsCount : UInt32) (resultCodes : Bool)

/-- Perform one: what it returns, and the buffer and the counters afterwards. -/
def EaxBuffer.perform {κ V : Type} [DecidableEq κ] (api : EaxApi κ V) (room : Bool)
    (parent : Parent) (s : EaxBuffer κ V) (dev : DeviceSources) :
    Locating → Option (HResult × EaxBuffer κ V × DeviceSources)
  | .play priority flags started => do
    let (hr, _, dev', _) ← s.buffer.playIn room parent dev priority flags started
    let t ← s.play api room parent dev priority flags started
    some (hr, t, dev')
  | .acquireResources flags effectsCount resultCodes => do
    let (hr, _, dev') ← s.buffer.acquireResourcesIn room parent dev flags effectsCount resultCodes
    let t ← s.acquireResources api room parent dev flags effectsCount resultCodes
    some (hr, t, dev')

namespace Buffer

variable {room : Bool} {parent : Parent} {b b' : Buffer} {dev dev' : DeviceSources}
  {want : LocStatus} {flags : UInt32}

theorem leaveLocation_of_none (h : b.mLocStatus = .none) : b.leaveLocation dev = (b, dev) := by
  unfold leaveLocation
  rw [h]

theorem leaveLocation_of_loc {k : Pool} (h : b.mLocStatus = .loc k) : b.leaveLocation dev =
    ({ b with mSource := none, mLocStatus := .none }, dev.decSources (.loc k)) := by
  unfold leaveLocation
  rw [h]

/-- `setLocation` fails with what `leaveLocation` leaves. -/
theorem setLocationIn_allocated
    (hc : b.setLocationIn room parent dev want = some (.allocated, b', dev')) :
    b.Moves want ∧ (b.leaveLocation dev).2.acquire want = none ∧
      b' = (b.leaveLocation dev).1 ∧ dev' = (b.leaveLocation dev).2 := by
  rcases setLocationIn_cases hc with ⟨-, h0, -⟩ | ⟨hmoves, ha, -, hb, hdev⟩ | ⟨-, k, sb, -, h0, -⟩
  · cases h0
  · exact ⟨hmoves, ha, hb, hdev⟩
  · cases h0

end Buffer

namespace EaxBuffer

variable {κ V : Type} [DecidableEq κ] {api : EaxApi κ V} {s t : EaxBuffer κ V} {room : Bool}
  {parent : Parent} {b' : Buffer} {dev dev' : DeviceSources} {want : LocStatus} {call : Locating}

/-- A call of `setLocation` that fails does not touch the properties. -/
theorem locate_allocated {call : Option LocStatus} (hcall : call = some want)
    (hb : s.buffer.setLocationIn room parent dev want = some (.allocated, b', dev'))
    (hc : s.locate api room parent dev call = some t) : t = { s with buffer := b' } := by
  subst hcall
  obtain ⟨hmoves, ha, rfl, -⟩ := Buffer.setLocationIn_allocated hb
  obtain ⟨⟨hr, t, dev₁⟩, hset, rfl⟩ := Option.map_eq_some_iff.mp hc
  obtain ⟨h₁, h₂⟩ := Buffer.moves_iff.mp hmoves
  unfold setLocation at hset
  rw [if_neg h₁, if_neg h₂] at hset
  simp only [ha] at hset
  cases hset
  rfl

/-- **A call that fails for want of a slot** does to the buffer and the counters what
`leaveLocation` does, and nothing else. -/
theorem perform_allocated (hc : s.perform api room parent dev call = some (.allocated, t, dev')) :
    t = { s with buffer := (s.buffer.leaveLocation dev).1 } ∧
      dev' = (s.buffer.leaveLocation dev).2 := by
  cases call with
  | play priority flags started =>
      obtain ⟨⟨hr, b₁, dev₁, notify⟩, hplay, hc⟩ := Option.bind_eq_some_iff.mp hc
      obtain ⟨t₁, ht, hc⟩ := Option.bind_eq_some_iff.mp hc
      cases hc
      obtain ⟨want, hcall, hset⟩ := (Buffer.playIn_answers hplay).allocated
      unfold EaxBuffer.play at ht
      simp only [hplay, Option.bind_eq_bind, Option.bind_some] at ht
      obtain ⟨t₂, hloc, ht⟩ := Option.bind_eq_some_iff.mp ht
      cases ht
      obtain rfl := locate_allocated hcall hset hloc
      obtain ⟨-, -, rfl, rfl⟩ := Buffer.setLocationIn_allocated hset
      exact ⟨rfl, rfl⟩
  | acquireResources flags effectsCount resultCodes =>
      obtain ⟨⟨hr, b₁, dev₁⟩, hacquire, hc⟩ := Option.bind_eq_some_iff.mp hc
      obtain ⟨t₁, ht, hc⟩ := Option.bind_eq_some_iff.mp hc
      cases hc
      obtain ⟨want, hcall, hset⟩ := (Buffer.acquireResourcesIn_answers hacquire).allocated
      unfold EaxBuffer.acquireResources at ht
      simp only [hacquire, Option.bind_eq_bind, Option.bind_some] at ht
      obtain ⟨t₂, hloc, ht⟩ := Option.bind_eq_some_iff.mp ht
      cases ht
      obtain rfl := locate_allocated hcall hset hloc
      obtain ⟨-, -, rfl, rfl⟩ := Buffer.setLocationIn_allocated hset
      exact ⟨rfl, rfl⟩

end EaxBuffer

/-- **A call that fails with `DSERR_ALLOCATED`** changes nothing if the buffer has no location,
and otherwise gives back the location and the source. -/
theorem location_given_back {κ V : Type} [DecidableEq κ] (api : EaxApi κ V) {s t : EaxBuffer κ V}
    {room : Bool} {parent : Parent} {dev dev' : DeviceSources} {call : Locating}
    (hc : s.perform api room parent dev call = some (.allocated, t, dev')) :
    (s.buffer.mLocStatus = .none → t = s ∧ dev' = dev) ∧
    (s.buffer.mLocStatus ≠ .none →
      t = { s with buffer := { s.buffer with mSource := none, mLocStatus := .none } } ∧
      dev'.mMaxSources = dev.mMaxSources ∧
      ∀ k, dev'.mCurrentSources k = if s.buffer.mLocStatus = .loc k
        then dev.mCurrentSources k - 1 else dev.mCurrentSources k) ∧
    ((t.buffer.mLocStatus = s.buffer.mLocStatus ∧ t.buffer.mSource = s.buffer.mSource ∧
      t.eax = s.eax ∧ dev'.mCurrentSources = dev.mCurrentSources) ↔
        s.buffer.mLocStatus = .none) := by
  obtain ⟨rfl, rfl⟩ := EaxBuffer.perform_allocated hc
  cases hloc : s.buffer.mLocStatus with
  | none =>
      rw [Buffer.leaveLocation_of_none hloc]
      exact ⟨fun _ ↦ ⟨rfl, rfl⟩, fun hne ↦ absurd rfl hne,
        iff_of_true ⟨hloc, rfl, rfl, rfl⟩ rfl⟩
  | loc k =>
      rw [Buffer.leaveLocation_of_loc hloc]
      refine ⟨?_, ?_, ?_⟩
      · intro hnone
        cases hnone
      · rintro -
        refine ⟨rfl, rfl, fun j ↦ ?_⟩
        show Function.update dev.mCurrentSources k (dev.mCurrentSources k - 1) j = _
        by_cases hj : j = k
        · subst hj
          rw [Function.update_self, if_pos rfl]
        · rw [Function.update_of_ne hj, if_neg fun h ↦ hj (LocStatus.loc.inj h).symm]
      · constructor
        · rintro ⟨hsame, -⟩
          cases hsame
        · intro hnone
          cases hnone

/-- A device whose software pool is full. -/
def softwareFull : DeviceSources where
  mMaxSources := fun _ ↦ 64
  mCurrentSources := fun
    | .hw => 1
    | .sw => 64

/-- A buffer with a hardware location. -/
def hardwareBuffer : EaxBuffer EaxProp ℕ :=
  { deferredBuffer with
    buffer := { deferredBuffer.buffer with mSource := some {}, mLocStatus := .hardware } }

/-- A buffer that has got its source from `Prop::Set`. -/
def unmarkedBuffer : EaxBuffer EaxProp ℕ :=
  (deferredBuffer.propSet numberedEax true eaxParent eaxDirect 7).2

theorem EaxBuffer.exists_of_perform {κ V : Type} [DecidableEq κ] {api : EaxApi κ V}
    {s : EaxBuffer κ V} {room : Bool} {parent : Parent} {dev : DeviceSources} {call : Locating}
    (h : (s.perform api room parent dev call).any (fun r ↦ r.1 = .allocated) = true) :
    ∃ t dev', s.perform api room parent dev call = some (.allocated, t, dev') := by
  obtain ⟨⟨hr, t, dev'⟩, hperform, hallocated⟩ := (Option.any_eq_true _ _).mp h
  obtain rfl : hr = .allocated := of_decide_eq_true hallocated
  exact ⟨t, dev', hperform⟩

/-- The two buffers, with the software pool full. -/
theorem location_given_back_two :
    (∃ t dev', hardwareBuffer.perform numberedEax true eaxParent softwareFull
        (.play 0 PlayFlags.locSoftware true) = some (.allocated, t, dev') ∧
      t.buffer.mLocStatus = .none ∧ t.buffer.mSource = none ∧ dev'.mCurrentSources .hw = 0) ∧
    unmarkedBuffer.buffer.mSource.isSome ∧
      unmarkedBuffer.perform numberedEax true eaxParent softwareFull
        (.acquireResources PlayFlags.locSoftware 0 false) =
          some (.allocated, unmarkedBuffer, softwareFull) := by
  constructor
  · obtain ⟨t, dev', hperform⟩ := EaxBuffer.exists_of_perform (s := hardwareBuffer)
      (show (hardwareBuffer.perform numberedEax true eaxParent softwareFull
        (.play 0 PlayFlags.locSoftware true)).any (fun r ↦ r.1 = .allocated) = true by
          decide +kernel)
    obtain ⟨ht, -, hcount⟩ := (location_given_back numberedEax hperform).2.1 (by decide +kernel)
    exact ⟨t, dev', hperform, by rw [ht], by rw [ht], hcount .hw⟩
  · obtain ⟨t, dev', hperform⟩ := EaxBuffer.exists_of_perform (s := unmarkedBuffer)
      (show (unmarkedBuffer.perform numberedEax true eaxParent softwareFull
        (.acquireResources PlayFlags.locSoftware 0 false)).any (fun r ↦ r.1 = .allocated) = true by
          decide +kernel)
    obtain ⟨rfl, rfl⟩ := (location_given_back numberedEax hperform).1 (by decide +kernel)
    exact ⟨by decide +kernel, hperform⟩

/-- Fill the software pool, and give one more buffer a hardware location. -/
def fillSoftware : List ContextOp :=
  List.replicate 64 (.createSoundBuffer eaxParent true (monoDesc Caps.locSoftware) true) ++
    [.createSoundBuffer eaxParent true (monoDesc Caps.locDefer) true,
      .acquireResources 64 eaxParent PlayFlags.locHardware 0 false]

/-- On a device whose software pool is full, a buffer with a hardware location is played with
`DSBPLAY_LOCSOFTWARE`.  The call fails, and the buffer has lost its location and its source. -/
theorem location_lost : ∃ c : SourceContext,
    Reachable (functional SourceContext.exec) SourceContext.IsNew c ∧
    ∃ b, c.buffers[64]? = some b ∧ b.hasCaps Caps.locDefer ∧
      b.mLocStatus = .hardware ∧ b.mSource.isSome ∧
      ∃ t dev', EaxBuffer.perform numberedEax true eaxParent ⟨b, fun _ ↦ 0, fun _ ↦ none⟩ c.dev
          (.play 0 PlayFlags.locSoftware true) = some (.allocated, t, dev') ∧
        t.buffer.mLocStatus ≠ b.mLocStatus ∧ t.buffer.mSource ≠ b.mSource ∧
        dev'.mCurrentSources ≠ c.dev.mCurrentSources := by
  obtain ⟨c, hc, h⟩ := Reachable.exists_of_runFun
    (p := fun c : SourceContext ↦ (c.buffers[64]?.any fun b ↦
      decide (b.hasCaps Caps.locDefer ∧ b.mLocStatus = .hardware ∧ b.mSource.isSome) &&
      (EaxBuffer.perform numberedEax true eaxParent ⟨b, fun _ ↦ 0, fun _ ↦ none⟩ c.dev
        (.play 0 PlayFlags.locSoftware true)).any fun r ↦
          decide (r.1 = .allocated ∧ r.2.1.buffer.mLocStatus = .none ∧
            r.2.1.buffer.mSource.isNone ∧
            r.2.2.mCurrentSources .hw ≠ c.dev.mCurrentSources .hw)) = true)
    (f := SourceContext.exec) (show leastContext.IsNew from ⟨rfl, 128, rfl⟩) fillSoftware
    (by decide +kernel)
  obtain ⟨b, hb, h⟩ := (Option.any_eq_true _ _).mp h
  obtain ⟨hbuffer, hcall⟩ := Bool.and_eq_true_iff.mp h
  obtain ⟨⟨hr, t, dev'⟩, hperform, hlost⟩ := (Option.any_eq_true _ _).mp hcall
  obtain ⟨hdefer, hloc, hsource⟩ := of_decide_eq_true hbuffer
  obtain ⟨rfl, hnone, hgone, hcount⟩ := of_decide_eq_true hlost
  refine ⟨c, hc, b, hb, hdefer, hloc, hsource, t, dev', hperform, ?_, ?_, ?_⟩
  · rw [hloc, hnone]
    exact LocStatus.noConfusion
  · intro hsame
    rw [Option.isNone_iff_eq_none.mp hgone] at hsame
    rw [← hsame] at hsource
    cases hsource
  · intro hsame
    exact hcount (congrFun hsame .hw)

end Dsoal
