import Mathlib.Data.List.Perm.Basic
import Dsoal.Core.SourceContext
import Dsoal.Object.Steps

/-!
# Located buffers have a source

A buffer with a location has a source as long as `alGenSources` finds room when
`setLocation` calls it.  The context has room for one source for each slot of the two
pools, so it can only be full then because of the sources `Prop::Set` has generated for
buffers without a location, which occupy no slot.  `LocationCall.RunsOut` says that these
are at least as many as the slots that are free; `located_have_sources` is the result for
all runs in which no call of `setLocation` runs out.
-/

namespace Dsoal

open TransitionSystem

/-! ## The calls of `setLocation` -/

/-- A call of `setLocation` on one of the buffers of a context. -/
structure LocationCall where
  buffer : Buffer
  want : LocStatus
  /-- The other buffers. -/
  others : List Buffer

namespace SourceContext

/-- Every buffer with a location has a source. -/
def Sourced (l : List Buffer) : Prop := ∀ b ∈ l, b.mLocStatus ≠ .none → b.mSource.isSome

/-- The number of buffers in the pool `k`. -/
def inPool (k : Pool) (l : List Buffer) : ℕ := l.countP fun b ↦ b.mLocStatus = .loc k

/-- The number of buffers with a source but no location. -/
def unmarked (l : List Buffer) : ℕ := l.countP fun b ↦ b.mSource.isSome && b.mLocStatus = .none

/-- The counters of the device count the buffers, and stay in their bounds. -/
def Counted (dev : DeviceSources) (l : List Buffer) : Prop :=
  ∀ k, (dev.mCurrentSources k).toNat = inPool k l ∧ dev.mCurrentSources k ≤ dev.mMaxSources k

end SourceContext

namespace DeviceSources

/-- The number of slots no buffer has. -/
def freeSlots (dev : DeviceSources) : ℕ :=
  ((dev.mMaxSources .hw).toNat - (dev.mCurrentSources .hw).toNat) +
    ((dev.mMaxSources .sw).toNat - (dev.mCurrentSources .sw).toNat)

end DeviceSources

open SourceContext

namespace LocationCall

/-- The call takes a slot for a buffer that needs a new source, while the other buffers
have at least as many sources without a location as there are free slots. -/
def RunsOut (c : LocationCall) (dev : DeviceSources) : Prop :=
  c.buffer.Moves c.want ∧ ((c.buffer.leaveLocation dev).2.acquire c.want).isSome ∧
    (c.buffer.leaveLocation dev).1.mSource.isNone ∧
    (c.buffer.leaveLocation dev).2.freeSlots ≤ unmarked c.others

instance (c : LocationCall) (dev : DeviceSources) : Decidable (c.RunsOut dev) :=
  inferInstanceAs (Decidable (_ ∧ _))

end LocationCall

namespace SourceContext

/-- The call of `setLocation` that initializes the constructed buffer `b`. -/
def initCall (s : SourceContext) (parent : Parent) (b : Buffer) (desc : Option BufferDesc)
    (memory : Bool) : Option LocationCall :=
  match b.attach parent.mExtensions desc memory with
  | .error _ => none
  | .ok b => b.initCall.map fun want ↦ ⟨b, want, s.buffers⟩

/-- The call of `setLocation` an operation makes. -/
def call (s : SourceContext) : ContextOp → Option LocationCall
  | .createSoundBuffer parent is8 desc memory =>
    s.initCall parent (.fresh s.buffers.length is8) (some desc) memory
  | .duplicateSoundBuffer i parent is8 => do
    let orig ← s.buffers[i]?
    if orig.hasCaps Caps.ctrlFX then none
    else
      let b ← Buffer.duplicate s.buffers.length is8 orig
      s.initCall parent b none true
  | .play i _ _ flags _ => do
    let b ← s.buffers[i]?
    (b.playCall flags).map fun want ↦ ⟨b, want, s.buffers.eraseIdx i⟩
  | .acquireResources i _ flags effectsCount resultCodes => do
    let b ← s.buffers[i]?
    (b.acquireCall flags effectsCount resultCodes).map fun want ↦
      ⟨b, want, s.buffers.eraseIdx i⟩
  | .release _ | .propSet _ _ | .other _ _ => none

/-- The operation calls `setLocation` and runs out of sources there. -/
def RunsOut (s : SourceContext) (op : ContextOp) : Prop := ∃ c ∈ s.call op, c.RunsOut s.dev

instance (s : SourceContext) (op : ContextOp) : Decidable (s.RunsOut op) :=
  inferInstanceAs (Decidable (∃ c ∈ s.call op, c.RunsOut s.dev))

end SourceContext

variable {room : Bool} {parent : Parent} {b b' b₁ : Buffer} {dev dev' : DeviceSources}
  {want : LocStatus} {hr : HResult} {others l : List Buffer} {k : Pool}

/-! ## `setLocation` -/

namespace Buffer

theorem moves_iff : b.Moves want ↔
    ¬ (want ≠ .none ∧ b.mLocStatus = want) ∧ ¬ (want = .none ∧ b.mLocStatus ≠ .none) := by
  unfold Moves
  split_ifs with h
  · simp [h]
  · simp [h]

/-- What `setLocation` does: nothing, give up the location, or find another. -/
theorem setLocationIn_cases (hc : b.setLocationIn room parent dev want = some (hr, b', dev')) :
    (¬ b.Moves want ∧ hr = .ok ∧ b' = b ∧ dev' = dev) ∨
    (b.Moves want ∧ (b.leaveLocation dev).2.acquire want = none ∧ hr = .allocated ∧
      b' = (b.leaveLocation dev).1 ∧ dev' = (b.leaveLocation dev).2) ∨
    (b.Moves want ∧ ∃ k sb, (b.leaveLocation dev).2.acquire want = some (k, dev') ∧ hr = .ok ∧
      b' = { ((b.leaveLocation dev).1.genSourceIn room).writeSource
          (((b.leaveLocation dev).1.genSourceIn room).locationWrites parent sb) with
        mLocStatus := .loc k }) := by
  unfold setLocationIn at hc
  split at hc
  · rename_i h
    cases hc
    exact .inl ⟨fun hm ↦ (moves_iff.mp hm).1 h, rfl, rfl, rfl⟩
  rename_i h₁
  split at hc
  · rename_i h
    cases hc
    exact .inl ⟨fun hm ↦ (moves_iff.mp hm).2 h, rfl, rfl, rfl⟩
  rename_i h₂
  have hmoves : b.Moves want := moves_iff.mpr ⟨h₁, h₂⟩
  cases ha : (b.leaveLocation dev).2.acquire want with
  | none =>
      simp only [ha] at hc
      cases hc
      exact .inr (.inl ⟨hmoves, rfl, rfl, rfl, rfl⟩)
  | some kd =>
      simp only [ha] at hc
      obtain ⟨sb, -, hc⟩ := Option.bind_eq_some_iff.mp hc
      cases hc
      exact .inr (.inr ⟨hmoves, kd.1, sb, rfl, rfl, rfl⟩)

theorem mLocStatus_leaveLocation (b : Buffer) (dev : DeviceSources) :
    (b.leaveLocation dev).1.mLocStatus = .none := by rw [leaveLocation_eq]

/-- A buffer that gives up its location gives up its source. -/
theorem mSource_leaveLocation (b : Buffer) (dev : DeviceSources) :
    (b.leaveLocation dev).1.mSource = if b.mLocStatus = .none then b.mSource else none := by
  rw [leaveLocation_eq]

theorem snd_leaveLocation (b : Buffer) (dev : DeviceSources) :
    (b.leaveLocation dev).2 = dev.decSources b.mLocStatus := by
  unfold leaveLocation
  split
  · rename_i h
    rw [h]
    rfl
  · rfl

@[simp] theorem isSome_genSourceIn (room : Bool) (b : Buffer) :
    (b.genSourceIn room).mSource.isSome = (b.mSource.isSome || room) := by
  unfold genSourceIn
  cases b.mSource <;> cases room <;> rfl

@[simp] theorem isSome_writeSource (b : Buffer) (ws : SourceWrites) :
    (b.writeSource ws).mSource.isSome = b.mSource.isSome := Option.isSome_map

theorem mLocStatus_propSetIn (room : Bool) (parent : Parent) (b : Buffer) :
    (b.propSetIn room parent).mLocStatus = b.mLocStatus := by
  unfold propSetIn
  split <;> rfl

theorem isSome_propSetIn (room : Bool) (parent : Parent) (h : b.mSource.isSome) :
    (b.propSetIn room parent).mSource.isSome := by
  unfold propSetIn
  split
  · rw [isSome_genSourceIn, h]
    rfl
  · exact h

end Buffer

/-! ## The counters -/

namespace DeviceSources

theorem incSources_eq_some {dev₁ : DeviceSources} (h : dev.incSources k = some dev₁) :
    dev.mCurrentSources k ≠ dev.mMaxSources k ∧
      dev₁.mMaxSources = dev.mMaxSources ∧
      dev₁.mCurrentSources =
        Function.update dev.mCurrentSources k (dev.mCurrentSources k + 1) := by
  obtain ⟨hne, rfl⟩ := Option.ite_none_left_eq_some.mp h |>.imp id Option.some.inj
  exact ⟨hne, rfl, rfl⟩

/-- A source is taken from a pool that is not full. -/
theorem acquire_eq_some (h : dev.acquire want = some (k, dev')) :
    dev.mCurrentSources k ≠ dev.mMaxSources k ∧
      dev'.mMaxSources = dev.mMaxSources ∧
      dev'.mCurrentSources =
        Function.update dev.mCurrentSources k (dev.mCurrentSources k + 1) := by
  unfold acquire at h
  split at h
  · rename_i dev₁ h₁
    cases h
    obtain ⟨-, h₁⟩ := Option.ite_none_right_eq_some.mp h₁
    exact incSources_eq_some h₁
  · obtain ⟨-, h⟩ := Option.ite_none_right_eq_some.mp h
    obtain ⟨dev₁, h₁, h⟩ := Option.map_eq_some_iff.mp h
    cases h
    exact incSources_eq_some h₁

end DeviceSources

namespace SourceContext

theorem inPool_cons (b : Buffer) :
    inPool k (b :: l) = inPool k l + if b.mLocStatus = .loc k then 1 else 0 := by
  simp [inPool, List.countP_cons]

/-- The sources are those of the located buffers, and the unmarked ones. -/
theorem numSources_eq (h : Sourced l) :
    numSources l = inPool .hw l + inPool .sw l + unmarked l := by
  induction l with
  | nil => rfl
  | cons b l ih =>
      have ih := ih fun c hc ↦ h c (List.mem_cons_of_mem b hc)
      have hb := h b List.mem_cons_self
      simp only [numSources, unmarked, inPool, List.countP_cons] at ih ⊢
      rw [ih]
      cases hl : b.mLocStatus with
      | none => cases b.mSource <;> simp [Nat.add_assoc]
      | loc k =>
          have hs : b.mSource.isSome := hb (by simp [hl])
          cases k <;> simp [hs] <;> omega

theorem Counted.perm (h : Counted dev l) (hp : l.Perm others) : Counted dev others :=
  fun k ↦ ⟨(h k).1.trans (hp.countP_eq _), (h k).2⟩

theorem Sourced.perm (h : Sourced l) (hp : l.Perm others) : Sourced others :=
  fun b hb ↦ h b (hp.mem_iff.mpr hb)

theorem sourced_cons :
    Sourced (b :: l) ↔ (b.mLocStatus ≠ .none → b.mSource.isSome) ∧ Sourced l :=
  List.forall_mem_cons

/-- Only the locations count. -/
theorem Counted.congr (h : Counted dev (b :: l)) (hl : b'.mLocStatus = b.mLocStatus) :
    Counted dev (b' :: l) := by
  intro k
  rw [inPool_cons, hl, ← inPool_cons]
  exact h k

/-- A buffer gives up its location, or is destroyed. -/
theorem Counted.decSources (h : Counted dev (b :: l)) :
    Counted (dev.decSources b.mLocStatus) l := by
  intro k
  have hk := h k
  rw [inPool_cons] at hk
  cases hl : b.mLocStatus with
  | none => simpa [hl, DeviceSources.decSources] using hk
  | loc j =>
      rcases eq_or_ne j k with rfl | hj
      · have hpos : (1 : UInt32) ≤ dev.mCurrentSources j := by
          rw [UInt32.le_iff_toNat_le, hk.1]
          simp [hl]
        have hsub := UInt32.toNat_sub_of_le _ _ hpos
        simp only [DeviceSources.decSources, Function.update_self, UInt32.le_iff_toNat_le, hsub]
        have hle := UInt32.le_iff_toNat_le.mp hk.2
        simp only [hl, if_true] at hk
        refine ⟨?_, ?_⟩
        · rw [hk.1]
          simp
        · omega
      · simpa [hl, hj, hj.symm, DeviceSources.decSources] using hk

/-- An unlocated buffer takes a slot. -/
theorem Counted.acquire (h : Counted dev l) (ha : dev.acquire want = some (k, dev'))
    (hb : b.mLocStatus = .loc k) : Counted dev' (b :: l) := by
  obtain ⟨hne, hmax, hcur⟩ := DeviceSources.acquire_eq_some ha
  intro j
  obtain ⟨hj, hle⟩ := h j
  rw [inPool_cons, hb, hmax, hcur]
  rcases eq_or_ne j k with rfl | hjk
  · have hlt := Nat.lt_of_le_of_ne (UInt32.le_iff_toNat_le.mp hle)
      fun h ↦ hne (UInt32.toNat_inj.mp h)
    have hmax := (dev.mMaxSources j).toNat_lt
    have hadd : (dev.mCurrentSources j + 1).toNat = (dev.mCurrentSources j).toNat + 1 := by
      rw [UInt32.toNat_add]
      exact Nat.mod_eq_of_lt (by simpa using by omega)
    simp only [Function.update_self, UInt32.le_iff_toNat_le, hadd]
    refine ⟨?_, hlt⟩
    simp [hj]
  · simpa [Function.update_of_ne hjk, hjk.symm] using ⟨hj, hle⟩

/-- There is room for another source unless the unmarked sources are at least as many as
the free slots. -/
theorem lt_capacity_iff (hcount : Counted dev l) (hsrc : Sourced l) :
    numSources l < dev.capacity ↔ unmarked l < dev.freeSlots := by
  have hhw := hcount .hw
  have hsw := hcount .sw
  rw [UInt32.le_iff_toNat_le] at hhw hsw
  rw [numSources_eq hsrc, DeviceSources.capacity, DeviceSources.freeSlots]
  omega

theorem capacity_decSources (dev : DeviceSources) (loc : LocStatus) :
    (dev.decSources loc).capacity = dev.capacity := by
  cases loc <;> rfl

/-- **`setLocation`** counts the location it leaves the buffer with, and a located buffer
has a source afterwards unless the call runs out. -/
theorem setLocationIn_sourced (hcount : Counted dev (b :: others)) (hsrc : Sourced (b :: others))
    (hc : b.setLocationIn (numSources others < dev.capacity) parent dev want =
      some (hr, b', dev')) :
    Counted dev' (b' :: others) ∧
      (Sourced (b' :: others) ↔ ¬ LocationCall.RunsOut ⟨b, want, others⟩ dev) := by
  obtain ⟨hb, hothers⟩ := sourced_cons.mp hsrc
  have hleave : Counted (b.leaveLocation dev).2 others := by
    rw [Buffer.snd_leaveLocation]
    exact hcount.decSources
  rcases Buffer.setLocationIn_cases hc with
    ⟨hmoves, -, rfl, rfl⟩ | ⟨hmoves, ha, -, rfl, rfl⟩ | ⟨hmoves, k, sb, ha, -, rfl⟩
  · exact ⟨hcount, iff_of_true hsrc fun h ↦ hmoves h.1⟩
  · have hnone := Buffer.mLocStatus_leaveLocation b dev
    refine ⟨fun k ↦ ?_, iff_of_true ?_ fun h ↦ ?_⟩
    · rw [inPool_cons, hnone]
      simpa using hleave k
    · exact sourced_cons.mpr ⟨fun h ↦ absurd hnone h, hothers⟩
    · have := h.2.1
      simp [ha] at this
  · refine ⟨hleave.acquire ha rfl, ?_⟩
    have hroom : numSources others < dev.capacity ↔
        unmarked others < (b.leaveLocation dev).2.freeSlots := by
      rw [← lt_capacity_iff hleave hothers, Buffer.snd_leaveLocation, capacity_decSources]
    rw [sourced_cons, Buffer.isSome_writeSource, Buffer.isSome_genSourceIn, LocationCall.RunsOut]
    simp only [hmoves, ha, hothers, hroom]
    cases (b.leaveLocation dev).1.mSource <;> simp

end SourceContext

/-! ## The methods -/

namespace Buffer

variable {call : Option LocStatus} {flags : UInt32}

/-- `b'` is what a method that makes the call `call` leaves: the location, and whether the
buffer has a source, are those after the call. -/
def AfterCall (room : Bool) (parent : Parent) (b : Buffer) (dev : DeviceSources)
    (call : Option LocStatus) (b' : Buffer) (dev' : DeviceSources) : Prop :=
  ∃ hr b₁, call.elim (some (.ok, b, dev)) (b.setLocationIn room parent dev) = some (hr, b₁, dev') ∧
    b'.mLocStatus = b₁.mLocStatus ∧ b'.mSource.isSome = b₁.mSource.isSome

theorem AfterCall.of_none (hl : b'.mLocStatus = b.mLocStatus)
    (hs : b'.mSource.isSome = b.mSource.isSome) :
    AfterCall room parent b dev none b' dev := ⟨.ok, b, rfl, hl, hs⟩

/-- What a method that makes the call `call` answers: what the call answers, or something else
than `DSERR_ALLOCATED` after it has perhaps started the source. -/
def AnswersCall (room : Bool) (parent : Parent) (b : Buffer) (dev : DeviceSources)
    (call : Option LocStatus) (hr : HResult) (b' : Buffer) (dev' : DeviceSources) : Prop :=
  ∃ hr₁ b₁, call.elim (some (.ok, b, dev)) (b.setLocationIn room parent dev) =
      some (hr₁, b₁, dev') ∧
    (call.isSome ∧ hr = hr₁ ∧ b' = b₁ ∨
      hr ≠ .allocated ∧ b'.mLocStatus = b₁.mLocStatus ∧ b'.mSource.isSome = b₁.mSource.isSome)

theorem start_keeps (b : Buffer) (sb : SharedBuffer) (flags : UInt32) (started : Bool) :
    (b.start sb flags started).2.1.mLocStatus = b.mLocStatus ∧
      (b.start sb flags started).2.1.mSource.isSome = b.mSource.isSome := by
  unfold start
  cases hs : b.mSource with
  | none => exact ⟨rfl, rfl⟩
  | some src =>
      dsimp only
      split_ifs <;> exact ⟨rfl, rfl⟩

/-- A source that is there fails to start with another error. -/
theorem start_ne_allocated (b : Buffer) (sb : SharedBuffer) (flags : UInt32) (started : Bool) :
    (b.start sb flags started).1 ≠ .allocated := by
  intro hc
  unfold start at hc
  cases hs : b.mSource with
  | none =>
      rw [hs] at hc
      cases hc
  | some src =>
      rw [hs] at hc
      dsimp only at hc
      split_ifs at hc

namespace AnswersCall

/-- Nothing is called and nothing is done. -/
theorem of_none (hne : hr ≠ .allocated) : AnswersCall room parent b dev none hr b dev :=
  ⟨.ok, b, rfl, .inr ⟨hne, rfl, rfl⟩⟩

/-- The source is started after the call. -/
theorem start (h : AnswersCall room parent b dev call hr b₁ dev') (sb : SharedBuffer)
    (flags : UInt32) (started : Bool) :
    AnswersCall room parent b dev call (b₁.start sb flags started).1
      (b₁.start sb flags started).2.1 dev' := by
  obtain ⟨hr₂, b₂, hcall, hb₁⟩ := h
  obtain ⟨hloc, hsource⟩ := b₁.start_keeps sb flags started
  refine ⟨hr₂, b₂, hcall, .inr ⟨b₁.start_ne_allocated sb flags started, ?_⟩⟩
  obtain ⟨-, -, rfl⟩ | ⟨-, hloc₁, hsource₁⟩ := hb₁
  · exact ⟨hloc, hsource⟩
  · exact ⟨hloc.trans hloc₁, hsource.trans hsource₁⟩

theorem afterCall (h : AnswersCall room parent b dev call hr b' dev') :
    AfterCall room parent b dev call b' dev' := by
  obtain ⟨hr₁, b₁, hcall, ⟨-, -, rfl⟩ | ⟨-, hloc, hsource⟩⟩ := h
  · exact ⟨hr₁, b', hcall, rfl, rfl⟩
  · exact ⟨hr₁, b₁, hcall, hloc, hsource⟩

/-- A method that fails with `DSERR_ALLOCATED` fails in its call of `setLocation`. -/
theorem allocated (h : AnswersCall room parent b dev call .allocated b' dev') :
    ∃ want, call = some want ∧
      b.setLocationIn room parent dev want = some (.allocated, b', dev') := by
  obtain ⟨hr₁, b₁, hcall, ⟨hsome, rfl, rfl⟩ | ⟨hne, -⟩⟩ := h
  · obtain ⟨want, rfl⟩ := Option.isSome_iff_exists.mp hsome
    exact ⟨want, rfl, hcall⟩
  · exact absurd rfl hne

end AnswersCall

theorem deferredLocationIn_answers
    (hc : b.deferredLocationIn room parent dev flags = some (hr, b', dev')) :
    AnswersCall room parent b dev (b.deferredCall flags) hr b' dev' := by
  simp only [deferredLocationIn, deferredCall] at hc ⊢
  split at hc
  · rename_i h
    cases hc
    simp only [h, if_true, and_self]
    exact .of_none (by decide)
  rename_i h
  simp only [h, if_false]
  split at hc
  · rename_i h₂
    cases hc
    rw [if_pos h₂]
    exact .of_none (by decide)
  · rename_i h₂
    rw [if_neg h₂]
    exact ⟨hr, b', hc, .inl ⟨rfl, rfl, rfl⟩⟩

theorem playIn_answers {priority : UInt32} {started notify : Bool}
    (hc : b.playIn room parent dev priority flags started = some (hr, b', dev', notify)) :
    AnswersCall room parent b dev (b.playCall flags) hr b' dev' := by
  unfold playIn at hc
  unfold playCall
  split at hc
  · rename_i hlost
    cases hc
    simp only [hlost]
    exact .of_none (by decide)
  rename_i hlost
  obtain ⟨sb, hsb, hc⟩ := Option.bind_eq_some_iff.mp hc
  have hcaps : b.hasCaps Caps.locDefer = hasFlag sb.mFlags Caps.locDefer := by
    simp [hasCaps, hsb]
  rw [hcaps]
  split at hc
  · rename_i hd
    obtain ⟨⟨hr₁, b₁, dev₁⟩, hloc, hc⟩ := Option.bind_eq_some_iff.mp hc
    rw [if_pos ⟨by simpa using hlost, hd⟩]
    have h₁ := deferredLocationIn_answers hloc
    dsimp only at hc
    split at hc
    · cases hc
      exact h₁
    · cases hc
      exact h₁.start sb flags started
  · rename_i hd
    rw [if_neg fun h ↦ hd h.2]
    split at hc
    · cases hc
      exact .of_none (by decide)
    · cases hc
      exact AnswersCall.start (.of_none (show HResult.ok ≠ .allocated by decide)) sb flags started

theorem acquireResourcesIn_answers {effectsCount : UInt32} {resultCodes : Bool}
    (hc : b.acquireResourcesIn room parent dev flags effectsCount resultCodes =
      some (hr, b', dev')) :
    AnswersCall room parent b dev (b.acquireCall flags effectsCount resultCodes) hr b' dev' := by
  unfold acquireResourcesIn at hc
  unfold acquireCall playCall
  split at hc
  · rename_i hlost
    cases hc
    simp only [hlost, Bool.not_true, Bool.false_eq_true, false_and, if_false, ite_self]
    exact .of_none (by decide)
  rename_i hlost
  split at hc
  · rename_i he
    cases hc
    rw [if_pos he]
    exact .of_none (by decide)
  rename_i he
  rw [if_neg he]
  obtain ⟨sb, hsb, hc⟩ := Option.bind_eq_some_iff.mp hc
  have hcaps : b.hasCaps Caps.locDefer = hasFlag sb.mFlags Caps.locDefer := by
    simp [hasCaps, hsb]
  rw [hcaps]
  split at hc
  · rename_i hd
    rw [if_pos ⟨by simpa using hlost, hd⟩]
    exact deferredLocationIn_answers hc
  · rename_i hd
    cases hc
    rw [if_neg fun h ↦ hd h.2]
    exact .of_none (by decide)

/-- If it fails, `setLocation` has not found a slot, and so has not run out. -/
theorem initLocationIn_failed (hc : b.initLocationIn room parent dev = some (hr, b', dev'))
    (hf : ¬ hr.succeeded) (hcall : b.initCall = some want) :
    ¬ LocationCall.RunsOut ⟨b, want, others⟩ dev := by
  obtain ⟨sb, hsb, hc⟩ := Option.bind_eq_some_iff.mp hc
  simp only [initCall, hsb, Option.bind_some] at hcall
  obtain ⟨hd, hwant⟩ := Option.ite_none_left_eq_some.mp hcall
  cases hwant
  dsimp only at hc
  rw [if_neg hd] at hc
  obtain ⟨⟨hr₁, b₁, dev₁⟩, hset, hc⟩ := Option.bind_eq_some_iff.mp hc
  cases hc
  rcases setLocationIn_cases hset with
    ⟨hmoves, -⟩ | ⟨-, ha, -⟩ | ⟨-, k, sb, -, rfl, -⟩
  · exact fun h ↦ hmoves h.1
  · intro h
    have := h.2.1
    simp [ha] at this
  · exact absurd rfl hf

theorem attach_mLocStatus {exts : Extensions} {desc : Option BufferDesc} {memory : Bool}
    (ha : b.attach exts desc memory = .ok b') : b'.mLocStatus = b.mLocStatus := by
  obtain ⟨sb, frequency, rfl⟩ := attach_eq ha
  rfl

theorem duplicate_mLocStatus {born : ℕ} {is8 : Bool} (hd : duplicate born is8 b = some b') :
    b'.mLocStatus = .none := by
  obtain ⟨sb, -, hd⟩ := Option.bind_eq_some_iff.mp hd
  cases hd
  rfl

theorem initLocationIn_afterCall (hc : b.initLocationIn room parent dev = some (hr, b', dev')) :
    AfterCall room parent b dev b.initCall b' dev' := by
  obtain ⟨sb, hsb, hc⟩ := Option.bind_eq_some_iff.mp hc
  simp only [initCall, hsb, Option.bind_some]
  dsimp only at hc
  split at hc
  · rename_i hd
    cases hc
    rw [if_pos hd]
    exact .of_none rfl rfl
  · rename_i hd
    obtain ⟨⟨hr₁, b₁, dev₁⟩, hset, hc⟩ := Option.bind_eq_some_iff.mp hc
    cases hc
    rw [if_neg hd]
    exact ⟨hr₁, b₁, hset, rfl, rfl⟩

end Buffer

/-! ## Every call -/

namespace SourceContext

variable {s s' : SourceContext} {op : ContextOp}

/-- What every operation keeps, whether or not it runs out. -/
structure Ok (s : SourceContext) : Prop where
  counted : Counted s.dev s.buffers
  sourced : Sourced s.buffers

/-- What an operation does: the counters count the locations again, and every located
buffer has a source unless the operation has run out. -/
def Steps (s : SourceContext) (op : ContextOp) (s' : SourceContext) : Prop :=
  Counted s'.dev s'.buffers ∧ (Sourced s'.buffers ↔ ¬ s.RunsOut op)

theorem perm_eraseIdx {i : ℕ} (hb : l[i]? = some b) : l.Perm (b :: l.eraseIdx i) := by
  obtain ⟨hi, rfl⟩ := List.getElem?_eq_some_iff.mp hb
  exact (List.getElem_cons_eraseIdx_perm hi).symm

theorem Ok.perm (h : s.Ok) {i : ℕ} (hb : s.buffers[i]? = some b) :
    Counted s.dev (b :: s.buffers.eraseIdx i) ∧ Sourced (b :: s.buffers.eraseIdx i) :=
  ⟨h.counted.perm (perm_eraseIdx hb), h.sourced.perm (perm_eraseIdx hb)⟩

theorem perm_set {i : ℕ} (hb : l[i]? = some b) (b' : Buffer) :
    (b' :: l.eraseIdx i).Perm (l.set i b') := by
  obtain ⟨hi, -⟩ := List.getElem?_eq_some_iff.mp hb
  have hp := perm_eraseIdx (List.getElem?_set_self (a := b') hi)
  rw [List.eraseIdx_set_eq] at hp
  exact hp.symm

/-- A method of the buffer `b` that makes the call `call`. -/
theorem afterCall_sourced {call : Option LocStatus} (hcount : Counted dev (b :: others))
    (hsrc : Sourced (b :: others))
    (hc : b.AfterCall (numSources others < dev.capacity) parent dev call b' dev') :
    Counted dev' (b' :: others) ∧ (Sourced (b' :: others) ↔
      ¬ ∃ c ∈ call.map fun want ↦ (⟨b, want, others⟩ : LocationCall), c.RunsOut dev) := by
  obtain ⟨hr, b₁, hcall, hl, hs⟩ := hc
  cases call with
  | none =>
      cases hcall
      refine ⟨hcount.congr hl, iff_of_true ?_ (by simp)⟩
      rw [sourced_cons, hl, hs]
      exact sourced_cons.mp hsrc
  | some want =>
      obtain ⟨hcount', hiff⟩ := setLocationIn_sourced hcount hsrc hcall
      refine ⟨hcount'.congr hl, ?_⟩
      rw [sourced_cons, hl, hs, ← sourced_cons, hiff]
      simp

/-- **Creation**: the constructed buffer is counted once its initialization has located
it. -/
theorem Ok.initializeBuffer (h : s.Ok) (hloc : b.mLocStatus = .none) {desc : Option BufferDesc}
    {memory : Bool} (hc : s.initializeBuffer parent b desc memory = some s') :
    Counted s'.dev s'.buffers ∧
      (Sourced s'.buffers ↔ ¬ ∃ c ∈ s.initCall parent b desc memory, c.RunsOut s.dev) := by
  unfold SourceContext.initializeBuffer at hc
  unfold SourceContext.initCall
  cases ha : b.attach parent.mExtensions desc memory with
  | error hr =>
      rw [ha] at hc
      cases hc
      exact ⟨h.counted, iff_of_true h.sourced (by simp)⟩
  | ok b₁ =>
      rw [ha] at hc
      obtain ⟨⟨hr, b₂, dev'⟩, hinit, hc⟩ := Option.bind_eq_some_iff.mp hc
      have hloc₁ : b₁.mLocStatus = .none := (Buffer.attach_mLocStatus ha).trans hloc
      have hcount : Counted s.dev (b₁ :: s.buffers) := by
        intro k
        rw [inPool_cons, hloc₁]
        simpa using h.counted k
      have hsrc : Sourced (b₁ :: s.buffers) :=
        sourced_cons.mpr ⟨fun hn ↦ absurd hloc₁ hn, h.sourced⟩
      obtain ⟨hcount', hiff⟩ :=
        afterCall_sourced hcount hsrc (Buffer.initLocationIn_afterCall hinit)
      dsimp only at hc ⊢
      split at hc
      · cases hc
        have hp := (List.perm_append_singleton b₂ s.buffers).symm
        exact ⟨hcount'.perm hp, Iff.trans ⟨fun hs ↦ hs.perm hp.symm, fun hs ↦ hs.perm hp⟩ hiff⟩
      · rename_i hf
        cases hc
        refine ⟨hcount'.decSources, iff_of_true h.sourced ?_⟩
        rintro ⟨c, hmem, hc⟩
        obtain ⟨want, hcall, rfl⟩ := Option.map_eq_some_iff.mp hmem
        exact Buffer.initLocationIn_failed hinit hf hcall hc

/-- A method of the buffer `i` that makes the call `call`. -/
theorem Ok.method (h : s.Ok) {i : ℕ} {call : Option LocStatus} (hb : s.buffers[i]? = some b)
    (hc : b.AfterCall (s.hasRoom (s.buffers.eraseIdx i)) parent s.dev call b' dev') :
    Counted dev' (s.buffers.set i b') ∧ (Sourced (s.buffers.set i b') ↔ ¬ ∃ c ∈
      call.map fun want ↦ (⟨b, want, s.buffers.eraseIdx i⟩ : LocationCall), c.RunsOut s.dev) := by
  obtain ⟨hcount, hsrc⟩ := h.perm hb
  obtain ⟨hcount', hiff⟩ := afterCall_sourced hcount hsrc hc
  have hp := perm_set hb b'
  exact ⟨hcount'.perm hp, Iff.trans ⟨fun hs ↦ hs.perm hp.symm, fun hs ↦ hs.perm hp⟩ hiff⟩

/-- **One operation** keeps the counters right, and keeps every located buffer with a
source if and only if it does not run out. -/
theorem Ok.exec (h : s.Ok) (hc : s.exec op = some s') : s.Steps op s' := by
  cases op with
  | createSoundBuffer parent is8 desc memory => exact h.initializeBuffer rfl hc
  | duplicateSoundBuffer i parent is8 =>
      obtain ⟨orig, horig, hc⟩ := Option.bind_eq_some_iff.mp hc
      obtain ⟨sb, hsb, hc⟩ := Option.bind_eq_some_iff.mp hc
      have hcaps : orig.hasCaps Caps.ctrlFX = hasFlag sb.mFlags Caps.ctrlFX := by
        simp [Buffer.hasCaps, hsb]
      simp only [Steps, SourceContext.RunsOut, SourceContext.call, horig, Option.bind_eq_bind,
        Option.bind_some, hcaps]
      split at hc
      · rename_i hfx
        cases hc
        exact ⟨h.counted, iff_of_true h.sourced (by simp [hfx])⟩
      · rename_i hfx
        obtain ⟨b, hb, hc⟩ := Option.bind_eq_some_iff.mp hc
        rw [if_neg hfx, hb]
        exact h.initializeBuffer (Buffer.duplicate_mLocStatus hb) hc
  | release i =>
      obtain ⟨b, hb, hc⟩ := Option.bind_eq_some_iff.mp hc
      cases hc
      obtain ⟨hcount, hsrc⟩ := h.perm hb
      exact ⟨hcount.decSources,
        iff_of_true (sourced_cons.mp hsrc).2 (by simp [SourceContext.RunsOut, SourceContext.call])⟩
  | play i parent priority flags started =>
      obtain ⟨b, hb, hc⟩ := Option.bind_eq_some_iff.mp hc
      obtain ⟨⟨hr, b', dev', notify⟩, hplay, hc⟩ := Option.bind_eq_some_iff.mp hc
      cases hc
      simp only [Steps, SourceContext.RunsOut, SourceContext.call, hb, Option.bind_eq_bind,
        Option.bind_some]
      exact h.method hb (Buffer.playIn_answers hplay).afterCall
  | acquireResources i parent flags effectsCount resultCodes =>
      obtain ⟨b, hb, hc⟩ := Option.bind_eq_some_iff.mp hc
      obtain ⟨⟨hr, b', dev'⟩, hacq, hc⟩ := Option.bind_eq_some_iff.mp hc
      cases hc
      simp only [Steps, SourceContext.RunsOut, SourceContext.call, hb, Option.bind_eq_bind,
        Option.bind_some]
      exact h.method hb (Buffer.acquireResourcesIn_answers hacq).afterCall
  | propSet i parent =>
      obtain ⟨b, hb, hc⟩ := Option.bind_eq_some_iff.mp hc
      cases hc
      obtain ⟨hcount, hsrc⟩ := h.perm hb
      obtain ⟨hown, hothers⟩ := sourced_cons.mp hsrc
      have hp := perm_set hb (b.propSetIn (s.hasRoom (s.buffers.eraseIdx i)) parent)
      refine ⟨(hcount.congr (Buffer.mLocStatus_propSetIn _ parent b)).perm hp,
        iff_of_true (Sourced.perm (sourced_cons.mpr ⟨fun hl ↦ ?_, hothers⟩) hp) ?_⟩
      · rw [Buffer.mLocStatus_propSetIn] at hl
        exact Buffer.isSome_propSetIn _ parent (hown hl)
      · simp [SourceContext.RunsOut, SourceContext.call]
  | other i b' =>
      obtain ⟨b, hb, hc⟩ := Option.bind_eq_some_iff.mp hc
      obtain ⟨⟨hs, hl⟩, hc⟩ := Option.ite_none_right_eq_some.mp hc
      cases hc
      have hafter : b.AfterCall (s.hasRoom (s.buffers.eraseIdx i)) ⟨{}, 0, 0⟩ s.dev none b' s.dev :=
        .of_none hl hs
      simpa [Steps, SourceContext.RunsOut, SourceContext.call] using h.method hb hafter

theorem IsNew.ok (h : s.IsNew) : s.Ok := by
  obtain ⟨hnil, total, hdev⟩ := h
  obtain ⟨-, hdev⟩ := Option.ite_none_left_eq_some.mp hdev
  obtain ⟨dev, buffers⟩ := s
  cases hnil
  cases hdev
  exact ⟨fun k ↦ ⟨rfl, UInt32.le_iff_toNat_le.mpr (Nat.zero_le _)⟩, by simp [Sourced]⟩

theorem initCall_others {desc : Option BufferDesc} {memory : Bool} {c : LocationCall}
    (hloc : b.mLocStatus = .none) (hc : s.initCall parent b desc memory = some c) :
    c.others = s.buffers ∧ c.buffer.mLocStatus = .none := by
  unfold initCall at hc
  cases ha : b.attach parent.mExtensions desc memory with
  | error hr =>
      rw [ha] at hc
      cases hc
  | ok b₁ =>
      rw [ha] at hc
      obtain ⟨want, -, rfl⟩ := Option.map_eq_some_iff.mp hc
      exact ⟨rfl, (Buffer.attach_mLocStatus ha).trans hloc⟩

/-- `setLocation` is called on one of the buffers, or on a new one. -/
theorem call_others {c : LocationCall} (hc : s.call op = some c) :
    s.buffers.Perm (c.buffer :: c.others) ∨
      (c.others = s.buffers ∧ c.buffer.mLocStatus = .none) := by
  cases op with
  | createSoundBuffer parent is8 desc memory => exact .inr (initCall_others rfl hc)
  | duplicateSoundBuffer i parent is8 =>
      obtain ⟨orig, -, hc⟩ := Option.bind_eq_some_iff.mp hc
      obtain ⟨-, hc⟩ := Option.ite_none_left_eq_some.mp hc
      obtain ⟨b, hb, hc⟩ := Option.bind_eq_some_iff.mp hc
      exact .inr (initCall_others (Buffer.duplicate_mLocStatus hb) hc)
  | play i parent priority flags started =>
      obtain ⟨b, hb, hc⟩ := Option.bind_eq_some_iff.mp hc
      obtain ⟨want, -, rfl⟩ := Option.map_eq_some_iff.mp hc
      exact .inl (perm_eraseIdx hb)
  | acquireResources i parent flags effectsCount resultCodes =>
      obtain ⟨b, hb, hc⟩ := Option.bind_eq_some_iff.mp hc
      obtain ⟨want, -, rfl⟩ := Option.map_eq_some_iff.mp hc
      exact .inl (perm_eraseIdx hb)
  | release i => cases hc
  | propSet i parent => cases hc
  | other i b' => cases hc

/-- While every source belongs to a located buffer, no call runs out. -/
theorem Ok.not_runsOut (h : s.Ok) (hu : unmarked s.buffers = 0) : ¬ s.RunsOut op := by
  rintro ⟨c, hc, -, ha, -, hfree⟩
  have hcount : Counted s.dev (c.buffer :: c.others) ∧ unmarked c.others = 0 := by
    rcases call_others hc with hp | ⟨heq, hloc⟩
    · have hle : unmarked c.others ≤ unmarked s.buffers :=
        (List.Sublist.countP_le (List.sublist_cons_self _ _)).trans_eq (hp.countP_eq _).symm
      exact ⟨h.counted.perm hp, by omega⟩
    · rw [heq]
      refine ⟨fun k ↦ ?_, hu⟩
      rw [inPool_cons, hloc]
      simpa using h.counted k
  have hleft : Counted (c.buffer.leaveLocation s.dev).2 c.others := by
    rw [Buffer.snd_leaveLocation]
    exact hcount.1.decSources
  obtain ⟨⟨k, dev'⟩, ha⟩ := Option.isSome_iff_exists.mp ha
  obtain ⟨hne, -, -⟩ := DeviceSources.acquire_eq_some ha
  have hlt := Nat.lt_of_le_of_ne (UInt32.le_iff_toNat_le.mp (hleft k).2)
    fun h ↦ hne (UInt32.toNat_inj.mp h)
  rw [hcount.2, DeviceSources.freeSlots] at hfree
  cases k <;> omega

instance (l : List Buffer) : Decidable (Sourced l) :=
  inferInstanceAs (Decidable (∀ b ∈ l, _))

end SourceContext

/-! ## Every run -/

/-- **Located buffers have a source.**  In every run in which no call of `setLocation` runs
out, a buffer whose `mLocStatus` is not `None` has a source; and an operation keeps that up
if and only if it does not run out.  None does while all sources have locations. -/
theorem located_have_sources {s : SourceContext}
    (h : Reachable (guarded (fun s op ↦ ¬ s.RunsOut op) (functional SourceContext.exec))
      SourceContext.IsNew s) :
    Sourced s.buffers ∧
      (∀ op s', s.exec op = some s' → (Sourced s'.buffers ↔ ¬ s.RunsOut op)) ∧
      (unmarked s.buffers = 0 → ∀ op, ¬ s.RunsOut op) := by
  have hok : s.Ok := by
    refine h.invariant (fun _ ↦ IsNew.ok) ?_
    rintro t op t' ht ⟨hop, hc⟩
    obtain ⟨hcount, hiff⟩ := ht.exec hc
    exact ⟨hcount, hiff.mpr hop⟩
  exact ⟨hok.sourced, fun op s' hc ↦ (hok.exec hc).2, fun hu _ ↦ hok.not_runsOut hu⟩

/-- The object of the examples, on a device with EAX. -/
def eaxParent : Parent := ⟨{ eax := true }, 1, Level.normal⟩

/-- The context of a device with the least number of sources. -/
def leastContext : SourceContext where
  dev := (DeviceSources.create 128).getD ⟨fun _ ↦ 0, fun _ ↦ 0⟩
  buffers := []

/-- Create `n` buffers with `DSBCAPS_LOCDEFER`, and set a property of the EAX source of
each. -/
def setProperties (n : ℕ) : List ContextOp :=
  (List.range n).flatMap fun i ↦
    [.createSoundBuffer eaxParent true (monoDesc Caps.locDefer) true, .propSet i eaxParent]

/-- A buffer gets its source from `Prop::Set` and its location from `Play`. -/
theorem located_have_sources_play : ∃ s : SourceContext,
    Reachable (guarded (fun s op ↦ ¬ s.RunsOut op) (functional SourceContext.exec))
      SourceContext.IsNew s ∧ inPool .hw s.buffers = 1 ∧ Sourced s.buffers := by
  obtain ⟨s, hs, h1⟩ := Reachable.exists_of_runFun_restrict
    (p := fun s : SourceContext ↦ inPool .hw s.buffers = 1)
    (C := fun s op ↦ ¬ s.RunsOut op) (f := SourceContext.exec)
    (show leastContext.IsNew from ⟨rfl, 128, rfl⟩)
    (setProperties 1 ++ [.play 0 eaxParent 0 0 true]) (by decide +kernel)
  exact ⟨s, hs, h1, (located_have_sources hs).1⟩

/-- After as many calls of `Prop::Set` on different buffers as the context has room for
sources, a buffer is created and initialized, and located, but has no source. -/
theorem located_without_source : ∃ s : SourceContext,
    Reachable (functional SourceContext.exec) SourceContext.IsNew s ∧ ¬ Sourced s.buffers :=
  Reachable.exists_of_runFun (show leastContext.IsNew from ⟨rfl, 128, rfl⟩)
    (setProperties 128 ++ [.createSoundBuffer eaxParent true (monoDesc Caps.locHardware) true])
    (by decide +kernel)

end Dsoal
