import Dsoal.Core.Creation
import Dsoal.Object.Steps

/-!
# Buffers without samples

A buffer is in the mask of its group from `createSecondaryBuffer` on, and gets its
samples in `Buffer::Initialize`.  Between the two, and until the release after a
failed initialization, a walk over the masks finds a buffer without samples, whose
status cannot be asked for.

The buffers without samples are exactly those in that gap, in every reachable state
(`CreateRun.Ok`).  Hence the walk of `SetCooperativeLevel` is safe in every run in
which no thread is in the gap, with a buffer the walk reaches, when the level
`DSSCL_WRITEPRIMARY` is entered; and it is not safe in any other run.
-/

namespace Dsoal

open TransitionSystem

namespace DSound8OAL

variable [Abi] {s s' s'' : DSound8OAL} {p : Ptr} {b : Buffer} {ps : List Ptr} {hr : HResult}

/-! ## The walk -/

omit [Abi] in
/-- What `GetStatus` says about playing. -/
theorem hasFlag_getStatus {status : UInt32} (hc : b.getStatus = some status) :
    hasFlag status Status.playing = (!b.mBufferLost && isPlaying b.mSource) := by
  cases hl : b.mBufferLost with
  | true =>
      rw [Buffer.getStatus, if_pos hl] at hc
      cases hc
      rfl
  | false =>
      cases hp : hasFlag status Status.playing with
      | false => simp [isPlaying_of_getStatus hc hp hl]
      | true =>
          rw [Buffer.getStatus, if_neg (by simp [hl])] at hc
          obtain ⟨sb, -, hc⟩ := Option.bind_eq_some_iff.mp hc
          cases hc
          by_contra hplay
          rw [if_neg (by simpa using hplay)] at hp
          revert hp
          split_ifs <;> rcases b.mLocStatus with _ | _ | _ <;> decide

omit [Abi] in
/-- `GetStatus` needs the samples, unless the buffer is lost. -/
theorem isSome_getStatus : b.getStatus.isSome ↔ b.mBufferLost ∨ b.mBuffer.isSome := by
  unfold Buffer.getStatus
  by_cases hl : b.mBufferLost
  · simp [hl]
  · rw [if_neg hl]
    cases b.mBuffer with
    | none => simp [hl]
    | some sb => simp

/-- Both objects have the same buffers, with the same samples. -/
structure SameStorage (s s' : DSound8OAL) : Prop where
  pool : PoolOk s'.mSecondaryBuffers
  storage : ∀ q, (s'.getBuffer q).map Buffer.mBuffer = (s.getBuffer q).map Buffer.mBuffer

namespace SameStorage

theorem of_groups (h : PoolOk s.mSecondaryBuffers)
    (hgs : s'.mSecondaryBuffers = s.mSecondaryBuffers) : s.SameStorage s' :=
  ⟨hgs ▸ h, fun q ↦ by rw [getBuffer, getBuffer, hgs]⟩

theorem trans (h : s.SameStorage s') (h' : s'.SameStorage s'') : s.SameStorage s'' :=
  ⟨h'.pool, fun q ↦ (h'.storage q).trans (h.storage q)⟩

/-- A change of a buffer that leaves its samples alone. -/
theorem setBuffer (h : PoolOk s.mSecondaryBuffers) {b' : Buffer}
    (hb : (s.getBuffer p).map Buffer.mBuffer = some b'.mBuffer) :
    s.SameStorage (s.setBuffer p b') where
  pool := poolOk_setBuffer h p b'
  storage q := by
    obtain ⟨b, hb, hbuf⟩ := Option.map_eq_some_iff.mp hb
    rw [getBuffer_setBuffer h hb]
    split_ifs with hq
    · rw [hq, hb, Option.map_some, Option.map_some, hbuf]
    · rfl

end SameStorage

/-- The walk leaves the samples alone. -/
theorem loseBuffers_storage (h : PoolOk s.mSecondaryBuffers)
    (hc : loseBuffers ps s = some (hr, s')) : s.SameStorage s' := by
  refine loseBuffers_induction (P := s.SameStorage) (fun t q b hb hstored ↦ ?_)
    (.of_groups h rfl) hc
  exact hstored.trans (.setBuffer hstored.pool (by rw [hb]; rfl))

omit [Abi] in
/-- The walk is over the pointers it is given. -/
theorem mem_of_mem_walked (h : p ∈ s.walked ps) : p ∈ ps := by
  induction ps with
  | nil => exact h
  | cons q ps ih =>
      rcases List.mem_cons.mp h with rfl | h
      · exact List.mem_cons_self
      · split_ifs at h
        · cases h
        · exact List.mem_cons_of_mem _ (ih h)

/-- Losing one buffer changes nothing of what the walk sees of the others. -/
theorem walked_setBuffer (h : PoolOk s.mSecondaryBuffers) (hb : s.getBuffer p = some b)
    (b' : Buffer) (hp : p ∉ ps) : (s.setBuffer p b').walked ps = s.walked ps := by
  induction ps with
  | nil => rfl
  | cons q ps ih =>
      obtain ⟨hqp, hps⟩ := not_or.mp (mt List.mem_cons.mpr hp)
      have hplays : (s.setBuffer p b').plays q = s.plays q := by
        rw [plays, plays, getBuffer_setBuffer h hb, if_neg (Ne.symm hqp)]
      rw [walked, walked, hplays, ih hps]

/-- **The walk is defined** if and only if every buffer it calls `GetStatus` on has its
samples or is lost. -/
theorem isSome_loseBuffers_iff (h : PoolOk s.mSecondaryBuffers)
    (hlive : ∀ p ∈ ps, (s.getBuffer p).isSome) (hnodup : ps.Nodup) :
    (loseBuffers ps s).isSome ↔
      ∀ p ∈ s.walked ps, (s.getBuffer p).any fun b ↦ b.mBufferLost || b.mBuffer.isSome := by
  induction ps generalizing s with
  | nil => simp [loseBuffers, walked]
  | cons p ps ih =>
      obtain ⟨hp, hnodup⟩ := List.nodup_cons.mp hnodup
      obtain ⟨b, hb⟩ := Option.isSome_iff_exists.mp (hlive p List.mem_cons_self)
      have hhead : ((s.getBuffer p).any fun b ↦ b.mBufferLost || b.mBuffer.isSome) ↔
          b.getStatus.isSome := by
        rw [hb, isSome_getStatus]
        simp
      rw [walked, List.forall_mem_cons, hhead]
      simp only [loseBuffers, hb, Option.bind_eq_bind, Option.bind_some]
      cases hst : b.getStatus with
      | none => simp
      | some status =>
          have hplays : s.plays p = hasFlag status Status.playing := by
            rw [hasFlag_getStatus hst, plays, hb, Option.any_some]
          simp only [hplays, Option.bind_some, Option.isSome_some, true_and]
          split_ifs with hplay
          · simp
          · have hset := getBuffer_setBuffer h hb { b with mBufferLost := true }
            rw [ih (poolOk_setBuffer h p _) ?_ hnodup, walked_setBuffer h hb _ hp]
            · refine forall₂_congr fun q hq ↦ ?_
              have hqp : q ≠ p := by
                rintro rfl
                exact hp (mem_of_mem_walked hq)
              rw [hset, if_neg hqp]
            · intro q hq
              rw [hset]
              split_ifs
              · rfl
              · exact hlive q (List.mem_cons_of_mem _ hq)

/-! ## The other steps -/

omit [Abi] in
/-- The write-emulation buffer is in no group. -/
theorem destroyWriteEmu_groups (hc : s.destroyWriteEmu = some s') :
    s'.mSecondaryBuffers = s.mSecondaryBuffers := by
  obtain ⟨-, rfl⟩ | ⟨emu, shared, -, -, rfl⟩ := destroyWriteEmu_cases hc <;> rfl

omit [Abi] in
theorem createWriteEmu_groups {flags : UInt32} {mem : Memory}
    (hc : s.createWriteEmu flags mem = some (hr, s')) :
    s'.mSecondaryBuffers = s.mSecondaryBuffers := by
  obtain ⟨-, -, rfl⟩ | ⟨-, ⟨-, rfl⟩ | ⟨emu, dev, emu', dev', -, -, -, hs'⟩⟩ :=
    createWriteEmu_cases hc
  · rfl
  · rfl
  obtain ⟨-, shared, -, rfl⟩ | ⟨-, s₁, hs₁, rfl⟩ := hs'
  · rfl
  · have hgs := destroyWriteEmu_groups hs₁
    exact hgs

theorem enterWritePrimary_storage {mem : Memory} (h : PoolOk s.mSecondaryBuffers)
    (hc : s.enterWritePrimary mem = some (hr, s')) : s.SameStorage s' := by
  obtain ⟨s₁, hr₂, s₂, hdestroy, hlose, hs₂⟩ := enterWritePrimary_cases hc
  have hdestroyed : s.SameStorage s₁ := .of_groups h (destroyWriteEmu_groups hdestroy)
  have hlost := hdestroyed.trans (loseBuffers_storage hdestroyed.pool hlose)
  obtain ⟨-, -, rfl⟩ | ⟨-, -, hcreate⟩ | ⟨-, -, -, rfl⟩ := hs₂
  · exact hlost
  · exact hlost.trans (.of_groups hlost.pool (createWriteEmu_groups hcreate))
  · exact hlost

/-- `SetCooperativeLevel` leaves the samples alone. -/
theorem setCooperativeLevel_storage {level : UInt32} {mem : Memory}
    (h : PoolOk s.mSecondaryBuffers) (hc : s.setCooperativeLevel level mem = some (hr, s')) :
    s.SameStorage s' := by
  obtain ⟨rfl, -⟩ | ⟨s₁, rfl, -, -, hs₁⟩ := setCooperativeLevel_cases hc
  · exact .of_groups h rfl
  have hstored : s.SameStorage s₁ := by
    obtain ⟨-, henter⟩ | ⟨-, -, hdestroy⟩ | ⟨-, -, rfl⟩ := hs₁
    · exact enterWritePrimary_storage h henter
    · exact .of_groups h (destroyWriteEmu_groups hdestroy)
    · exact .of_groups h rfl
  split_ifs
  · exact ⟨hstored.pool, hstored.storage⟩
  · exact hstored

omit [Abi] in
/-- A buffer whose location is initialized has samples. -/
theorem initLocation_mBuffer {parent : Parent} {dev dev' : DeviceSources} {b' : Buffer}
    (hc : b.initLocation parent dev = some (hr, b', dev')) : b'.mBuffer.isSome := by
  obtain ⟨hsome, src, loc, rfl⟩ := Buffer.initLocation_eq hc
  exact hsome

/-- `Initialize` changes the samples of the one buffer only, and stores some when it
succeeds. -/
theorem initializeBuffer_storage (h : PoolOk s.mSecondaryBuffers)
    {dsBufferDesc : Option BufferDesc} {memory : Bool}
    (hc : s.initializeBuffer p dsBufferDesc memory = some (hr, s')) :
    PoolOk s'.mSecondaryBuffers ∧ (∀ q, q ≠ p → s'.getBuffer q = s.getBuffer q) ∧
      ∃ b', s'.getBuffer p = some b' ∧ (hr.failed = false → b'.mBuffer.isSome) := by
  obtain ⟨b, hb, hc⟩ := Option.bind_eq_some_iff.mp hc
  cases ha : b.attach s.mExtensions dsBufferDesc memory with
  | error hr₁ =>
      simp only [ha] at hc
      cases hc
      exact ⟨h, fun _ _ ↦ rfl, b, hb, fun hf ↦ by simp [Buffer.attach_error ha] at hf⟩
  | ok b₁ =>
      simp only [ha, register_eq] at hc
      obtain ⟨dev, -, hc⟩ := Option.bind_eq_some_iff.mp hc
      obtain ⟨⟨hr₁, b₂, dev'⟩, hinit, hc⟩ := Option.bind_eq_some_iff.mp hc
      cases hc
      have hset := getBuffer_setBuffer (s := s) h hb b₂
      refine ⟨poolOk_setBuffer (s := s) h p b₂, fun q hq ↦ (hset q).trans (if_neg hq), b₂,
        (hset p).trans (if_pos rfl), fun _ ↦ initLocation_mBuffer hinit⟩

/-- `dispose` of a live buffer removes that buffer only. -/
theorem dispose_storage (h : PoolOk s.mSecondaryBuffers) (hb : s.getBuffer p = some b)
    (hc : s.dispose p = some s') : PoolOk s'.mSecondaryBuffers ∧
      ∀ q, s'.getBuffer q = if q = p then none else s.getBuffer q := by
  obtain ⟨shared, -, rfl⟩ := dispose_eq h hb hc
  have hlive : (lookup p s.mSecondaryBuffers).isSome := Option.isSome_iff_exists.mpr ⟨b, hb⟩
  exact ⟨h.dispose hlive, h.lookup_dispose hlive⟩

end DSound8OAL

namespace CreateRun

open DSound8OAL

variable [Abi] {θ : Type} [DecidableEq θ] {r r' : CreateRun θ} {op : CreateOp θ} {p : Ptr}

omit [Abi] in
theorem goto_pc_self {t : θ} {object : DSound8OAL} {pc : CreatePc} :
    (r.goto t object pc).pc t = pc := by simp [goto]

omit [Abi] in
theorem goto_pc_of_ne {t u : θ} {object : DSound8OAL} {pc : CreatePc} (h : u ≠ t) :
    (r.goto t object pc).pc u = r.pc u := by simp [goto, h]

/-! ## The invariant -/

/-- The step enters `DSSCL_WRITEPRIMARY` with a walk that reaches a buffer some thread is
creating and has not stored the samples of. -/
def EntersGap (r : CreateRun θ) (op : CreateOp θ) : Prop :=
  ∃ level mem, op = .setCooperativeLevel level mem ∧ r.object.EntersWritePrimary level ∧
    ∃ p ∈ r.object.walked (livePtrs r.object.mSecondaryBuffers), ∃ t,
      (r.pc t).slot = some (p, false)

/-- The buffers without samples are those that are being created. -/
structure Ok (r : CreateRun θ) : Prop where
  pool : PoolOk r.object.mSecondaryBuffers
  /-- The buffer a thread is creating is live. -/
  busy : ∀ t p stored, (r.pc t).slot = some (p, stored) →
    ∃ b, r.object.getBuffer p = some b ∧ b.mBuffer.isSome = stored
  /-- No two threads create the same buffer. -/
  unique : ∀ t t' p stored stored', (r.pc t).slot = some (p, stored) →
    (r.pc t').slot = some (p, stored') → t = t'
  /-- A buffer without samples is being created. -/
  stored : ∀ p b, r.object.getBuffer p = some b → b.mBuffer = none →
    ∃ t, (r.pc t).slot = some (p, false)

namespace Ok

omit [DecidableEq θ] in
theorem new (is8 : Bool) : Ok ({ object := .new is8, pc := fun _ ↦ .idle } : CreateRun θ) where
  pool := PoolOk.nil
  busy := nofun
  unique := nofun
  stored p b hb := by
    have hnone : lookup p (DSound8OAL.new is8).mSecondaryBuffers = none := rfl
    rw [getBuffer, hnone] at hb
    cases hb

omit [DecidableEq θ] in
/-- A step that leaves the threads and the samples alone. -/
theorem sameStorage (h : r.Ok) {object : DSound8OAL} (hs : r.object.SameStorage object)
    (null : Bool) : Ok { r with object := object, nullStatus := null } where
  pool := hs.pool
  busy := by
    intro t p stored ht
    obtain ⟨b, hb, hst⟩ := h.busy t p stored ht
    have hmap := hs.storage p
    rw [hb] at hmap
    obtain ⟨b', hb', hbuf⟩ := Option.map_eq_some_iff.mp hmap
    exact ⟨b', hb', hbuf ▸ hst⟩
  unique := h.unique
  stored := by
    intro p b hb hnone
    have hmap := hs.storage p
    rw [hb] at hmap
    obtain ⟨b', hb', hbuf⟩ := Option.map_eq_some_iff.mp hmap.symm
    exact h.stored p b' hb' (hbuf.trans hnone)

/-- A thread that is creating no buffer constructs one. -/
theorem construct (h : r.Ok) {t : θ} (hidle : r.pc t = .idle) {object : DSound8OAL} {b : Buffer}
    {pc : CreatePc} (hpool : PoolOk object.mSecondaryBuffers)
    (hfree : r.object.getBuffer p = none)
    (hlook : ∀ q, object.getBuffer q = if q = p then some b else r.object.getBuffer q)
    (hpc : pc.slot = some (p, b.mBuffer.isSome)) : Ok (r.goto t object pc) where
  pool := hpool
  busy := by
    intro u q stored hu
    by_cases hut : u = t
    · rw [hut, goto_pc_self, hpc] at hu
      cases hu
      exact ⟨b, (hlook p).trans (if_pos rfl), rfl⟩
    · rw [goto_pc_of_ne hut] at hu
      obtain ⟨b', hb', hst⟩ := h.busy u q stored hu
      have hqp : q ≠ p := by
        rintro rfl
        rw [hfree] at hb'
        cases hb'
      exact ⟨b', (hlook q).trans ((if_neg hqp).trans hb'), hst⟩
  unique := by
    have hne : ∀ u stored, (r.pc u).slot ≠ some (p, stored) := by
      intro u stored hu
      obtain ⟨b', hb', -⟩ := h.busy u p stored hu
      rw [hfree] at hb'
      cases hb'
    intro u v q stored stored' hu hv
    by_cases hut : u = t <;> by_cases hvt : v = t
    · rw [hut, hvt]
    · rw [hut, goto_pc_self, hpc] at hu
      cases hu
      rw [goto_pc_of_ne hvt] at hv
      exact absurd hv (hne v stored')
    · rw [hvt, goto_pc_self, hpc] at hv
      cases hv
      rw [goto_pc_of_ne hut] at hu
      exact absurd hu (hne u stored)
    · rw [goto_pc_of_ne hut] at hu
      rw [goto_pc_of_ne hvt] at hv
      exact h.unique u v q stored stored' hu hv
  stored := by
    intro q b' hb' hnone
    change object.getBuffer q = some b' at hb'
    rw [hlook] at hb'
    split_ifs at hb' with hqp
    · cases hb'
      refine ⟨t, ?_⟩
      rw [goto_pc_self, hpc, hqp, hnone]
      rfl
    · obtain ⟨u, hu⟩ := h.stored q b' hb' hnone
      refine ⟨u, ?_⟩
      rw [goto_pc_of_ne, hu]
      rintro rfl
      rw [hidle] at hu
      cases hu

/-- A thread goes on with the buffer it is creating, or is done with it. -/
theorem proceed (h : r.Ok) {t : θ} {stored : Bool} (ht : (r.pc t).slot = some (p, stored))
    {object : DSound8OAL} {pc : CreatePc} (hpool : PoolOk object.mSecondaryBuffers)
    (hothers : ∀ q, q ≠ p → object.getBuffer q = r.object.getBuffer q)
    (hpc : ∀ q stored, pc.slot = some (q, stored) →
      q = p ∧ ∃ b, object.getBuffer p = some b ∧ b.mBuffer.isSome = stored)
    (hdone : ∀ b, object.getBuffer p = some b → b.mBuffer = none → pc.slot = some (p, false)) :
    Ok (r.goto t object pc) := by
  have hne : ∀ u q st, u ≠ t → (r.pc u).slot = some (q, st) → q ≠ p := by
    rintro u q st hut hu rfl
    exact hut (h.unique u t q st stored hu ht)
  exact {
    pool := hpool
    busy := by
      intro u q st hu
      by_cases hut : u = t
      · rw [hut, goto_pc_self] at hu
        obtain ⟨rfl, hb⟩ := hpc q st hu
        exact hb
      · rw [goto_pc_of_ne hut] at hu
        obtain ⟨b, hb, hst⟩ := h.busy u q st hu
        exact ⟨b, (hothers q (hne u q st hut hu)).trans hb, hst⟩
    unique := by
      intro u v q st st' hu hv
      by_cases hut : u = t <;> by_cases hvt : v = t
      · rw [hut, hvt]
      · rw [hut, goto_pc_self] at hu
        rw [goto_pc_of_ne hvt] at hv
        exact absurd (hpc q st hu).1 (hne v q st' hvt hv)
      · rw [hvt, goto_pc_self] at hv
        rw [goto_pc_of_ne hut] at hu
        exact absurd (hpc q st' hv).1 (hne u q st hut hu)
      · rw [goto_pc_of_ne hut] at hu
        rw [goto_pc_of_ne hvt] at hv
        exact h.unique u v q st st' hu hv
    stored := by
      intro q b hb hnone
      by_cases hqp : q = p
      · subst hqp
        refine ⟨t, ?_⟩
        rw [goto_pc_self]
        exact hdone b hb hnone
      · change object.getBuffer q = some b at hb
        rw [hothers q hqp] at hb
        obtain ⟨u, hu⟩ := h.stored q b hb hnone
        refine ⟨u, ?_⟩
        rw [goto_pc_of_ne, hu]
        rintro rfl
        rw [ht] at hu
        exact hqp (congrArg Prod.fst (Option.some.inj hu)).symm }

/-! ## One lemma for each step -/

omit [DecidableEq θ] in
theorem initializeObject (h : r.Ok) {shared : Except HResult (DeviceSources × Extensions)}
    {allocs : List (Option ℕ × Bool)}
    (hlegal : (Op.initializeObject shared allocs).Legal r.object) :
    r.object.SameStorage (r.object.initializeObject shared allocs).2 := by
  unfold DSound8OAL.initializeObject
  split_ifs
  · exact .of_groups h.pool rfl
  · cases shared with
    | error hr => exact .of_groups h.pool rfl
    | ok dev =>
        obtain ⟨dev, exts⟩ := dev
        exact ⟨h.pool.preallocate hlegal.2, fun q ↦
          congrArg (Option.map Buffer.mBuffer) (lookup_preallocate allocs _ q)⟩

/-- The thread that has constructed a buffer initializes it. -/
theorem initializeBuffer (h : r.Ok) {t : θ} {dsBufferDesc : Option BufferDesc} {memory : Bool}
    (hpc : r.pc t = .constructed p dsBufferDesc) {hr : HResult} {object : DSound8OAL}
    (hinit : r.object.initializeBuffer p dsBufferDesc memory = some (hr, object)) :
    Ok (r.goto t object
      (if hr.failed then .releasing p (!object.lacksStorage p) else .idle)) := by
  obtain ⟨hpool, hothers, b, hb, hok⟩ := initializeBuffer_storage h.pool hinit
  have hlacks : object.lacksStorage p = b.mBuffer.isNone := by
    rw [lacksStorage, hb, Option.any_some]
  refine h.proceed (by rw [hpc]; rfl) hpool hothers (fun q stored hq ↦ ?_) fun b' hb' hnone ↦ ?_
  · split_ifs at hq
    · cases hq
      exact ⟨rfl, b, hb, by rw [hlacks, Option.not_isNone]⟩
    · cases hq
  · obtain rfl : b = b' := Option.some.inj (hb.symm.trans hb')
    cases hf : hr.failed with
    | false =>
        have hsome := hok hf
        rw [hnone] at hsome
        cases hsome
    | true =>
        rw [if_pos rfl, hlacks, hnone]
        rfl

/-- It releases a buffer that could not be initialized. -/
theorem release (h : r.Ok) {t : θ} {stored : Bool} (hpc : r.pc t = .releasing p stored)
    {object : DSound8OAL} (hdis : r.object.dispose p = some object) :
    Ok (r.goto t object .idle) := by
  obtain ⟨b, hb, -⟩ := h.busy t p stored (by rw [hpc]; rfl)
  obtain ⟨hpool, hlook⟩ := dispose_storage h.pool hb hdis
  refine h.proceed (by rw [hpc]; rfl) hpool (fun q hq ↦ (hlook q).trans (if_neg hq)) nofun
    fun b' hb' ↦ ?_
  rw [hlook, if_pos rfl] at hb'
  cases hb'

omit [DecidableEq θ] in
/-- The last `Release` of a buffer that nobody is creating. -/
theorem dispose (h : r.Ok) (hlegal : ∀ t, (r.pc t).slot.map Prod.fst ≠ some p) {b : Buffer}
    (hb : r.object.getBuffer p = some b) {object : DSound8OAL}
    (hdis : r.object.dispose p = some object) : Ok { r with object := object } := by
  obtain ⟨hpool, hlook⟩ := dispose_storage h.pool hb hdis
  exact {
    pool := hpool
    busy := by
      intro t q stored ht
      obtain ⟨b', hb', hst⟩ := h.busy t q stored ht
      have hqp : q ≠ p := by
        rintro rfl
        exact hlegal t (by rw [ht]; rfl)
      exact ⟨b', (hlook q).trans ((if_neg hqp).trans hb'), hst⟩
    unique := h.unique
    stored := by
      intro q b' hb' hnone
      change object.getBuffer q = some b' at hb'
      rw [hlook] at hb'
      split_ifs at hb'
      exact h.stored q b' hb' hnone }

/-- `Initialize` is called by a thread that has constructed a buffer. -/
theorem exec_initializeBuffer {t : θ} {memory : Bool}
    (hs : r.exec (.initializeBuffer t memory) = some r') : ∃ p dsBufferDesc hr object,
      r.pc t = .constructed p dsBufferDesc ∧
      r.object.initializeBuffer p dsBufferDesc memory = some (hr, object) ∧
      r' = r.goto t object
        (if hr.failed then .releasing p (!object.lacksStorage p) else .idle) := by
  cases hpc : r.pc t with
  | idle => simp [exec, hpc] at hs
  | releasing p stored => simp [exec, hpc] at hs
  | constructed p dsBufferDesc =>
      simp only [exec, hpc] at hs
      obtain ⟨⟨hr, object⟩, hinit, hs⟩ := Option.bind_eq_some_iff.mp hs
      cases hs
      exact ⟨p, dsBufferDesc, hr, object, rfl, hinit, rfl⟩

/-- `Release` is called by a thread whose buffer could not be initialized. -/
theorem exec_release {t : θ} (hs : r.exec (.release t) = some r') : ∃ p stored object,
    r.pc t = .releasing p stored ∧ r.object.dispose p = some object ∧
      r' = r.goto t object .idle := by
  cases hpc : r.pc t with
  | idle => simp [exec, hpc] at hs
  | constructed p dsBufferDesc => simp [exec, hpc] at hs
  | releasing p stored =>
      simp only [exec, hpc] at hs
      obtain ⟨object, hdis, hs⟩ := Option.bind_eq_some_iff.mp hs
      cases hs
      exact ⟨p, stored, object, rfl, hdis, rfl⟩

/-- **Step lemma.** -/
theorem step (h : r.Ok) (hs : CreateStep r op r') : r'.Ok := by
  obtain ⟨hlegal, hs⟩ := hs
  cases op with
  | initializeObject shared allocs =>
      cases hs
      exact h.sameStorage (h.initializeObject hlegal) r.nullStatus
  | createSoundBuffer t desc mem =>
      obtain ⟨hidle, -, -, -, -, hfresh⟩ := hlegal
      obtain ⟨⟨p, object⟩, hcon, hs⟩ := Option.bind_eq_some_iff.mp hs
      cases hs
      obtain ⟨gs, rfl, hpool, hfree, hlook⟩ := construct_eq h.pool hfresh hcon
      exact h.construct hidle hpool hfree hlook rfl
  | duplicateSoundBuffer t original mem =>
      obtain ⟨hidle, -, -, hfresh⟩ := hlegal
      obtain ⟨orig, -, hs⟩ := Option.bind_eq_some_iff.mp hs
      obtain ⟨b, hb, hs⟩ := Option.bind_eq_some_iff.mp hs
      obtain ⟨⟨p, object⟩, hcon, hs⟩ := Option.bind_eq_some_iff.mp hs
      cases hs
      obtain ⟨gs, rfl, hpool, hfree, hlook⟩ := construct_eq h.pool hfresh hcon
      obtain ⟨sb, -, hb⟩ := Option.bind_eq_some_iff.mp hb
      cases hb
      exact h.construct hidle hpool hfree hlook rfl
  | initializeBuffer t memory =>
      obtain ⟨p, dsBufferDesc, hr, object, hpc, hinit, rfl⟩ := exec_initializeBuffer hs
      exact h.initializeBuffer hpc hinit
  | release t =>
      obtain ⟨p, stored, object, hpc, hdis, rfl⟩ := exec_release hs
      exact h.release hpc hdis
  | setCooperativeLevel level mem =>
      simp only [exec] at hs
      split_ifs at hs
      · cases hs
        exact h.sameStorage (.of_groups h.pool rfl) true
      · obtain ⟨⟨hr, object⟩, hset, hs⟩ := Option.bind_eq_some_iff.mp hs
        cases hs
        exact h.sameStorage (setCooperativeLevel_storage h.pool hset) r.nullStatus
  | dispose p =>
      obtain ⟨b, hb, hs⟩ := Option.bind_eq_some_iff.mp hs
      obtain ⟨object, hdis, hs⟩ := Option.bind_eq_some_iff.mp hs
      cases hs
      exact h.dispose hlegal hb hdis
  | change p b =>
      cases hs
      exact h.sameStorage (.setBuffer h.pool hlegal) r.nullStatus
  | outside object =>
      cases hs
      exact h.sameStorage (.of_groups h.pool hlegal) r.nullStatus

/-- **Run lemma.** -/
theorem of_reachable (h : Reachable CreateStep IsNew r) : r.Ok :=
  h.invariant (P := Ok) (fun _ ⟨is8, hr⟩ ↦ hr ▸ .new is8) fun _ _ _ h hs ↦ h.step hs

omit [DecidableEq θ] in
/-- The buffers without samples. -/
theorem mBuffer_eq_none_iff (h : r.Ok) {b : Buffer} (hb : r.object.getBuffer p = some b) :
    b.mBuffer = none ↔ ∃ t, (r.pc t).slot = some (p, false) := by
  refine ⟨h.stored p b hb, ?_⟩
  rintro ⟨t, ht⟩
  obtain ⟨b', hb', hst⟩ := h.busy t p false ht
  obtain rfl : b = b' := Option.some.inj (hb.symm.trans hb')
  simpa using hst

omit [DecidableEq θ] in
/-- All slots in use have samples unless a thread is creating a buffer and has not stored
them. -/
theorem all_stored_iff (h : r.Ok) :
    (∀ p ∈ livePtrs r.object.mSecondaryBuffers,
        ∃ b, r.object.getBuffer p = some b ∧ b.mBuffer.isSome) ↔
      ∀ t p, (r.pc t).slot ≠ some (p, false) := by
  constructor
  · intro hall t p ht
    obtain ⟨b, hb, hnone⟩ := h.busy t p false ht
    have hlive : p ∈ livePtrs r.object.mSecondaryBuffers :=
      h.pool.mem_livePtrs.mpr (Option.isSome_of_eq_some hb)
    obtain ⟨b', hb', hsome⟩ := hall p hlive
    obtain rfl : b = b' := Option.some.inj (hb.symm.trans hb')
    rw [hsome] at hnone
    cases hnone
  · intro hnot p hp
    obtain ⟨b, hb⟩ := Option.isSome_iff_exists.mp (h.pool.mem_livePtrs.mp hp)
    refine ⟨b, hb, Option.isSome_iff_ne_none.mpr fun hnone ↦ ?_⟩
    obtain ⟨t, ht⟩ := (h.mBuffer_eq_none_iff hb).mp hnone
    exact hnot t p ht

omit [DecidableEq θ] in
/-- A walk that calls `GetStatus` on a buffer without samples. -/
theorem walk_iff (h : r.Ok) (ps : List Ptr) :
    ps.any r.object.lacksStorage = true ↔ ∃ p ∈ ps, ∃ t, (r.pc t).slot = some (p, false) := by
  rw [List.any_eq_true]
  refine exists_congr fun p ↦ and_congr_right fun _ ↦ ?_
  cases hb : r.object.getBuffer p with
  | some b =>
      rw [← h.mBuffer_eq_none_iff hb, lacksStorage, hb, Option.any_some, Option.isNone_iff_eq_none]
  | none =>
      refine iff_of_false (by simp [lacksStorage, hb]) ?_
      rintro ⟨t, ht⟩
      obtain ⟨b, hb', -⟩ := h.busy t p false ht
      rw [hb] at hb'
      cases hb'

/-- **A step calls `GetStatus` on a buffer without samples** if and only if it enters the
gap, or an earlier step did. -/
theorem nullStatus_iff (h : r.Ok) (hs : CreateStep r op r') :
    r'.nullStatus = true ↔ r.nullStatus = true ∨ r.EntersGap op := by
  -- any other step leaves the mark alone
  have hother : (∀ level mem, op ≠ .setCooperativeLevel level mem) →
      r'.nullStatus = r.nullStatus →
      (r'.nullStatus = true ↔ r.nullStatus = true ∨ r.EntersGap op) := by
    rintro hne heq
    rw [heq]
    refine (or_iff_left ?_).symm
    rintro ⟨level, mem, rfl, -⟩
    exact hne level mem rfl
  obtain ⟨-, hs⟩ := hs
  cases op with
  | setCooperativeLevel level mem =>
      have hgap : r.EntersGap (.setCooperativeLevel level mem) ↔
          r.object.EntersWritePrimary level ∧
          (r.object.walked (livePtrs r.object.mSecondaryBuffers)).any r.object.lacksStorage := by
        rw [h.walk_iff]
        constructor
        · rintro ⟨_, _, heq, hgap⟩
          cases heq
          exact hgap
        · exact fun hgap ↦ ⟨level, mem, rfl, hgap⟩
      simp only [exec] at hs
      rw [hgap]
      split_ifs at hs with hwalk
      · cases hs
        exact iff_of_true rfl (.inr hwalk)
      · obtain ⟨⟨hr, object⟩, -, hs⟩ := Option.bind_eq_some_iff.mp hs
        cases hs
        exact (or_iff_left hwalk).symm
  | initializeObject shared allocs =>
      cases hs
      exact hother nofun rfl
  | createSoundBuffer t desc mem =>
      obtain ⟨x, -, hs⟩ := Option.bind_eq_some_iff.mp hs
      cases hs
      exact hother nofun rfl
  | duplicateSoundBuffer t original mem =>
      obtain ⟨orig, -, hs⟩ := Option.bind_eq_some_iff.mp hs
      obtain ⟨b, -, hs⟩ := Option.bind_eq_some_iff.mp hs
      obtain ⟨x, -, hs⟩ := Option.bind_eq_some_iff.mp hs
      cases hs
      exact hother nofun rfl
  | initializeBuffer t memory =>
      obtain ⟨p, dsBufferDesc, hr, object, -, -, rfl⟩ := exec_initializeBuffer hs
      exact hother nofun rfl
  | release t =>
      obtain ⟨p, stored, object, -, -, rfl⟩ := exec_release hs
      exact hother nofun rfl
  | dispose p =>
      obtain ⟨b, -, hs⟩ := Option.bind_eq_some_iff.mp hs
      obtain ⟨object, -, hs⟩ := Option.bind_eq_some_iff.mp hs
      cases hs
      exact hother nofun rfl
  | change p b =>
      cases hs
      exact hother nofun rfl
  | outside object =>
      cases hs
      exact hother nofun rfl

end Ok

end CreateRun

variable [Abi] {θ : Type} [DecidableEq θ] {r : CreateRun θ}

/-- **The walk of `SetCooperativeLevel` meets no buffer without samples** in any run in
which no step enters `DSSCL_WRITEPRIMARY` while a thread is creating a buffer, has not
stored its samples and the walk reaches it; and any such step does meet one.  The
buffers without samples are those of the threads in that position, so that all buffers in
the masks have samples if and only if no thread is there, and the walk is defined where it
reaches none of them. -/
theorem walk_after_initialize
    (h : Reachable (guarded (fun r op ↦ ¬ r.EntersGap op) CreateStep) CreateRun.IsNew r) :
    r.nullStatus = false ∧
    (∀ p b, r.object.getBuffer p = some b →
      (b.mBuffer = none ↔ ∃ t, (r.pc t).slot = some (p, false))) ∧
    ((∀ p ∈ livePtrs r.object.mSecondaryBuffers,
        ∃ b, r.object.getBuffer p = some b ∧ b.mBuffer.isSome) ↔
      ∀ t p, (r.pc t).slot ≠ some (p, false)) ∧
    ((∀ p ∈ r.object.walked (livePtrs r.object.mSecondaryBuffers), ∀ t,
        (r.pc t).slot ≠ some (p, false)) →
      (r.object.loseBuffers (livePtrs r.object.mSecondaryBuffers)).isSome) ∧
    ∀ op r', CreateStep r op r' → (r'.nullStatus = true ↔ r.EntersGap op) := by
  have hok := CreateRun.Ok.of_reachable h.of_guarded
  have hnull : r.nullStatus = false := by
    refine Reachable.invariant_of (P := fun r ↦ r.nullStatus = false)
      (fun t ht ↦ CreateRun.Ok.of_reachable ht.of_guarded) ?_ ?_ h
    · rintro t ⟨is8, rfl⟩
      rfl
    · rintro t op t' ht hnull ⟨hop, hs⟩
      rw [← Bool.not_eq_true, ht.nullStatus_iff hs]
      rintro (hn | hgap)
      · rw [hnull] at hn
        cases hn
      · exact hop hgap
  refine ⟨hnull, fun p b hb ↦ hok.mBuffer_eq_none_iff hb, hok.all_stored_iff, fun hgap ↦ ?_,
    fun op r' hs ↦ ?_⟩
  · have hlive : ∀ p ∈ livePtrs r.object.mSecondaryBuffers, (r.object.getBuffer p).isSome :=
      fun p hp ↦ hok.pool.mem_livePtrs.mp hp
    refine (DSound8OAL.isSome_loseBuffers_iff hok.pool hlive hok.pool.nodup_livePtrs).mpr
      fun p hp ↦ ?_
    obtain ⟨b, hb⟩ := Option.isSome_iff_exists.mp (hlive p (DSound8OAL.mem_of_mem_walked hp))
    have hsome : b.mBuffer ≠ none := fun hnone ↦ by
      obtain ⟨t, ht⟩ := (hok.mBuffer_eq_none_iff hb).mp hnone
      exact hgap p hp t ht
    rw [hb, Option.any_some, Option.isSome_iff_ne_none.mpr hsome, Bool.or_true]
  · rw [hok.nullStatus_iff hs, hnull]
    exact or_iff_right nofun

omit [Abi] [DecidableEq θ] in
set_option maxRecDepth 4000 in
/-- One of two threads has constructed a buffer. -/
theorem walk_after_initialize_one :
    letI : Abi := ⟨⟨600, by decide⟩⟩
    ∃ r : CreateRun Bool,
      Reachable (guarded (fun r op ↦ ¬ r.EntersGap op) CreateStep) CreateRun.IsNew r ∧
      (r.pc true).slot = some (⟨4096, 0⟩, false) ∧ r.nullStatus = false ∧
      ∀ b, r.object.getBuffer ⟨4096, 0⟩ = some b → b.mBuffer = none := by
  let _ : Abi := ⟨⟨600, by decide⟩⟩
  have h0 : Reachable (guarded (fun r op ↦ ¬ r.EntersGap op) CreateStep) CreateRun.IsNew
      ({ object := .new true, pc := fun _ ↦ .idle } : CreateRun Bool) := .init ⟨true, rfl⟩
  have h1 := h0.step (i := CreateOp.initializeObject (.ok (oneSource, {})) [(some 4096, false)])
    ⟨by rintro ⟨level, mem, ⟨⟩, -⟩, initializeOne_legal true, rfl⟩
  have h2 := h1.step (i := CreateOp.createSoundBuffer true (monoDesc Caps.locHardware) {})
    ⟨by rintro ⟨level, mem, ⟨⟩, -⟩,
      ⟨rfl, rfl, by decide, by decide, by decide, by rintro base ⟨⟩⟩, rfl⟩
  have hwalk := walk_after_initialize h2
  exact ⟨_, h2, rfl, hwalk.1, fun b hb ↦ (hwalk.2.1 _ b hb).mpr ⟨true, rfl⟩⟩

omit [Abi] [DecidableEq θ] in
set_option maxRecDepth 4000 in
/-- One of two threads has constructed a buffer, and the other enters
`DSSCL_WRITEPRIMARY`. -/
theorem walk_before_initialize :
    letI : Abi := ⟨⟨600, by decide⟩⟩
    ∃ r : CreateRun Bool, Reachable CreateStep CreateRun.IsNew r ∧ r.nullStatus = true := by
  let _ : Abi := ⟨⟨600, by decide⟩⟩
  have h0 : Reachable CreateStep CreateRun.IsNew
      ({ object := .new true, pc := fun _ ↦ .idle } : CreateRun Bool) := .init ⟨true, rfl⟩
  have h1 := h0.step (i := CreateOp.initializeObject (.ok (oneSource, {})) [(some 4096, false)])
    ⟨initializeOne_legal true, rfl⟩
  have h2 := h1.step (i := CreateOp.createSoundBuffer true (monoDesc Caps.locHardware) {})
    ⟨⟨rfl, rfl, by decide, by decide, by decide, by rintro base ⟨⟩⟩, rfl⟩
  have h3 := h2.step (i := CreateOp.setCooperativeLevel Level.writePrimary {}) ⟨trivial, rfl⟩
  exact ⟨_, h3, rfl⟩

end Dsoal
