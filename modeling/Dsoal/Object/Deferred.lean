import Dsoal.Lib.Staging
import Dsoal.Object.Steps
import Dsoal.Params.Rolloff

/-!
# Deferred and immediate calls

Calls of the 3D setters with `DS3D_DEFERRED`, followed by `CommitDeferredSettings`, end
with the same settings as the same calls with `DS3D_IMMEDIATE`, and nothing can be seen
of them before the commit (`deferred_eq_immediate`).

Each method changes every buffer in its own way, and the parameters of the listener.
`Maps` says how, and two states `Agree` if they differ in nothing but what is pending.
The equivalence is a `Staging` of calls up to that relation.
-/

namespace Dsoal

open TransitionSystem DSound8OAL

/-- A call of a 3D setter of a buffer or of the listener, without its argument `apply`. -/
inductive ParamCall where
  | buffer (p : Ptr) (c : Buffer3DCall)
  | listener (c : ListenerCall)

/-- The step of the object that performs the call. -/
def ParamCall.op (apply : UInt32) : ParamCall → Op
  | .buffer p c => .buffer p (.call3D c apply)
  | .listener c => .listener c apply

namespace DSound8OAL

/-! ## Calls for a live 3D buffer and settings -/

/-- The call is for the listener or for a live 3D buffer. -/
def Has3D (s : DSound8OAL) : ParamCall → Prop
  | .buffer p _ => ∃ b, s.getBuffer p = some b ∧ b.is3D
  | .listener _ => True

/-- Nothing is pending, neither for the listener nor for a 3D buffer. -/
structure Clean (s : DSound8OAL) : Prop where
  listener : s.mPrimaryBuffer.mDirty = .none
  buffers : ∀ p b, s.getBuffer p = some b → b.is3D → b.mDirty = .none

/-- The settings that are in effect, and what OpenAL has been told of them. -/
structure SameSettings (s t : DSound8OAL) : Prop where
  listener : s.mPrimaryBuffer.mImmediate = t.mPrimaryBuffer.mImmediate
  alListener : s.alListener = t.alListener
  buffers : ∀ p, (s.getBuffer p).map (fun b ↦ (b.mImmediate, b.mSource)) =
    (t.getBuffer p).map fun b ↦ (b.mImmediate, b.mSource)

/-- The states differ in nothing that a setter or a commit reads but in what is pending. -/
structure Agree (s t : DSound8OAL) : Prop where
  buffers : ∀ p, (s.getBuffer p).map Buffer.applied = (t.getBuffer p).map Buffer.applied
  immediate : s.mPrimaryBuffer.mImmediate = t.mPrimaryBuffer.mImmediate
  alListener : s.alListener = t.alListener
  extensions : s.mExtensions = t.mExtensions
  level : s.mPrioLevel = t.mPrioLevel

variable {s s' s'' t t' : DSound8OAL} {f g : Ptr → Buffer → Buffer} {imm imm' : DS3DListener}
  {al al' : ListenerAttrs} {p : Ptr} {b : Buffer}

theorem Agree.refl (s : DSound8OAL) : s.Agree s := ⟨fun _ ↦ rfl, rfl, rfl, rfl, rfl⟩

theorem Agree.trans {u : DSound8OAL} (h : s.Agree t) (h' : t.Agree u) : s.Agree u where
  buffers p := (h.buffers p).trans (h'.buffers p)
  immediate := h.immediate.trans h'.immediate
  alListener := h.alListener.trans h'.alListener
  extensions := h.extensions.trans h'.extensions
  level := h.level.trans h'.level

theorem Agree.parent (h : s.Agree t) : s.parent = t.parent := by
  rw [DSound8OAL.parent, DSound8OAL.parent, h.extensions, h.level, h.immediate]

theorem Agree.sameSettings (h : s.Agree t) : s.SameSettings t where
  listener := h.immediate
  alListener := h.alListener
  buffers p := by
    have hb := congrArg (Option.map fun b : Buffer ↦ (b.mImmediate, b.mSource)) (h.buffers p)
    rw [Option.map_map, Option.map_map] at hb
    exact hb

/-! ## What a method does to every buffer -/

/-- The buffer at `q` becomes `f q b`, the listener gets the parameters `imm`, and that of
OpenAL the attributes `al`. -/
structure Maps (s : DSound8OAL) (f : Ptr → Buffer → Buffer) (imm : DS3DListener)
    (al : ListenerAttrs) (s' : DSound8OAL) : Prop where
  buffers : ∀ q, s'.getBuffer q = (s.getBuffer q).map (f q)
  immediate : s'.mPrimaryBuffer.mImmediate = imm
  alListener : s'.alListener = al
  extensions : s'.mExtensions = s.mExtensions
  level : s'.mPrioLevel = s.mPrioLevel
  list : s'.m3dBuffers = s.m3dBuffers

theorem Maps.trans (h : s.Maps f imm al s') (h' : s'.Maps g imm' al' s'') :
    s.Maps (fun q b ↦ g q (f q b)) imm' al' s'' where
  buffers q := by
    rw [h'.buffers, h.buffers, Option.map_map]
    rfl
  immediate := h'.immediate
  alListener := h'.alListener
  extensions := h'.extensions.trans h.extensions
  level := h'.level.trans h.level
  list := h'.list.trans h.list

/-- Changes that do the same to the buffers there are end in states that agree. -/
theorem Maps.agree (h : s.Maps f imm al s') (h' : s.Maps g imm al t')
    (hfg : ∀ q b, s.getBuffer q = some b → (f q b).applied = (g q b).applied) : s'.Agree t' where
  buffers q := by
    rw [h.buffers, h'.buffers]
    cases hb : s.getBuffer q with
    | none => rfl
    | some b => exact congrArg some (hfg q b hb)
  immediate := h.immediate.trans h'.immediate.symm
  alListener := h.alListener.trans h'.alListener.symm
  extensions := h.extensions.trans h'.extensions.symm
  level := h.level.trans h'.level.symm

/-- Changes that do the same to buffers that agree keep states that agree so. -/
theorem Agree.maps (hst : s.Agree t) (h : s.Maps f imm al s') (h' : t.Maps g imm al t')
    (hfg : ∀ q b b', b.applied = b'.applied → (f q b).applied = (g q b').applied) :
    s'.Agree t' where
  buffers q := by
    have hq := hst.buffers q
    rw [h.buffers, h'.buffers]
    revert hq
    cases s.getBuffer q <;> cases t.getBuffer q <;> intro hq
    · rfl
    · cases hq
    · cases hq
    · exact congrArg some (hfg q _ _ (Option.some.inj hq))
  immediate := h.immediate.trans h'.immediate.symm
  alListener := h.alListener.trans h'.alListener.symm
  extensions := h.extensions.trans (hst.extensions.trans h'.extensions.symm)
  level := h.level.trans (hst.level.trans h'.level.symm)

end DSound8OAL

/-- What is done to the 3D buffers only. -/
def Buffer.on3D (f : Buffer → Buffer) (b : Buffer) : Buffer := if b.is3D then f b else b

namespace DSound8OAL

variable [Abi] {s s' s'' t t' : DSound8OAL} {f g : Ptr → Buffer → Buffer} {imm : DS3DListener}
  {al : ListenerAttrs} {p : Ptr} {b : Buffer}

/-- A loop over `m3dBuffers` is a change of the 3D buffers. -/
theorem Linked.forBuffers_maps (h : s.Linked) (f : Buffer → Buffer) :
    ∃ s', s.forBuffers f s.m3dBuffers = some s' ∧
      s.Maps (fun _ ↦ Buffer.on3D f) s.mPrimaryBuffer.mImmediate s.alListener s' := by
  have hlive : ∀ e ∈ s.m3dBuffers, ∃ b, s.getBuffer e.ptr = some b := by
    intro e he
    obtain ⟨b, hb, -⟩ := h.live e he
    exact ⟨b, hb⟩
  obtain ⟨gs, hfor, -, hlook⟩ := forBuffers_eq (f := f) h.pool hlive h.nodup
  refine ⟨_, hfor, fun q ↦ ?_, rfl, rfl, rfl, rfl, rfl⟩
  change lookup q gs = _
  rw [hlook]
  cases hb : s.getBuffer q with
  | none => simp
  | some b =>
      have hiff : q ∈ s.m3dBuffers.map Registered.ptr ↔ b.is3D := by
        constructor
        · intro hq
          obtain ⟨e, he, rfl⟩ := List.mem_map.mp hq
          obtain ⟨b₁, hb₁, -, h3⟩ := h.live e he
          rw [hb₁] at hb
          cases hb
          exact h3
        · exact h.listed q b hb
      simp only [hiff, Option.map_some, Buffer.on3D]
      split_ifs <;> rfl

/-- Listener parameters applied to everything but the sources of the buffers. -/
def applyParams (s : DSound8OAL) (P : DS3DListener) (F : ListenerFlags) : DSound8OAL :=
  { s with
    mPrimaryBuffer := { s.mPrimaryBuffer with
      mImmediate := PrimaryBuffer.copyParams F P s.mPrimaryBuffer.mImmediate }
    alListener := PrimaryBuffer.writeParams s.mExtensions P F s.alListener }

/-- **Applying listener parameters.** -/
theorem Linked.setListenerParams_maps (h : s.Linked) (P : DS3DListener) (F : ListenerFlags) :
    ∃ s', s.setListenerParams P F = some s' ∧
      s.Maps (fun _ ↦ Buffer.on3D (Buffer.follow F P))
        (PrimaryBuffer.copyParams F P s.mPrimaryBuffer.mImmediate)
        (PrimaryBuffer.writeParams s.mExtensions P F s.alListener) s' := by
  have hset : s.setListenerParams P F = if F .rolloffFactor then
      (s.applyParams P F).forBuffers (Buffer.writeRolloff P.flRolloffFactor) s.m3dBuffers
    else some (s.applyParams P F) := rfl
  rw [hset]
  by_cases hr : F .rolloffFactor
  · have hlinked : (s.applyParams P F).Linked := ⟨h.pool, h.live, h.listed, h.nodup⟩
    obtain ⟨s', hs', hm⟩ := hlinked.forBuffers_maps (Buffer.writeRolloff P.flRolloffFactor)
    have hf : Buffer.follow F P = Buffer.writeRolloff P.flRolloffFactor := by
      funext b
      rw [Buffer.follow, if_pos hr]
    rw [if_pos hr, hf]
    exact ⟨s', hs', hm.buffers, hm.immediate, hm.alListener, hm.extensions, hm.level, hm.list⟩
  · have hf : Buffer.follow F P = id := by
      funext b
      rw [Buffer.follow, if_neg hr, id]
    rw [if_neg hr, hf]
    refine ⟨_, rfl, fun q ↦ ?_, rfl, rfl, rfl, rfl, rfl⟩
    have hid : Buffer.on3D id = id := by
      funext b
      rw [Buffer.on3D, id, ite_self]
    rw [hid, Option.map_id]
    rfl

/-- The parameters of the listener after a commit. -/
def committedParams (s : DSound8OAL) : DS3DListener :=
  PrimaryBuffer.copyParams s.mPrimaryBuffer.mDirty s.mPrimaryBuffer.mDeferred
    s.mPrimaryBuffer.mImmediate

/-- What the buffers read of the object after a commit. -/
def committedParent (s : DSound8OAL) : Parent :=
  { s.parent with rolloffFactor := s.committedParams.flRolloffFactor }

/-- What a commit does to a 3D buffer: it follows the listener and applies what is pending. -/
def commitBuffer (s : DSound8OAL) (b : Buffer) : Buffer :=
  Buffer.commit s.committedParent (b.follow s.mPrimaryBuffer.mDirty s.mPrimaryBuffer.mDeferred)

omit [Abi] in
/-- The parent is the one after a commit if the parameters of the listener are. -/
theorem parent_eq_committedParent (hexts : s'.mExtensions = s.mExtensions)
    (hlevel : s'.mPrioLevel = s.mPrioLevel)
    (himm : s'.mPrimaryBuffer.mImmediate = s.committedParams) : s'.parent = s.committedParent := by
  rw [DSound8OAL.parent, hexts, hlevel, himm]
  rfl

omit [Abi] in
@[simp] theorem is3D_follow (F : ListenerFlags) (P : DS3DListener) (b : Buffer) :
    (b.follow F P).is3D = b.is3D := by
  unfold Buffer.follow
  split_ifs
  · rw [Buffer.writeRolloff_eq]
    rfl
  · rfl

omit [Abi] in
@[simp] theorem is3D_commitBuffer (s : DSound8OAL) (b : Buffer) :
    (s.commitBuffer b).is3D = b.is3D := by
  rw [commitBuffer, Buffer.commit_eq]
  exact is3D_follow _ _ b

/-- **`CommitDeferredSettings`.** -/
theorem Ok.commit_maps (h : s.Ok) : ∃ s', s.commit = some s' ∧ s'.Ok ∧
    s.Maps (fun _ ↦ Buffer.on3D s.commitBuffer) s.committedParams
      (PrimaryBuffer.writeParams s.mExtensions s.mPrimaryBuffer.mDeferred s.mPrimaryBuffer.mDirty
        s.alListener) s' := by
  obtain ⟨s', hs', hk⟩ := h.commit
  refine ⟨s', hs', hk.ok, ?_⟩
  rw [commit_eq] at hs'
  have hclean : s.Keeps s.clearDirty := h.keeps_listener _ s.alListener rfl rfl
  obtain ⟨s₁, hs₁, hk₁⟩ := hclean.ok.setListenerParams s.mPrimaryBuffer.mDeferred
    s.mPrimaryBuffer.mDirty
  obtain ⟨s₂, hs₂, hm₂⟩ := hclean.ok.setListenerParams_maps s.mPrimaryBuffer.mDeferred
    s.mPrimaryBuffer.mDirty
  obtain rfl : s₁ = s₂ := Option.mem_unique hs₁ hs₂
  obtain ⟨s₃, hs₃, hm₃⟩ := hk₁.ok.forBuffers_maps (Buffer.commit s₁.parent)
  rw [hs₁, Option.bind_some, hs₃] at hs'
  cases hs'
  have hparent : s₁.parent = s.committedParent :=
    parent_eq_committedParent hm₂.extensions hm₂.level hm₂.immediate
  have hm := hm₂.trans hm₃
  refine ⟨fun q ↦ ?_, hm₃.immediate.trans hm₂.immediate, hm₃.alListener.trans hm₂.alListener,
    hm.extensions, hm.level, hm.list⟩
  rw [hm.buffers]
  have hget : s.clearDirty.getBuffer q = s.getBuffer q := rfl
  rw [hget]
  cases s.getBuffer q with
  | none => rfl
  | some b =>
      simp only [Option.map_some, Buffer.on3D, commitBuffer, hparent]
      split_ifs <;> simp_all

/-! ## Calls -/

/-- Perform a call. -/
def setParam (apply : UInt32) (s : DSound8OAL) (c : ParamCall) : Option DSound8OAL :=
  (s.exec (c.op apply)).map Prod.snd

/-- `CommitDeferredSettings`. -/
def commitSettings (s : DSound8OAL) : Option DSound8OAL :=
  (s.exec .commitDeferredSettings).map Prod.snd

theorem commitSettings_eq (s : DSound8OAL) : s.commitSettings = s.commit := by
  unfold commitSettings exec
  rw [Option.map_map]
  exact Option.map_id'

omit [Abi] in
/-- A call of a buffer setter stands for a set of parameters, which is empty if its
arguments are rejected. -/
theorem exists_bufferParams (c : Buffer3DCall) : ∃ F P, ∀ parent (b : Buffer),
    (∃ n, (b.call3D parent c ds3dDeferred).2 = b.defer F P n) ∧
    (b.call3D parent c ds3dImmediate).2 = b.setParams parent P F := by
  cases hu : c.update with
  | none =>
      refine ⟨.none, Buffer.defaultParams, fun parent b ↦ ?_⟩
      have hd := Buffer.performs_call3D parent c ds3dDeferred b
      have hi := Buffer.performs_call3D parent c ds3dImmediate b
      rw [hu] at hd hi
      have hdirty : b.mDirty.union .none = b.mDirty := by
        funext f
        simp [BufferFlags.union, BufferFlags.none]
      refine ⟨⟨b.mDeferred.dwSize, ?_⟩, ?_⟩
      · rw [hd, Buffer.defer, hdirty, Buffer.copyParams_none]
      · rw [hi, Buffer.setParams_none]
  | some u =>
      obtain ⟨F, P⟩ := u
      refine ⟨F, P, fun parent b ↦ ?_⟩
      have hd := Buffer.performs_call3D parent c ds3dDeferred b
      have hi := Buffer.performs_call3D parent c ds3dImmediate b
      rw [hu] at hd hi
      obtain ⟨n, hd⟩ := hd
      obtain ⟨_, hi⟩ := hi
      exact ⟨⟨n, by rw [hd, if_pos rfl]⟩, by rw [hi, if_neg (by decide)]⟩

omit [Abi] in
/-- The same for a call of a listener setter. -/
theorem exists_listenerParams (c : ListenerCall) : ∃ F P, ∀ s : DSound8OAL,
    (∃ hr n, s.callListener c ds3dDeferred = some (hr, s.deferParams F P n)) ∧
    ∃ hr, s.callListener c ds3dImmediate = (s.setListenerParams P F).map fun s ↦ (hr, s) := by
  cases hu : c.update with
  | none =>
      refine ⟨.none, PrimaryBuffer.defaultParams, fun s ↦ ?_⟩
      have hd := performs_callListener c ds3dDeferred s
      have hi := performs_callListener c ds3dImmediate s
      rw [hu] at hd hi
      have hdirty : s.mPrimaryBuffer.mDirty.union .none = s.mPrimaryBuffer.mDirty := by
        funext f
        simp [ListenerFlags.union, ListenerFlags.none]
      refine ⟨⟨.invalidParam, s.mPrimaryBuffer.mDeferred.dwSize, ?_⟩, .invalidParam, ?_⟩
      · rw [hd, deferParams, deferListener, hdirty]
        rfl
      · rw [hi, setListenerParams_none]
        rfl
  | some u =>
      obtain ⟨F, P⟩ := u
      refine ⟨F, P, fun s ↦ ?_⟩
      have hd := performs_callListener c ds3dDeferred s
      have hi := performs_callListener c ds3dImmediate s
      rw [hu] at hd hi
      simp only [Performs, if_true] at hd
      rw [Performs, if_neg (by decide)] at hi
      exact ⟨⟨.ok, hd⟩, .ok, hi⟩

omit [Abi] in
theorem Maps.refl (s : DSound8OAL) :
    s.Maps (fun _ b ↦ b) s.mPrimaryBuffer.mImmediate s.alListener s :=
  ⟨fun q ↦ by cases s.getBuffer q <;> rfl, rfl, rfl, rfl, rfl, rfl⟩

/-- **A call of a buffer setter** changes the one buffer. -/
theorem Ok.setParam_buffer (h : s.Ok) (hb : s.getBuffer p = some b) (h3 : b.is3D)
    (c : Buffer3DCall) (apply : UInt32) : ∃ s', s.setParam apply (.buffer p c) = some s' ∧
      s.Keeps s' ∧ s'.mPrimaryBuffer = s.mPrimaryBuffer ∧
      s.Maps (fun q b ↦ if q = p then (b.call3D s.parent c apply).2 else b)
        s.mPrimaryBuffer.mImmediate s.alListener s' := by
  have hcall : b.call s.parent (.call3D c apply) = some (b.call3D s.parent c apply) := by
    rw [Buffer.call, if_pos h3]
  have hc : s.bufferCall p (.call3D c apply) =
      some ((b.call3D s.parent c apply).1, s.setBuffer p (b.call3D s.parent c apply).2) := by
    simp [DSound8OAL.bufferCall, hb, hcall]
  refine ⟨s.setBuffer p (b.call3D s.parent c apply).2, ?_, h.bufferCall hc, rfl, fun q ↦ ?_, rfl,
    rfl, rfl, rfl, rfl⟩
  · rw [setParam, ParamCall.op, exec, hc]
    rfl
  · rw [getBuffer_setBuffer h.pool hb]
    by_cases hq : q = p
    · subst hq
      simp [hb]
    · simp [hq]

/-! ## Deferring a call and committing it -/

omit [Abi] in
/-- A set of listener parameters that has been deferred last is applied last. -/
theorem committedParams_deferParams (s : DSound8OAL) (F : ListenerFlags) (P : DS3DListener)
    (n : UInt32) : (s.deferParams F P n).committedParams =
      PrimaryBuffer.copyParams F P s.committedParams := by
  rw [committedParams, committedParams, PrimaryBuffer.copyParams_copyParams]
  rfl

/-- **A buffer call deferred and committed** is one made at once after a commit. -/
theorem Ok.commit_buffer (h : s.Ok) (hb : s.getBuffer p = some b) (h3 : b.is3D)
    (c : Buffer3DCall) {s₁ s₂ t₁ t₂ : DSound8OAL}
    (hs₁ : s.setParam ds3dDeferred (.buffer p c) = some s₁) (hs₂ : s₁.commit = some s₂)
    (ht₁ : s.commit = some t₁) (ht₂ : t₁.setParam ds3dImmediate (.buffer p c) = some t₂) :
    s₂.Agree t₂ := by
  obtain ⟨F, P, hc⟩ := exists_bufferParams c
  obtain ⟨s₁', hs₁', hk₁, hprim, hm₁⟩ := h.setParam_buffer hb h3 c ds3dDeferred
  obtain rfl : s₁' = s₁ := Option.mem_unique hs₁' hs₁
  obtain ⟨s₂', hs₂', -, hm₂⟩ := hk₁.ok.commit_maps
  obtain rfl : s₂' = s₂ := Option.mem_unique hs₂' hs₂
  obtain ⟨t₁', ht₁', hok, hn₁⟩ := h.commit_maps
  obtain rfl : t₁' = t₁ := Option.mem_unique ht₁' ht₁
  have hbt : t₁'.getBuffer p = some (s.commitBuffer b) := by
    rw [hn₁.buffers, hb, Option.map_some, Buffer.on3D, if_pos h3]
  have h3t : (s.commitBuffer b).is3D := (is3D_commitBuffer s b).trans h3
  obtain ⟨t₂', ht₂', -, -, hn₂⟩ := hok.setParam_buffer hbt h3t c ds3dImmediate
  obtain rfl : t₂' = t₂ := Option.mem_unique ht₂' ht₂
  -- the parameters of the listener are what they were
  have hparams : s₁'.committedParams = s.committedParams := by
    rw [committedParams, hprim]
    rfl
  have hcommit : s₁'.commitBuffer = s.commitBuffer := by
    funext b'
    rw [commitBuffer, commitBuffer, committedParent, committedParent, hparams, hprim,
      DSound8OAL.parent, hm₁.extensions, hm₁.level]
    rfl
  have hparent : t₁'.parent = s.committedParent :=
    parent_eq_committedParent hn₁.extensions hn₁.level hn₁.immediate
  have hm := hm₁.trans hm₂
  have hn := hn₁.trans hn₂
  rw [hn₁.immediate, hn₁.alListener] at hn
  rw [hparams, hprim, hm₁.extensions, hm₁.alListener] at hm
  refine hm.agree hn fun q b' hb' ↦ ?_
  rw [hcommit]
  by_cases hq : q = p
  · subst hq
    cases hb.symm.trans hb'
    obtain ⟨⟨n, hdef⟩, -⟩ := hc s.parent b
    obtain ⟨-, hnow⟩ := hc t₁'.parent (s.commitBuffer b)
    have h3d : (b.defer F P n).is3D := h3
    rw [if_pos rfl, hdef, Buffer.on3D, if_pos h3d, if_pos rfl, Buffer.on3D, if_pos h3, hnow,
      Buffer.applied_setParams, hparent, commitBuffer, Buffer.follow_defer,
      Buffer.applied_commit_defer]
    rfl
  · rw [if_neg hq, if_neg hq]

omit [Abi] in
/-- What listener parameters applied after a commit do to a buffer. -/
theorem follow_commitBuffer (s : DSound8OAL) (F : ListenerFlags) (P : DS3DListener) (n : UInt32)
    (b : Buffer) : (s.commitBuffer b).follow F P = (s.deferParams F P n).commitBuffer b := by
  have hparent : (s.deferParams F P n).committedParent = { s.committedParent with
      rolloffFactor := if F .rolloffFactor then P.flRolloffFactor
        else s.committedParent.rolloffFactor } := by
    rw [committedParent, committedParams_deferParams]
    rfl
  rw [commitBuffer, commitBuffer, Buffer.follow_commit, hparent]
  rfl

/-- **A listener call deferred and committed** is one made at once after a commit. -/
theorem Ok.commit_listener (h : s.Ok) (c : ListenerCall) {s₁ s₂ t₁ t₂ : DSound8OAL}
    (hs₁ : s.setParam ds3dDeferred (.listener c) = some s₁) (hs₂ : s₁.commit = some s₂)
    (ht₁ : s.commit = some t₁) (ht₂ : t₁.setParam ds3dImmediate (.listener c) = some t₂) :
    s₂.Agree t₂ := by
  obtain ⟨F, P, hc⟩ := exists_listenerParams c
  obtain ⟨⟨hr, n, hdef⟩, -⟩ := hc s
  obtain ⟨-, hr', hnow⟩ := hc t₁
  obtain rfl : s.deferParams F P n = s₁ := by
    rw [setParam, ParamCall.op, exec, hdef] at hs₁
    exact Option.some.inj hs₁
  have hdefer : (s.deferParams F P n).Ok := (h.deferListener F _).ok
  obtain ⟨s₂', hs₂', -, hm⟩ := hdefer.commit_maps
  obtain rfl : s₂' = s₂ := Option.mem_unique hs₂' hs₂
  obtain ⟨t₁', ht₁', hok, hn₁⟩ := h.commit_maps
  obtain rfl : t₁' = t₁ := Option.mem_unique ht₁' ht₁
  obtain ⟨t₂', ht₂', hn₂⟩ := hok.setListenerParams_maps P F
  obtain rfl : t₂' = t₂ := by
    rw [setParam, ParamCall.op, exec, hnow, ht₂'] at ht₂
    exact Option.some.inj ht₂
  have hn := hn₁.trans hn₂
  rw [hn₁.immediate, hn₁.alListener, hn₁.extensions, PrimaryBuffer.writeParams_writeParams,
    ← committedParams_deferParams s F P n] at hn
  refine Maps.agree (s := s) ⟨hm.buffers, hm.immediate, hm.alListener, hm.extensions, hm.level,
    hm.list⟩ hn fun q b hb ↦ ?_
  rw [Buffer.on3D, Buffer.on3D, Buffer.on3D]
  by_cases h3 : b.is3D
  · have h3' : (s.commitBuffer b).is3D := (is3D_commitBuffer s b).trans h3
    rw [if_pos h3, if_pos h3, if_pos h3', follow_commitBuffer s F P n b]
  · rw [if_neg h3, if_neg h3, if_neg h3]

/-! ## Runs -/

/-- The calls for the listener and the 3D buffers at `ps`. -/
def callsFor (ps : List Ptr) : Set ParamCall := fun c ↦
  match c with
  | .buffer p _ => p ∈ ps
  | .listener _ => True

/-- The invariant of a run of such calls. -/
structure Serves (ps : List Ptr) (s : DSound8OAL) : Prop where
  ok : s.Ok
  list : s.m3dBuffers.map Registered.ptr = ps

theorem Serves.live {ps : List Ptr} (h : s.Serves ps) (hp : p ∈ ps) :
    ∃ b, s.getBuffer p = some b ∧ b.is3D := by
  rw [← h.list] at hp
  obtain ⟨e, he, rfl⟩ := List.mem_map.mp hp
  obtain ⟨b, hb, -, h3⟩ := h.ok.live e he
  exact ⟨b, hb, h3⟩

theorem Maps.serves {ps : List Ptr} (hm : s.Maps f imm al s') (h : s.Serves ps) (hok : s'.Ok) :
    s'.Serves ps :=
  ⟨hok, hm.list ▸ h.list⟩

/-- **A deferred call** succeeds and changes nothing but what is pending. -/
theorem Serves.stage {ps : List Ptr} {c : ParamCall} (h : s.Serves ps) (hc : c ∈ callsFor ps) :
    ∃ s', s.setParam ds3dDeferred c = some s' ∧ s'.Serves ps ∧ s'.Agree s := by
  cases c with
  | buffer p c =>
      obtain ⟨b, hb, h3⟩ := h.live hc
      obtain ⟨s', hs', hk, -, hm⟩ := h.ok.setParam_buffer hb h3 c ds3dDeferred
      refine ⟨s', hs', hm.serves h hk.ok, hm.agree (.refl s) fun q b' _ ↦ ?_⟩
      split_ifs
      · exact Buffer.applied_call3D_deferred s.parent c b'
      · rfl
  | listener c =>
      obtain ⟨F, P, hc⟩ := exists_listenerParams c
      obtain ⟨⟨hr, n, hdef⟩, -⟩ := hc s
      refine ⟨s.deferParams F P n, ?_, ⟨(h.ok.deferListener F _).ok, h.list⟩, fun _ ↦ rfl, rfl,
        rfl, rfl, rfl⟩
      rw [setParam, ParamCall.op, exec, hdef]
      rfl

/-- **An immediate call** succeeds. -/
theorem Serves.now {ps : List Ptr} {c : ParamCall} (h : s.Serves ps) (hc : c ∈ callsFor ps) :
    ∃ s', s.setParam ds3dImmediate c = some s' ∧ s'.Serves ps := by
  cases c with
  | buffer p c =>
      obtain ⟨b, hb, h3⟩ := h.live hc
      obtain ⟨s', hs', hk, -, hm⟩ := h.ok.setParam_buffer hb h3 c ds3dImmediate
      exact ⟨s', hs', hm.serves h hk.ok⟩
  | listener c =>
      obtain ⟨F, P, hc⟩ := exists_listenerParams c
      obtain ⟨-, hr, hnow⟩ := hc s
      obtain ⟨s', hs', hm⟩ := h.ok.setListenerParams_maps P F
      rw [hs'] at hnow
      refine ⟨s', ?_, hm.serves h (h.ok.callListener hnow).ok⟩
      rw [setParam, ParamCall.op, exec, hnow]
      rfl

/-- **An immediate call does the same** to objects that differ in what is pending. -/
theorem Serves.now_congr {ps : List Ptr} {c : ParamCall} (hs : s.Serves ps) (ht : t.Serves ps)
    (hc : c ∈ callsFor ps) (hst : s.Agree t) (hs' : s.setParam ds3dImmediate c = some s')
    (ht' : t.setParam ds3dImmediate c = some t') : s'.Agree t' := by
  cases c with
  | buffer p c =>
      obtain ⟨b, hb, h3⟩ := hs.live hc
      obtain ⟨b', hb', h3'⟩ := ht.live hc
      obtain ⟨F, P, hcall⟩ := exists_bufferParams c
      obtain ⟨s₁, hs₁, -, -, hm⟩ := hs.ok.setParam_buffer hb h3 c ds3dImmediate
      obtain ⟨t₁, ht₁, -, -, hn⟩ := ht.ok.setParam_buffer hb' h3' c ds3dImmediate
      obtain rfl : s₁ = s' := Option.mem_unique hs₁ hs'
      obtain rfl : t₁ = t' := Option.mem_unique ht₁ ht'
      rw [← hst.immediate, ← hst.alListener, ← hst.parent] at hn
      refine hst.maps hm hn fun q b b' hbb ↦ ?_
      split_ifs
      · rw [(hcall s.parent b).2, (hcall s.parent b').2, Buffer.applied_setParams,
          Buffer.applied_setParams, hbb]
      · exact hbb
  | listener c =>
      obtain ⟨F, P, hcall⟩ := exists_listenerParams c
      obtain ⟨-, hr, hnow⟩ := hcall s
      obtain ⟨-, hr', hnow'⟩ := hcall t
      obtain ⟨s₁, hs₁, hm⟩ := hs.ok.setListenerParams_maps P F
      obtain ⟨t₁, ht₁, hn⟩ := ht.ok.setListenerParams_maps P F
      obtain rfl : s₁ = s' := by
        rw [setParam, ParamCall.op, exec, hnow, hs₁] at hs'
        exact Option.some.inj hs'
      obtain rfl : t₁ = t' := by
        rw [setParam, ParamCall.op, exec, hnow', ht₁] at ht'
        exact Option.some.inj ht'
      rw [← hst.immediate, ← hst.alListener, ← hst.extensions] at hn
      refine hst.maps hm hn fun q b b' hbb ↦ ?_
      have h3 : b.applied.is3D = b'.applied.is3D := congrArg Buffer.is3D hbb
      change b.is3D = b'.is3D at h3
      rw [Buffer.on3D, Buffer.on3D, h3]
      split_ifs
      · rw [Buffer.applied_follow, Buffer.applied_follow, hbb]
      · exact hbb

/-- **Deferring and committing is a way of staging calls.** -/
theorem staging (ps : List Ptr) : Staging (setParam ds3dDeferred) (setParam ds3dImmediate)
    commitSettings (Serves ps) (callsFor ps) Agree where
  refl := Agree.refl
  trans s t u := Agree.trans
  stage_some s c hc h := h.stage hc
  now_some s c hc h := h.now hc
  commit_some s h := by
    obtain ⟨s', hs', hok, hm⟩ := h.ok.commit_maps
    exact ⟨s', (commitSettings_eq s).trans hs', hm.serves h hok⟩
  now_congr s t c hc hs ht hst s' t' hs' ht' := hs.now_congr ht hc hst hs' ht'
  commit_stage s c hc h s₁ s₂ t₁ t₂ hs₁ hs₂ ht₁ ht₂ := by
    rw [commitSettings_eq] at hs₂ ht₁
    cases c with
    | buffer p c =>
        obtain ⟨b, hb, h3⟩ := h.live hc
        exact h.ok.commit_buffer hb h3 c hs₁ hs₂ ht₁ ht₂
    | listener c => exact h.ok.commit_listener c hs₁ hs₂ ht₁ ht₂

/-- With nothing pending, a commit changes nothing. -/
theorem Ok.commit_clean (h : s.Ok) (hclean : s.Clean) (hc : s.commit = some s') : s'.Agree s := by
  obtain ⟨s₁, hs₁, -, hm⟩ := h.commit_maps
  obtain rfl : s₁ = s' := Option.mem_unique hs₁ hc
  have hparams : s.committedParams = s.mPrimaryBuffer.mImmediate := by
    rw [committedParams, hclean.listener]
    rfl
  rw [hparams, hclean.listener] at hm
  refine hm.agree (.refl s) fun q b hb ↦ ?_
  rw [Buffer.on3D]
  split_ifs with h3
  · rw [commitBuffer, hclean.listener]
    have hfollow : b.follow .none s.mPrimaryBuffer.mDeferred = b := rfl
    rw [hfollow, Buffer.applied_commit, hclean.buffers q b hb h3, Buffer.setParams_none]
  · rfl

end DSound8OAL

variable [Abi] {s : DSound8OAL}

/-- **Deferred calls and a commit do what immediate calls do.**  In any reachable state in
which nothing is pending, and for any sequence of calls of the setters of the listener and
of live 3D buffers: with `DS3D_DEFERRED` nothing can be seen of them, and after
`CommitDeferredSettings` the settings of every buffer and of the listener, and the
attributes of the sources and of the listener, are the same as with `DS3D_IMMEDIATE`. -/
theorem deferred_eq_immediate (h : Reachable DSoundStep IsNew s) (hclean : s.Clean)
    (cs : List ParamCall) (hcs : ∀ c ∈ cs, s.Has3D c) :
    ∃ s₁ s₂ t, runFun (setParam ds3dDeferred) s cs = some s₁ ∧ s₁.commitSettings = some s₂ ∧
      runFun (setParam ds3dImmediate) s cs = some t ∧
      s₁.SameSettings s ∧ s₂.SameSettings t := by
  have hok := ok_of_reachable h
  have hcalls : ∀ c ∈ cs, c ∈ callsFor (s.m3dBuffers.map Registered.ptr) := by
    intro c hc
    have h3 := hcs c hc
    cases c with
    | buffer p c =>
        obtain ⟨b, hb, hb3⟩ := h3
        exact hok.listed p b hb hb3
    | listener c => trivial
  have hcommit : ∀ t, s.commitSettings = some t → t.Agree s := by
    intro t ht
    rw [commitSettings_eq] at ht
    exact hok.commit_clean hclean ht
  obtain ⟨s₁, s₂, t, hs₁, hs₂, ht, -, -, -, hstaged, hsame⟩ :=
    (staging (s.m3dBuffers.map Registered.ptr)).run ⟨hok, rfl⟩ hcommit hcalls
  exact ⟨s₁, s₂, t, hs₁, hs₂, ht, hstaged.sameSettings, hsame.sameSettings⟩

omit [Abi] in
set_option maxRecDepth 4000 in
/-- A 3D buffer with a source is disabled, the rolloff factor changed, and the buffer made
head-relative and moved. -/
theorem deferred_eq_immediate_one :
    letI : Abi := ⟨⟨600, by decide⟩⟩
    ∃ s, Reachable DSoundStep IsNew s ∧ ∃ b, s.getBuffer ⟨4096, 0⟩ = some b ∧ b.mSource.isSome ∧
    ∃ s₁ s₂ t,
      runFun (setParam ds3dDeferred) s [.buffer ⟨4096, 0⟩ (.setMode Mode.disable),
        .listener (.setRolloffFactor 2), .buffer ⟨4096, 0⟩ (.setMode Mode.headRelative),
        .buffer ⟨4096, 0⟩ (.setPosition 1 2 3)] = some s₁ ∧
      s₁.commitSettings = some s₂ ∧
      runFun (setParam ds3dImmediate) s [.buffer ⟨4096, 0⟩ (.setMode Mode.disable),
        .listener (.setRolloffFactor 2), .buffer ⟨4096, 0⟩ (.setMode Mode.headRelative),
        .buffer ⟨4096, 0⟩ (.setPosition 1 2 3)] = some t ∧
      s₁.SameSettings s ∧ s₂.SameSettings t := by
  let _ : Abi := ⟨⟨600, by decide⟩⟩
  have h0 : Reachable DSoundStep IsNew (DSound8OAL.new true) := .init ⟨true, rfl⟩
  have h1 := h0.step (i := initializeOne) ⟨initializeOne_legal true, _, rfl⟩
  have h2 := h1.step (i := createMono (Caps.ctrl3D ||| Caps.locHardware)) ⟨createMono_legal _ _, _, rfl⟩
  refine ⟨_, h2, _, rfl, rfl, deferred_eq_immediate h2 ⟨rfl, fun p b hb hb3 ↦ ?_⟩ _ ?_⟩
  · obtain rfl : p = ⟨4096, 0⟩ :=
      List.mem_singleton.mp ((ok_of_reachable h2).listed p b hb hb3)
    cases hb
    rfl
  · simp only [List.mem_cons, List.not_mem_nil, or_false]
    rintro c (rfl | rfl | rfl | rfl)
    · exact ⟨_, rfl, rfl⟩
    · trivial
    · exact ⟨_, rfl, rfl⟩
    · exact ⟨_, rfl, rfl⟩

end Dsoal
