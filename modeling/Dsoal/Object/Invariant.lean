import Dsoal.Object.Access
import Dsoal.Params.Methods

/-!
# The invariant of an object

`DSound8OAL.Linked` says that the list of 3D buffers is what its name says: the 3D
buffers among the live ones, each of them once, still the buffers that were
registered.  `DSound8OAL.Ok` adds the invariants of the single buffers.

Most steps keep all buffers where they are.  What such a step does is `Keeps s s'`:
the new state satisfies the invariant, and every buffer persists.  It is a preorder,
and a method is shown to be in it by composing the lemmas about the changes it is
made of: of one buffer (`Ok.setBuffer`), of what is outside the buffers
(`Ok.frame`), and of all 3D buffers (`Ok.forBuffers`).
-/

universe u v

namespace Dsoal

section Rel

variable {α : Type u} {β : Type v} {r : α → β → Prop} {a : α} {b : β} {x : Option α} {y : Option β}

theorem rel_some_left (h : Option.Rel r (some a) y) : ∃ b, y = some b ∧ r a b := by
  cases h with
  | some h => exact ⟨_, rfl, h⟩

theorem rel_some_right (h : Option.Rel r x (some b)) : ∃ a, x = some a ∧ r a b := by
  cases h with
  | some h => exact ⟨_, rfl, h⟩

end Rel

namespace DSound8OAL

variable [Abi] {s s' s'' : DSound8OAL} {p q : Ptr} {b b' : Buffer}

/-- The list of 3D buffers agrees with the buffers. -/
structure Linked (s : DSound8OAL) : Prop where
  pool : PoolOk s.mSecondaryBuffers
  live : ∀ e ∈ s.m3dBuffers, ∃ b, s.getBuffer e.ptr = some b ∧ b.born = e.born ∧ b.is3D
  listed : ∀ p b, s.getBuffer p = some b → b.is3D → p ∈ s.m3dBuffers.map Registered.ptr
  nodup : (s.m3dBuffers.map Registered.ptr).Nodup

/-- The rolloff factor of the listener. -/
abbrev rolloff (s : DSound8OAL) : Float32 := s.mPrimaryBuffer.mImmediate.flRolloffFactor

/-- The invariant of an object. -/
structure Ok (s : DSound8OAL) : Prop extends Linked s where
  buffers : ∀ p b, s.getBuffer p = some b →
    b.Ok s.mExtensions s.rolloff ∧ b.mIsInitialized ∧ b.born < s.nextBorn
  writeEmu : ∀ b, s.mPrimaryBuffer.mWriteEmu = some b →
    b.Ok s.mExtensions s.rolloff ∧ b.is3D = false ∧ s.mShared.isSome
  /-- Before `Initialize` there are no buffers. -/
  shared : ∀ p b, s.getBuffer p = some b → s.mShared.isSome
  nodupNotify : (s.mNotifyBuffers.map Registered.ptr).Nodup

/-- A step that creates and destroys no buffer. -/
structure Keeps (s s' : DSound8OAL) : Prop where
  ok : s'.Ok
  buffers : ∀ p, Option.Rel (Buffer.Persists s.mPrioLevel) (s.getBuffer p) (s'.getBuffer p)
  level : s'.mPrioLevel = s.mPrioLevel
  extensions : s'.mExtensions = s.mExtensions
  shared : s'.mShared.isSome = s.mShared.isSome
  /-- A buffer is registered for polls only by a call on it. -/
  notify : ∀ e ∈ s'.mNotifyBuffers,
    e ∈ s.mNotifyBuffers ∨ ∃ b, s.getBuffer e.ptr = some b ∧ b.born = e.born

/-- A buffer after a step was a buffer before it. -/
theorem Keeps.buffer_of (h : s.Keeps s') (hp : s'.getBuffer p = some b') :
    ∃ b, s.getBuffer p = some b ∧ b.Persists s.mPrioLevel b' :=
  rel_some_right (hp ▸ h.buffers p)

/-- A buffer before a step is a buffer after it. -/
theorem Keeps.buffer (h : s.Keeps s') (hp : s.getBuffer p = some b) :
    ∃ b', s'.getBuffer p = some b' ∧ b.Persists s.mPrioLevel b' :=
  rel_some_left (hp ▸ h.buffers p)

theorem Ok.refl (h : s.Ok) : s.Keeps s where
  ok := h
  buffers p := by
    cases s.getBuffer p with
    | none => exact .none
    | some b => exact .some (.refl _ b)
  level := rfl
  extensions := rfl
  shared := rfl
  notify e he := .inl he

theorem Keeps.trans (h : s.Keeps s') (h' : s'.Keeps s'') : s.Keeps s'' where
  ok := h'.ok
  buffers p := by
    have h₁ := h.buffers p
    have h₂ := h'.buffers p
    rw [h.level] at h₂
    revert h₁ h₂
    cases s.getBuffer p <;> cases s'.getBuffer p <;> cases s''.getBuffer p <;>
      rintro (h₁ | _) (h₂ | _)
    · exact .none
    · exact .some (h₁.trans h₂)
  level := h'.level.trans h.level
  extensions := h'.extensions.trans h.extensions
  shared := h'.shared.trans h.shared
  notify := by
    intro e he
    rcases h'.notify e he with hs' | ⟨b', hb', hborn⟩
    · exact h.notify e hs'
    · obtain ⟨b, hb, hpers⟩ := h.buffer_of hb'
      exact .inr ⟨b, hb, hpers.born.symm.trans hborn⟩

/-! ## Changes of the buffers -/

/-- A change of the buffers that keeps each of them keeps the lists. -/
theorem Linked.of_rel (h : s.Linked) (hpool : PoolOk s'.mSecondaryBuffers)
    (h3d : s'.m3dBuffers = s.m3dBuffers) {level : UInt32}
    (hrel : ∀ p, Option.Rel (Buffer.Persists level) (s.getBuffer p) (s'.getBuffer p)) :
    s'.Linked where
  pool := hpool
  live := by
    intro e he
    obtain ⟨b, hb, hborn, hb3⟩ := h.live e (h3d ▸ he)
    obtain ⟨b', hb', hr⟩ := rel_some_left (hb ▸ hrel e.ptr)
    exact ⟨b', hb', hr.born.trans hborn, hr.is3D.trans hb3⟩
  listed := by
    intro p b' hb' hb3
    obtain ⟨b, hb, hr⟩ := rel_some_right (hb' ▸ hrel p)
    rw [h3d]
    exact h.listed p b hb (hr.is3D.symm.trans hb3)
  nodup := by
    rw [h3d]
    exact h.nodup

/-- **The rule for a change of the buffers**, which may establish another rolloff factor,
together with what is outside the buffers.  The arguments after the first three say
what has to be the same; they are `rfl` for the most part. -/
theorem Ok.of_rel (h : s.Ok) (hpool : PoolOk s'.mSecondaryBuffers)
    (hrel : ∀ p, Option.Rel (Buffer.Keeps s.mExtensions s'.rolloff s.mPrioLevel) (s.getBuffer p)
      (s'.getBuffer p))
    (hemu : ∀ b, s'.mPrimaryBuffer.mWriteEmu = some b →
      b.Ok s.mExtensions s'.rolloff ∧ b.is3D = false ∧ s.mShared.isSome)
    (h3d : s'.m3dBuffers = s.m3dBuffers) (hexts : s'.mExtensions = s.mExtensions)
    (hlevel : s'.mPrioLevel = s.mPrioLevel) (hborn : s.nextBorn ≤ s'.nextBorn)
    (hsh : s'.mShared.isSome = s.mShared.isSome)
    (hnotify : s'.mNotifyBuffers.Sublist s.mNotifyBuffers) : s.Keeps s' := by
  have hpers : ∀ p, Option.Rel (Buffer.Persists s.mPrioLevel) (s.getBuffer p) (s'.getBuffer p) := by
    intro p
    have hp := hrel p
    revert hp
    cases s.getBuffer p <;> cases s'.getBuffer p <;> rintro (hk | _)
    · exact .none
    · exact .some hk.2
  exact {
    ok := {
      toLinked := h.toLinked.of_rel hpool h3d hpers
      buffers := by
        intro p b' hb'
        obtain ⟨b, hb, hk⟩ := rel_some_right (hb' ▸ hrel p)
        obtain ⟨-, hinit, hlt⟩ := h.buffers p b hb
        rw [hexts]
        exact ⟨hk.1, hk.2.initialized.trans hinit, (hk.2.born.trans_lt hlt).trans_le hborn⟩
      writeEmu := by
        rw [hexts, hsh]
        exact hemu
      shared := by
        intro p b' hb'
        obtain ⟨b, hb, -⟩ := rel_some_right (hb' ▸ hrel p)
        rw [hsh]
        exact h.shared p b hb
      nodupNotify := h.nodupNotify.sublist (hnotify.map _) }
    buffers := hpers
    level := hlevel
    extensions := hexts
    shared := hsh
    notify := fun e he ↦ .inl (hnotify.subset he) }

theorem Ok.rel_refl (h : s.Ok) (p : Ptr) :
    Option.Rel (Buffer.Keeps s.mExtensions s.rolloff s.mPrioLevel) (s.getBuffer p)
      (s.getBuffer p) := by
  cases hb : s.getBuffer p with
  | none => exact .none
  | some b => exact .some (h.buffers p b hb).1.keeps

/-- **Changing one buffer** by something that keeps it. -/
theorem Ok.setBuffer (h : s.Ok) (hp : s.getBuffer p = some b)
    (hk : b.Keeps s.mExtensions s.rolloff s.mPrioLevel b') : s.Keeps (s.setBuffer p b') := by
  refine h.of_rel (poolOk_setBuffer h.pool p b') (fun q ↦ ?_) h.writeEmu rfl rfl rfl le_rfl rfl
    (.refl _)
  rw [getBuffer_setBuffer h.pool hp b']
  split_ifs with hq
  · subst hq
    rw [hp]
    exact .some hk
  · exact h.rel_refl q

/-- **Changing what is outside the secondary buffers.** -/
theorem Ok.frame (h : s.Ok) (s' : DSound8OAL) (hgs : s'.mSecondaryBuffers = s.mSecondaryBuffers)
    (hroll : s'.rolloff = s.rolloff)
    (hemu : ∀ b, s'.mPrimaryBuffer.mWriteEmu = some b →
      b.Ok s.mExtensions s.rolloff ∧ b.is3D = false ∧ s.mShared.isSome)
    (h3d : s'.m3dBuffers = s.m3dBuffers) (hexts : s'.mExtensions = s.mExtensions)
    (hlevel : s'.mPrioLevel = s.mPrioLevel) (hborn : s.nextBorn ≤ s'.nextBorn)
    (hsh : s'.mShared.isSome = s.mShared.isSome)
    (hnotify : s'.mNotifyBuffers.Sublist s.mNotifyBuffers) : s.Keeps s' := by
  refine h.of_rel (hgs ▸ h.pool) (fun q ↦ ?_) (hroll ▸ hemu) h3d hexts hlevel hborn hsh hnotify
  rw [hroll, getBuffer, getBuffer, hgs]
  exact h.rel_refl q

/-- **A loop over the 3D buffers**: `t` is the object after the listener has been changed,
and before the loop. -/
theorem Ok.forBuffers (h : s.Ok) (t : DSound8OAL) {f : Buffer → Buffer}
    (hgs : t.mSecondaryBuffers = s.mSecondaryBuffers)
    (hf : ∀ b : Buffer, b.Ok s.mExtensions s.rolloff → b.is3D →
      b.Keeps s.mExtensions t.rolloff s.mPrioLevel (f b))
    (hemu : t.mPrimaryBuffer.mWriteEmu = s.mPrimaryBuffer.mWriteEmu)
    (h3d : t.m3dBuffers = s.m3dBuffers) (hexts : t.mExtensions = s.mExtensions)
    (hlevel : t.mPrioLevel = s.mPrioLevel) (hborn : t.nextBorn = s.nextBorn)
    (hsh : t.mShared = s.mShared) (hnotify : t.mNotifyBuffers = s.mNotifyBuffers) :
    ∃ gs, t.forBuffers f t.m3dBuffers = some { t with mSecondaryBuffers := gs } ∧
      s.Keeps { t with mSecondaryBuffers := gs } := by
  have hget : ∀ q, t.getBuffer q = s.getBuffer q := fun q ↦ by
    rw [getBuffer, hgs]
    rfl
  have hlive : ∀ e ∈ t.m3dBuffers, ∃ b, t.getBuffer e.ptr = some b := by
    intro e he
    obtain ⟨b, hb, -⟩ := h.live e (h3d ▸ he)
    exact ⟨b, (hget e.ptr).trans hb⟩
  obtain ⟨gs, hfor, hpool, hlook⟩ := forBuffers_eq (f := f) (hgs ▸ h.pool) hlive
    (h3d ▸ h.nodup)
  refine ⟨gs, hfor, h.of_rel hpool (fun q ↦ ?_) ?_ h3d hexts hlevel hborn.ge
    (congrArg Option.isSome hsh) (hnotify ▸ .refl _)⟩
  · change Option.Rel (Buffer.Keeps s.mExtensions t.rolloff s.mPrioLevel) _ (lookup q gs)
    rw [hlook, hget, h3d]
    cases hb : s.getBuffer q with
    | none => split_ifs <;> exact .none
    | some b =>
        obtain ⟨hok, -⟩ := h.buffers q b hb
        split_ifs with hq
        · obtain ⟨e, he, rfl⟩ := List.mem_map.mp hq
          obtain ⟨b₁, hb₁, -, h3⟩ := h.live e he
          obtain rfl : b = b₁ := Option.some.inj (hb.symm.trans hb₁)
          exact .some (hf b hok h3)
        · have h3 : b.is3D = false := by
            rw [← Bool.not_eq_true]
            exact fun h3 ↦ hq (h.listed q b hb h3)
          exact .some ⟨hok.of_not_is3D h3, .refl _ b⟩
  · intro b hb
    change t.mPrimaryBuffer.mWriteEmu = some b at hb
    obtain ⟨hok, h3, hs⟩ := h.writeEmu b (hemu ▸ hb)
    exact ⟨hok.of_not_is3D h3, h3, hs⟩

end DSound8OAL

end Dsoal
