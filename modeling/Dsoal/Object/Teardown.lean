import Dsoal.Core.Teardown
import Dsoal.Lib.Teardown
import Dsoal.Object.Steps

/-!
# Destroying the object in any state

Destroying the object destroys every live buffer once, and deletes and returns its
source while the device is held.  It destroys the members in the wrong order for 3D
buffers, however: `m3dBuffers` is declared after `mSecondaryBuffers`, so that it is gone
when the destructors of the buffers remove them from it.  `teardown_safe_iff` says that
this is all there is to it: the destruction is safe exactly if no live secondary buffer
is a 3D buffer.
-/

namespace Dsoal

open TransitionSystem DSound8OAL Teardown

/-! ## The events of one buffer -/

/-- The buffer an event belongs to. -/
def TeardownEvent.owner : TeardownEvent → Option BufferAt
  | .destroyBuffer x | .deleteSource x | .decSources x _ | .remove3dBuffer x => some x
  | .joinNotifyThread | .destroyed _ => none

/-- The member whose destruction ends with an event. -/
def TeardownEvent.ends : TeardownEvent → Option Member
  | .destroyed m => some m
  | _ => none

namespace Buffer

variable {x : BufferAt} {b : Buffer} {e : TeardownEvent} {m : Member}

/-- What the destructor of a buffer does. -/
theorem mem_destructor : e ∈ b.destructor x ↔
    e = .destroyBuffer x ∨ (e = .deleteSource x ∧ b.mSource.isSome) ∨
    (∃ k, e = .decSources x k ∧ b.mLocStatus = .loc k) ∨ (e = .remove3dBuffer x ∧ b.is3D) := by
  unfold destructor
  cases hl : b.mLocStatus with
  | none => split_ifs <;> simp_all
  | loc k => split_ifs <;> simp_all

theorem owner_of_mem_destructor (h : e ∈ b.destructor x) : e.owner = some x := by
  rcases mem_destructor.mp h with rfl | ⟨rfl, -⟩ | ⟨k, rfl, -⟩ | ⟨rfl, -⟩ <;> rfl

theorem ends_of_mem_destructor (h : e ∈ b.destructor x) : e.ends = none := by
  rcases mem_destructor.mp h with rfl | ⟨rfl, -⟩ | ⟨k, rfl, -⟩ | ⟨rfl, -⟩ <;> rfl

/-- **The members a destructor of a buffer works with.** -/
theorem needs_destructor (h : e ∈ b.destructor x) (hm : m ∈ e.needs) :
    m = .mShared ∨ (m = .m3dBuffers ∧ b.is3D) := by
  rcases mem_destructor.mp h with rfl | ⟨rfl, -⟩ | ⟨k, rfl, -⟩ | ⟨rfl, h3⟩
  · cases hm
  · exact .inl (List.mem_singleton.mp hm)
  · exact .inl (List.mem_singleton.mp hm)
  · exact .inr ⟨List.mem_singleton.mp hm, h3⟩

/-- A destructor does each thing once. -/
theorem nodup_destructor : (b.destructor x).Nodup := by
  unfold destructor
  cases hl : b.mLocStatus with
  | none => split_ifs <;> simp
  | loc k => split_ifs <;> simp

theorem count_destructor : (b.destructor x).count e = if e ∈ b.destructor x then 1 else 0 :=
  nodup_destructor.count

end Buffer

namespace DSound8OAL

variable [Abi] {s : DSound8OAL} {x : BufferAt} {b : Buffer} {e : TeardownEvent} {m : Member}

/-! ## The events of all buffers -/

/-- Destroying the groups destroys the live buffers. -/
theorem Linked.destroyMember_eq (h : s.Linked) : s.destroyMember .mSecondaryBuffers =
    (livePtrs s.mSecondaryBuffers).flatMap fun p ↦
      (s.getBuffer p).elim [] (Buffer.destructor (.secondary p)) := by
  have hslot : ∀ g ∈ s.mSecondaryBuffers, ∀ i ∈ g.usedSlots,
      destroySlot ⟨g.base, i⟩ (g.elem i) =
        (s.getBuffer ⟨g.base, i⟩).elim [] (Buffer.destructor (.secondary ⟨g.base, i⟩)) := by
    intro g hg i hi
    obtain ⟨k, hk⟩ := List.mem_iff_getElem?.mp hg
    have hlook : s.getBuffer ⟨g.base, i⟩ = g.elem i := h.pool.lookup_eq hk rfl
    obtain ⟨b, hb⟩ := Option.isSome_iff_exists.mp
      ((BufferSubList.mem_usedSlots (h.pool.ok g hg)).mp hi)
    rw [hlook, hb]
    rfl
  simp only [destroyMember, livePtrs, List.flatMap_assoc, List.flatMap_map]
  refine List.flatMap_congr fun g hg ↦ ?_
  rw [BufferSubList.destroyedSlots_eq (h.pool.ok g hg)]
  exact List.flatMap_congr (hslot g hg)

/-- The places of the live buffers, and perhaps one that is empty. -/
def places (s : DSound8OAL) : List BufferAt :=
  .writeEmu :: (livePtrs s.mSecondaryBuffers).map .secondary

omit [Abi] in
/-- The events of the buffer at a place. -/
theorem mem_placeEvents :
    e ∈ (s.bufferAt x).elim [] (Buffer.destructor x) ↔
      ∃ b, s.bufferAt x = some b ∧ e ∈ b.destructor x := by
  cases s.bufferAt x <;> simp

theorem Linked.mem_places (h : s.Linked) (hb : s.bufferAt x = some b) : x ∈ s.places := by
  cases x with
  | writeEmu => exact List.mem_cons_self
  | secondary p =>
      have hlive : (lookup p s.mSecondaryBuffers).isSome := Option.isSome_of_eq_some hb
      exact List.mem_cons_of_mem _ (List.mem_map.mpr ⟨p, h.pool.mem_livePtrs.mpr hlive, rfl⟩)

theorem Linked.nodup_places (h : s.Linked) : s.places.Nodup := by
  refine List.nodup_cons.mpr ⟨by simp, h.pool.nodup_livePtrs.map fun p q hpq ↦ ?_⟩
  cases hpq
  rfl

/-- **Counting the events of one buffer** in the destruction of the object. -/
theorem Linked.count_teardown (h : s.Linked) (he : e.owner = some x) :
    s.teardown.count e = (s.bufferAt x).elim 0 fun b ↦ (b.destructor x).count e := by
  have hne : ∀ m, TeardownEvent.destroyed m ≠ e := by
    rintro m rfl
    cases he
  have hjoin : (if s.mNotifyThread then [TeardownEvent.joinNotifyThread] else []).count e = 0 := by
    refine List.count_eq_zero.mpr fun hm ↦ ?_
    split_ifs at hm
    · rw [List.mem_singleton.mp hm] at he
      cases he
    · cases hm
  -- only two members own buffers
  have hsum : s.teardown.count e =
      (s.places.flatMap fun x ↦ (s.bufferAt x).elim [] (Buffer.destructor x)).count e := by
    rw [places, List.flatMap_cons, List.flatMap_map, List.count_append, teardown,
      List.count_append, hjoin]
    have hsec := congrArg (List.count e) h.destroyMember_eq
    simp only [bufferAt]
    rw [← hsec]
    simp [Member.declared, List.count_cons_of_ne (hne _), destroyMember]
  rw [hsum, count_flatMap_of_owner h.nodup_places (fun y e hy ↦ ?_) he]
  · cases hb : s.bufferAt x with
    | none => simp
    | some b => simp [h.mem_places hb]
  · obtain ⟨b, -, hy⟩ := mem_placeEvents.mp hy
    exact Buffer.owner_of_mem_destructor hy

/-! ## The order of the members -/

/-- What the destructor of a member does, the destructors of buffers do. -/
theorem Linked.mem_destroyMember (h : s.Linked) (he : e ∈ s.destroyMember m) :
    ∃ x b, s.bufferAt x = some b ∧ e ∈ b.destructor x ∧
      (m = .mSecondaryBuffers ∨ m = .mPrimaryBuffer) := by
  cases m with
  | mPrimaryBuffer =>
      obtain ⟨b, hb, he⟩ := mem_placeEvents (x := .writeEmu).mp he
      exact ⟨.writeEmu, b, hb, he, .inr rfl⟩
  | mSecondaryBuffers =>
      rw [h.destroyMember_eq] at he
      obtain ⟨p, -, he⟩ := List.mem_flatMap.mp he
      obtain ⟨b, hb, he⟩ := mem_placeEvents (x := .secondary p).mp he
      exact ⟨.secondary p, b, hb, he, .inl rfl⟩
  | _ => cases he

/-- A live secondary buffer is destroyed with the groups. -/
theorem Linked.mem_destroyMember_secondary (h : s.Linked) {p : Ptr} (hb : s.getBuffer p = some b)
    (he : e ∈ b.destructor (.secondary p)) : e ∈ s.destroyMember .mSecondaryBuffers := by
  rw [h.destroyMember_eq]
  have hlive : (lookup p s.mSecondaryBuffers).isSome := Option.isSome_of_eq_some hb
  exact List.mem_flatMap.mpr ⟨p, h.pool.mem_livePtrs.mpr hlive,
    mem_placeEvents (x := .secondary p).mpr ⟨b, hb, he⟩⟩

/-- No destructor uses `m` after `m` has been destroyed. -/
abbrev Outlives (s : DSound8OAL) (m : Member) : Prop :=
  Teardown.Outlives TeardownEvent.needs TeardownEvent.ends m s.teardown

/-- A member outlives its uses if no member that needs it is declared before it. -/
theorem Linked.outlives_iff (h : s.Linked) : s.Outlives m ↔
    Member.declared.reverse.Pairwise fun d d' ↦
      d = m → ∀ e ∈ s.destroyMember d', m ∉ e.needs := by
  have hbody : ∀ d, ∀ e ∈ s.destroyMember d, e.ends ≠ some m := by
    intro d e he
    obtain ⟨x, b, -, he, -⟩ := h.mem_destroyMember he
    rw [Buffer.ends_of_mem_destructor he]
    nofun
  have hends : ∀ d, (TeardownEvent.destroyed d).ends = some d := fun _ ↦ rfl
  rw [← outlives_destroyAll hends (fun _ ↦ List.not_mem_nil) hbody]
  refine outlives_append_left fun e he ↦ ?_
  split_ifs at he
  · rw [List.mem_singleton.mp he]
    nofun
  · cases he

/-- **Every member but `m3dBuffers` outlives its uses**: the buffers need the device, and it
is declared before the members that own them. -/
theorem Linked.outlives (h : s.Linked) (hm : m ≠ .m3dBuffers) : s.Outlives m := by
  rw [h.outlives_iff]
  have horder : Member.declared.reverse.Pairwise fun d d' ↦
      d = .mShared → d' ≠ .mSecondaryBuffers ∧ d' ≠ .mPrimaryBuffer := by decide
  refine horder.imp fun hd hdm e he hneeds ↦ ?_
  obtain ⟨x, b, -, he, howns⟩ := h.mem_destroyMember he
  rcases Buffer.needs_destructor he hneeds with rfl | ⟨rfl, -⟩
  · obtain ⟨hsec, hprim⟩ := hd hdm
    exact howns.elim hsec hprim
  · exact hm rfl

/-- **`m3dBuffers` outlives its uses** exactly if there is no 3D buffer to be removed from it. -/
theorem Ok.outlives_m3dBuffers (h : s.Ok) :
    s.Outlives .m3dBuffers ↔ ∀ p b, s.getBuffer p = some b → b.is3D = false := by
  rw [h.outlives_iff]
  constructor
  · intro hpw p b hb
    have hsub : [Member.m3dBuffers, .mSecondaryBuffers].Sublist Member.declared.reverse := by
      decide
    have hno := List.pairwise_pair.mp (hpw.sublist hsub) rfl
    rw [← Bool.not_eq_true]
    intro h3
    have he : TeardownEvent.remove3dBuffer (.secondary p) ∈ b.destructor (.secondary p) :=
      Buffer.mem_destructor.mpr (.inr (.inr (.inr ⟨rfl, h3⟩)))
    exact hno _ (h.mem_destroyMember_secondary hb he) List.mem_cons_self
  · intro hflat
    refine List.pairwise_of_forall fun d d' _ e he hneeds ↦ ?_
    obtain ⟨x, b, hb, he, -⟩ := h.mem_destroyMember he
    rcases Buffer.needs_destructor he hneeds with hm | ⟨-, h3⟩
    · cases hm
    · cases x with
      | writeEmu => exact absurd h3 (by rw [(h.writeEmu b hb).2.1]; nofun)
      | secondary p => exact absurd h3 (by rw [hflat p b hb]; nofun)

/-- Every live buffer is destroyed once, and its source deleted and returned once. -/
structure DestroysOnce (s : DSound8OAL) : Prop where
  destroyed : ∀ x, s.teardown.count (.destroyBuffer x) = if (s.bufferAt x).isSome then 1 else 0
  deleted : ∀ x b, s.bufferAt x = some b →
    s.teardown.count (.deleteSource x) = if b.mSource.isSome then 1 else 0
  returned : ∀ x b k, s.bufferAt x = some b →
    s.teardown.count (.decSources x k) = if b.mLocStatus = .loc k then 1 else 0

theorem Linked.destroysOnce (h : s.Linked) : s.DestroysOnce where
  destroyed x := by
    rw [h.count_teardown rfl]
    cases s.bufferAt x <;> simp [Buffer.count_destructor, Buffer.mem_destructor]
  deleted x b hb := by
    rw [h.count_teardown rfl, hb]
    simp [Buffer.count_destructor, Buffer.mem_destructor]
  returned x b k hb := by
    rw [h.count_teardown rfl, hb]
    simp [Buffer.count_destructor, Buffer.mem_destructor]

/-- The object can be destroyed: every live buffer once, before the members it uses. -/
structure TeardownSafe (s : DSound8OAL) : Prop extends s.DestroysOnce where
  alive : ∀ m, s.Outlives m

omit [Abi] in
theorem not_teardownSafe_of_sublist {p : Ptr}
    (h : [.destroyed .m3dBuffers, .remove3dBuffer (.secondary p)].Sublist s.teardown) :
    ¬ s.TeardownSafe := by
  intro hsafe
  have hpair := List.pairwise_pair.mp ((hsafe.alive .m3dBuffers).sublist h)
  exact hpair rfl List.mem_cons_self

end DSound8OAL

variable [Abi] {s : DSound8OAL}

/-- **Destroying the object**, in any reachable state, destroys every live buffer once,
and deletes and returns its source once, while the device and every other member but
`m3dBuffers` are there.  That member is there as well, so that the destruction is safe,
if and only if no live secondary buffer is a 3D buffer. -/
theorem teardown_safe_iff (h : Reachable DSoundStep IsNew s) :
    s.DestroysOnce ∧ (∀ m ≠ .m3dBuffers, s.Outlives m) ∧
    (s.TeardownSafe ↔ ∀ p b, s.getBuffer p = some b → b.is3D = false) := by
  have hok := ok_of_reachable h
  refine ⟨hok.destroysOnce, fun m hm ↦ hok.outlives hm, fun hsafe ↦ ?_, fun hflat ↦ ?_⟩
  · exact hok.outlives_m3dBuffers.mp (hsafe.alive .m3dBuffers)
  · refine ⟨hok.destroysOnce, fun m ↦ ?_⟩
    by_cases hm : m = .m3dBuffers
    · subst hm
      exact hok.outlives_m3dBuffers.mpr hflat
    · exact hok.outlives hm

omit [Abi] in
set_option maxRecDepth 4000 in
/-- An object with a playing buffer, which is not a 3D buffer. -/
theorem teardown_safe_iff_one :
    letI : Abi := ⟨⟨600, by decide⟩⟩
    ∃ s, Reachable DSoundStep IsNew s ∧
      s.teardown.count (.deleteSource (.secondary ⟨4096, 0⟩)) = 1 ∧ s.TeardownSafe := by
  let _ : Abi := ⟨⟨600, by decide⟩⟩
  have h0 : Reachable DSoundStep IsNew (DSound8OAL.new true) := .init ⟨true, rfl⟩
  have h1 := h0.step (i := initializeOne) ⟨initializeOne_legal true, _, rfl⟩
  have h2 := h1.step (i := createMono Caps.locHardware) ⟨createMono_legal _ _, _, rfl⟩
  have h3 := h2.step (i := Op.play ⟨4096, 0⟩ 0 0 true) ⟨trivial, _, rfl⟩
  obtain ⟨honce, -, hiff⟩ := teardown_safe_iff h3
  refine ⟨_, h3, honce.deleted (.secondary ⟨4096, 0⟩) _ rfl, hiff.mpr fun p b hb ↦ ?_⟩
  rw [← Bool.not_eq_true]
  exact fun hb3 ↦ absurd ((ok_of_reachable h3).listed p b hb hb3) List.not_mem_nil

omit [Abi] in
set_option maxRecDepth 4000 in
/-- An object with a 3D buffer: its destructor works on the destroyed `m3dBuffers`. -/
theorem teardown_removes_after_destroyed :
    letI : Abi := ⟨⟨600, by decide⟩⟩
    ∃ s, Reachable DSoundStep IsNew s ∧ ¬ s.TeardownSafe ∧
      [.destroyed .m3dBuffers, .remove3dBuffer (.secondary ⟨4096, 0⟩)].Sublist s.teardown := by
  let _ : Abi := ⟨⟨600, by decide⟩⟩
  have h0 : Reachable DSoundStep IsNew (DSound8OAL.new true) := .init ⟨true, rfl⟩
  have h1 := h0.step (i := initializeOne) ⟨initializeOne_legal true, _, rfl⟩
  have h2 := h1.step (i := createMono (Caps.ctrl3D ||| Caps.locHardware)) ⟨createMono_legal _ _, _, rfl⟩
  refine ⟨_, h2, not_teardownSafe_of_sublist (p := ⟨4096, 0⟩) ?_, ?_⟩ <;> decide +kernel

end Dsoal
