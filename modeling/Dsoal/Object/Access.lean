import Dsoal.Core.DSound
import Dsoal.Slots.Run

/-!
# Walks over the buffers of an object

The secondary buffers of a `DSound8OAL` through `getBuffer`, and what the walks over
its lists do to them.  Each walk changes nothing but the buffers it visits:
`forBuffers_eq` and `pollBuffers_eq` say which ones, and how.
-/

namespace Dsoal

namespace DSound8OAL

variable [Abi] {s s' : DSound8OAL} {p q : Ptr} {b : Buffer} {f : Buffer → Buffer}
  {es : List Registered}

/-! ## One buffer -/

/-- Changing a buffer changes no other. -/
theorem getBuffer_setBuffer (h : PoolOk s.mSecondaryBuffers) (hp : s.getBuffer p = some b)
    (b' : Buffer) (q : Ptr) :
    (s.setBuffer p b').getBuffer q = if q = p then some b' else s.getBuffer q := by
  have hq := h.lookup_modify p (fun _ ↦ b') q
  rw [show lookup p s.mSecondaryBuffers = some b from hp] at hq
  exact hq

theorem poolOk_setBuffer (h : PoolOk s.mSecondaryBuffers) (p : Ptr) (b : Buffer) :
    PoolOk (s.setBuffer p b).mSecondaryBuffers :=
  h.modify p fun _ ↦ b

/-! ## Loops over a list -/

/-- **A loop over live buffers** applies its body to each of them. -/
theorem forBuffers_eq (h : PoolOk s.mSecondaryBuffers)
    (hlive : ∀ e ∈ es, ∃ b, s.getBuffer e.ptr = some b) (hnodup : (es.map Registered.ptr).Nodup) :
    ∃ gs, s.forBuffers f es = some { s with mSecondaryBuffers := gs } ∧ PoolOk gs ∧
      ∀ q, lookup q gs =
        if q ∈ es.map Registered.ptr then (s.getBuffer q).map f else s.getBuffer q := by
  induction es generalizing s with
  | nil => exact ⟨_, rfl, h, fun q ↦ by simp [getBuffer]⟩
  | cons e es ih =>
      obtain ⟨b, hb⟩ := hlive e List.mem_cons_self
      obtain ⟨hne, hnodup⟩ := List.nodup_cons.mp hnodup
      have hset := getBuffer_setBuffer h hb (f b)
      have hlive' : ∀ e' ∈ es, ∃ b', (s.setBuffer e.ptr (f b)).getBuffer e'.ptr = some b' := by
        intro e' he'
        rw [hset]
        split_ifs
        · exact ⟨_, rfl⟩
        · exact hlive e' (List.mem_cons_of_mem _ he')
      obtain ⟨gs, hgs, hok, hlook⟩ := ih (poolOk_setBuffer h e.ptr (f b)) hlive' hnodup
      refine ⟨gs, ?_, hok, fun q ↦ ?_⟩
      · simp only [forBuffers, hb, Option.bind_eq_bind, Option.bind_some]
        exact hgs
      · rw [hlook, hset, List.map_cons]
        by_cases hq : q = e.ptr
        · subst hq
          simp [hne, hb]
        · simp [hq]

/-! ## Commits -/

omit [Abi] in
@[simp] theorem setListenerParams_none (s : DSound8OAL) (P : DS3DListener) :
    s.setListenerParams P .none = some s := by
  cases s with
  | mk =>
      simp [setListenerParams, ListenerFlags.none, PrimaryBuffer.copyParams,
        PrimaryBuffer.writeParams]

/-- The object without the dirty flags of the listener. -/
def clearDirty (s : DSound8OAL) : DSound8OAL :=
  { s with mPrimaryBuffer := { s.mPrimaryBuffer with mDirty := .none } }

omit [Abi] in
/-- `commit` applies what is pending for the listener, also if that is nothing, and then
what is pending for the 3D buffers. -/
theorem commit_eq (s : DSound8OAL) :
    s.commit = (s.clearDirty.setListenerParams s.mPrimaryBuffer.mDeferred
      s.mPrimaryBuffer.mDirty).bind fun s ↦ s.forBuffers (Buffer.commit s.parent) s.m3dBuffers := by
  unfold commit
  by_cases hany : s.mPrimaryBuffer.mDirty.any
  · simp only [hany, if_true]
    rfl
  · have hnone : s.mPrimaryBuffer.mDirty = .none := by
      funext f
      cases f <;> simp_all [ListenerFlags.any, ListenerFlags.none]
    simp only [hnone, setListenerParams_none]
    rfl

/-! ## Polls -/

omit [Abi] in
/-- A poll changes nothing of a buffer but `mLastPos`. -/
theorem updateNotify_eq {b' : Buffer} {hit : List (PositionNotify EventHandle)} {again : Bool}
    (h : b.updateNotify = some (hit, b', again)) : ∃ n, b' = { b with mLastPos := n } := by
  obtain ⟨sb, -, h⟩ := Option.bind_eq_some_iff.mp h
  cases h
  exact ⟨_, rfl⟩

/-- **Polling the buffers of a list** changes nothing of any buffer but `mLastPos`, and
removes entries from the list. -/
theorem pollBuffers_eq (h : PoolOk s.mSecondaryBuffers) {kept : List Registered}
    (hc : pollBuffers es s = some (kept, s')) :
    ∃ gs sig, s' = { s with mSecondaryBuffers := gs, signalled := sig } ∧ PoolOk gs ∧
      (∀ q, ∃ n, lookup q gs = (s.getBuffer q).map fun b ↦ { b with mLastPos := n }) ∧
      kept.Sublist es := by
  induction es generalizing s kept with
  | nil =>
      cases hc
      refine ⟨_, _, rfl, h, fun q ↦ ?_, .slnil⟩
      cases hq : s'.getBuffer q with
      | none => exact ⟨0, hq⟩
      | some b => exact ⟨b.mLastPos, hq⟩
  | cons e es ih =>
      obtain ⟨b, hb, hc⟩ := Option.bind_eq_some_iff.mp hc
      obtain ⟨⟨hit, b', again⟩, hu, hc⟩ := Option.bind_eq_some_iff.mp hc
      obtain ⟨⟨kept', s₁⟩, hrec, hc⟩ := Option.bind_eq_some_iff.mp hc
      cases hc
      have hset := getBuffer_setBuffer h hb b'
      obtain ⟨gs, sig, rfl, hok, hlook, hsub⟩ :=
        ih (s := { s.setBuffer e.ptr b' with signalled := s.signalled ++ hit })
          (poolOk_setBuffer h e.ptr b') hrec
      refine ⟨gs, sig, rfl, hok, fun q ↦ ?_, ?_⟩
      · obtain ⟨n, hn⟩ := hlook q
        refine ⟨n, hn.trans ?_⟩
        obtain ⟨m, rfl⟩ := updateNotify_eq hu
        show ((s.setBuffer e.ptr _).getBuffer q).map _ = _
        rw [hset]
        split_ifs with hq
        · subst hq
          rw [hb]
          rfl
        · rfl
      · split_ifs
        · exact hsub.cons_cons e
        · exact hsub.cons e

/-- Live buffers with storage can be polled. -/
theorem isSome_pollBuffers (h : PoolOk s.mSecondaryBuffers)
    (hlive : ∀ e ∈ es, ∃ b, s.getBuffer e.ptr = some b)
    (hstorage : ∀ p b, s.getBuffer p = some b → b.mBuffer.isSome) :
    (pollBuffers es s).isSome := by
  induction es generalizing s with
  | nil => rfl
  | cons e es ih =>
      obtain ⟨b, hb⟩ := hlive e List.mem_cons_self
      obtain ⟨sb, hsb⟩ := Option.isSome_iff_exists.mp (hstorage e.ptr b hb)
      obtain ⟨⟨hit, b', again⟩, hu⟩ : ∃ r, b.updateNotify = some r := by
        simp [Buffer.updateNotify, hsb]
      obtain ⟨n, rfl⟩ := updateNotify_eq hu
      have hset := getBuffer_setBuffer h hb { b with mLastPos := n }
      have hrec : (pollBuffers es { s.setBuffer e.ptr { b with mLastPos := n } with
          signalled := s.signalled ++ hit }).isSome := by
        refine ih (poolOk_setBuffer h _ _) (fun e' he' ↦ ?_) fun p b₁ hb₁ ↦ ?_
        · show ∃ b₁, (s.setBuffer _ _).getBuffer e'.ptr = some b₁
          rw [hset]
          split_ifs
          · exact ⟨_, rfl⟩
          · exact hlive e' (List.mem_cons_of_mem _ he')
        · change (s.setBuffer _ _).getBuffer p = some b₁ at hb₁
          rw [hset] at hb₁
          split_ifs at hb₁
          · cases hb₁
            simp [hsb]
          · exact hstorage p b₁ hb₁
      obtain ⟨r, hr⟩ := Option.isSome_iff_exists.mp hrec
      simp only [pollBuffers, hb, hu, hr, Option.bind_eq_bind, Option.bind_some]
      rfl

end DSound8OAL

end Dsoal
