import Dsoal.Object.Methods

/-!
# Creating and destroying buffers

What the remaining steps do: those that create a buffer (`Created`), destroy one
(`Removed`), change the cooperative level or initialize the object.  Together with
`Keeps` they are the possible outcomes of a step (`DSoundStep.outcome`), and each of
them leaves a state that satisfies the invariant, so that every reachable state does
(`ok_of_reachable`).
-/

namespace Dsoal

open TransitionSystem

namespace DSound8OAL

variable [Abi] {s s' s₁ : DSound8OAL} {p q : Ptr} {b b' : Buffer} {hr : HResult}
  {mem : Memory} {dev : DeviceSources}

/-- A step that creates the buffer `b` at `p`. -/
structure Created (s : DSound8OAL) (p : Ptr) (b : Buffer) (s' : DSound8OAL) : Prop where
  ok : s'.Ok
  free : s.getBuffer p = none
  buffer : s'.getBuffer p = some b
  others : ∀ q, q ≠ p → s'.getBuffer q = s.getBuffer q
  lost : b.mBufferLost = false
  level : s'.mPrioLevel = s.mPrioLevel
  notify : s'.mNotifyBuffers = s.mNotifyBuffers

/-- A step that destroys the buffer at `p`. -/
structure Removed (s : DSound8OAL) (p : Ptr) (s' : DSound8OAL) : Prop where
  ok : s'.Ok
  gone : s'.getBuffer p = none
  others : ∀ q, q ≠ p → s'.getBuffer q = s.getBuffer q
  level : s'.mPrioLevel = s.mPrioLevel
  notify : s'.mNotifyBuffers = s.mNotifyBuffers

/-! ## Disposal -/

/-- What `dispose` of a live buffer does. -/
theorem dispose_eq (hpool : PoolOk s.mSecondaryBuffers) (hb : s.getBuffer p = some b)
    (hc : s.dispose p = some s') : ∃ shared, shared.isSome = s.mShared.isSome ∧
      s' = { s with
        mSecondaryBuffers := Dsoal.dispose p s.mSecondaryBuffers
        mShared := shared
        m3dBuffers :=
          if b.is3D then s.m3dBuffers.filter fun e ↦ e.ptr ≠ p else s.m3dBuffers } := by
  obtain ⟨k, g, hk, hbase, -⟩ := hpool.isSome_lookup_iff.mp (Option.isSome_iff_exists.mpr ⟨b, hb⟩)
  simp only [dispose, hpool.findGroup_eq hk hbase, hb, Option.bind_eq_bind, Option.bind_some] at hc
  obtain ⟨s₁, hs₁, hc⟩ := Option.bind_eq_some_iff.mp hc
  cases hc
  obtain ⟨s₂, hs₂, hs₁⟩ := Option.bind_eq_some_iff.mp hs₁
  cases hs₁
  obtain ⟨shared, rfl, hsh⟩ := leaveSource_eq hs₂
  refine ⟨shared, hsh, ?_⟩
  split_ifs <;> rfl

/-- What `dispose` does to a buffer that has no source. -/
theorem dispose_eq_of_unlocated (hc : s.dispose p = some s') (hpool : PoolOk s.mSecondaryBuffers)
    (hb : s.getBuffer p = some b) (hloc : b.mLocStatus = .none) :
    s' = { s with
      mSecondaryBuffers := Dsoal.dispose p s.mSecondaryBuffers
      m3dBuffers :=
        if b.is3D then s.m3dBuffers.filter fun e ↦ e.ptr ≠ p else s.m3dBuffers } := by
  obtain ⟨k, g, hk, hbase, -⟩ := hpool.isSome_lookup_iff.mp (Option.isSome_iff_exists.mpr ⟨b, hb⟩)
  simp only [dispose, hpool.findGroup_eq hk hbase, hb, Option.bind_eq_bind, Option.bind_some,
    destroyBuffer, leaveSource, hloc] at hc
  cases hc
  split_ifs <;> rfl

/-- **The last `Release` of a buffer** destroys it, and leaves no trace of it in the list
of 3D buffers. -/
theorem Ok.dispose (h : s.Ok) (hb : s.getBuffer p = some b) (hc : s.dispose p = some s') :
    s.Removed p s' := by
  obtain ⟨shared, hsh, rfl⟩ := dispose_eq h.pool hb hc
  have hlive : (lookup p s.mSecondaryBuffers).isSome := Option.isSome_iff_exists.mpr ⟨b, hb⟩
  have hlook := h.pool.lookup_dispose hlive
  have hof : ∀ q b', lookup q (Dsoal.dispose p s.mSecondaryBuffers) = some b' →
      q ≠ p ∧ s.getBuffer q = some b' := by
    intro q b' hq
    rw [hlook] at hq
    split_ifs at hq with hqp
    exact ⟨hqp, hq⟩
  -- the registered buffers are those that were registered, without `p`
  have hmem : ∀ e, e ∈ (if b.is3D then s.m3dBuffers.filter fun e ↦ e.ptr ≠ p else s.m3dBuffers) ↔
      e ∈ s.m3dBuffers ∧ e.ptr ≠ p := by
    intro e
    split_ifs with h3
    · simp
    · refine ⟨fun he ↦ ⟨he, ?_⟩, fun he ↦ he.1⟩
      rintro rfl
      obtain ⟨b₁, hb₁, -, h3'⟩ := h.live e he
      obtain rfl : b = b₁ := Option.some.inj (hb.symm.trans hb₁)
      exact h3 h3'
  exact {
    ok := {
      pool := h.pool.dispose hlive
      live := by
        intro e he
        obtain ⟨hes, hne⟩ := (hmem e).mp he
        obtain ⟨b₁, hb₁, hborn, h3⟩ := h.live e hes
        refine ⟨b₁, ?_, hborn, h3⟩
        show lookup e.ptr _ = _
        rw [hlook, if_neg hne]
        exact hb₁
      listed := by
        intro q b' hq h3
        obtain ⟨hqp, hq⟩ := hof q b' hq
        obtain ⟨e, he, rfl⟩ := List.mem_map.mp (h.listed q b' hq h3)
        exact List.mem_map.mpr ⟨e, (hmem e).mpr ⟨he, hqp⟩, rfl⟩
      nodup := by
        refine h.nodup.sublist (List.Sublist.map _ ?_)
        dsimp only
        split_ifs
        · exact List.filter_sublist
        · exact .refl _
      buffers := fun q b' hq ↦ h.buffers q b' (hof q b' hq).2
      writeEmu := by
        show ∀ b, s.mPrimaryBuffer.mWriteEmu = some b → _ ∧ _ ∧ shared.isSome
        rw [hsh]
        exact h.writeEmu
      shared := fun q b' hq ↦ hsh ▸ h.shared q b' (hof q b' hq).2
      nodupNotify := h.nodupNotify }
    gone := (hlook p).trans (if_pos rfl)
    others := fun q hq ↦ (hlook q).trans (if_neg hq)
    level := rfl
    notify := rfl }

/-! ## Creation -/

/-- The initialization of the constructed buffer `b` has what it needs: storage, and a
source unless that is deferred. -/
def Initializes (s : DSound8OAL) (b : Buffer) (desc : Option BufferDesc) (memory : Bool) : Prop :=
  ∃ b' sb dev, b.attach s.mExtensions desc memory = .ok b' ∧ b'.mBuffer = some sb ∧
    s.mShared = some dev ∧ (hasFlag sb.mFlags Caps.locDefer ∨
      (dev.acquire (Buffer.describedLocation sb.mFlags)).isSome)

omit [Abi] in
/-- Initializing the location of a buffer that has none succeeds if there is a source for
it, or if that is deferred; otherwise the pools are as they were. -/
theorem initLocation_cases {parent : Parent} {sb : SharedBuffer} (hsb : b.mBuffer = some sb)
    (hloc : b.mLocStatus = .none) {dev' : DeviceSources}
    (hc : b.initLocation parent dev = some (hr, b', dev')) :
    hr = .ok ∧ (hasFlag sb.mFlags Caps.locDefer ∨
        (dev.acquire (Buffer.describedLocation sb.mFlags)).isSome) ∨
      hr ≠ .ok ∧ ¬ (hasFlag sb.mFlags Caps.locDefer ∨
        (dev.acquire (Buffer.describedLocation sb.mFlags)).isSome) ∧
        dev' = dev ∧ b' = { b with mIsInitialized := false } := by
  obtain ⟨sb', hsb', hc⟩ := Option.bind_eq_some_iff.mp hc
  obtain rfl : sb = sb' := Option.some.inj (hsb.symm.trans hsb')
  dsimp only at hc
  split at hc
  · rename_i hd
    cases hc
    exact .inl ⟨rfl, .inl hd⟩
  · rename_i hd
    obtain ⟨⟨hr₁, b₁, dev₁⟩, hset, hc⟩ := Option.bind_eq_some_iff.mp hc
    cases hc
    have hleave : b.leaveLocation dev = (b, dev) := by simp [Buffer.leaveLocation, hloc]
    simp only [Buffer.setLocation, hloc, hleave] at hset
    rw [if_neg (by rintro ⟨hw, hn⟩; exact hw hn.symm), if_neg (by simp)] at hset
    cases ha : dev.acquire (Buffer.describedLocation sb.mFlags) with
    | none =>
        rw [ha] at hset
        cases hset
        exact .inr ⟨nofun, by simp [hd], rfl, rfl⟩
    | some kd =>
        rw [ha] at hset
        obtain ⟨sb₁, -, hset⟩ := Option.bind_eq_some_iff.mp hset
        cases hset
        exact .inl ⟨rfl, .inr rfl⟩

/-- What `createSecondaryBuffer` does. -/
theorem construct_eq (h : PoolOk s.mSecondaryBuffers)
    (hfresh : ∀ base, mem.group = some base → FreshBase base s.mSecondaryBuffers)
    (hc : s.construct b mem = some (p, s')) : ∃ gs,
      s' = { s with mSecondaryBuffers := gs, nextBorn := s.nextBorn + 1 } ∧ PoolOk gs ∧
      s.getBuffer p = none ∧ ∀ q, lookup q gs = if q = p then some b else s.getBuffer q := by
  obtain ⟨⟨p', gs⟩, hcreate, hc⟩ := Option.bind_eq_some_iff.mp hc
  cases hc
  obtain ⟨hfree, hlook⟩ := h.lookup_createSecondaryBuffer hfresh hcreate
  exact ⟨gs, rfl, h.createSecondaryBuffer hfresh hcreate, hfree, hlook⟩

/-- The 3D buffers do not include a free slot. -/
theorem Linked.ptr_ne (h : s.Linked) (hfree : s.getBuffer p = none) {e : Registered}
    (he : e ∈ s.m3dBuffers) : e.ptr ≠ p := by
  rintro rfl
  obtain ⟨b, hb, -⟩ := h.live e he
  rw [hfree] at hb
  cases hb

omit [Abi] in
/-- The registration of a 3D buffer in `Buffer::Initialize`. -/
theorem register_eq (t : DSound8OAL) (p : Ptr) (b : Buffer) :
    (if b.is3D then t.add3dBuffer p b else t) = { t with
      m3dBuffers := if b.is3D then t.m3dBuffers ++ [⟨p, b.born⟩] else t.m3dBuffers } := by
  split_ifs <;> rfl

/-- A buffer that has been created and initialized in a slot that was free. -/
theorem Ok.created (h : s.Ok) {t : DSound8OAL} (hpool : PoolOk t.mSecondaryBuffers)
    (hfree : s.getBuffer p = none) (hb : t.getBuffer p = some b)
    (hothers : ∀ q, q ≠ p → t.getBuffer q = s.getBuffer q) (hok : b.Ok s.mExtensions s.rolloff)
    (hinit : b.mIsInitialized) (hborn : b.born < t.nextBorn) (hlost : b.mBufferLost = false)
    (h3d : t.m3dBuffers =
      if b.is3D then s.m3dBuffers ++ [⟨p, b.born⟩] else s.m3dBuffers)
    (hemu : t.mPrimaryBuffer = s.mPrimaryBuffer) (hexts : t.mExtensions = s.mExtensions)
    (hlevel : t.mPrioLevel = s.mPrioLevel) (hnext : s.nextBorn ≤ t.nextBorn)
    (hsh : t.mShared.isSome) (hnotify : t.mNotifyBuffers = s.mNotifyBuffers) : s.Created p b t where
  ok := {
    pool := hpool
    live := by
      intro e he
      have hold : ∀ e ∈ s.m3dBuffers, ∃ b₁, t.getBuffer e.ptr = some b₁ ∧ b₁.born = e.born ∧
          b₁.is3D := by
        intro e he
        rw [hothers e.ptr (h.ptr_ne hfree he)]
        exact h.live e he
      rw [h3d] at he
      split_ifs at he with h3
      · rcases List.mem_append.mp he with he | he
        · exact hold e he
        · obtain rfl : e = ⟨p, b.born⟩ := by simpa using he
          exact ⟨b, hb, rfl, h3⟩
      · exact hold e he
    listed := by
      intro q b' hq h3
      rw [h3d]
      by_cases hqp : q = p
      · subst hqp
        obtain rfl : b = b' := Option.some.inj (hb.symm.trans hq)
        simp [h3]
      · rw [hothers q hqp] at hq
        have hmem := h.listed q b' hq h3
        split_ifs
        · rw [List.map_append]
          exact List.mem_append_left _ hmem
        · exact hmem
    nodup := by
      rw [h3d]
      split_ifs
      · rw [List.map_append, List.map_singleton]
        refine List.Nodup.append h.nodup (List.nodup_singleton p) ?_
        rw [List.disjoint_singleton]
        intro hmem
        obtain ⟨e, he, hep⟩ := List.mem_map.mp hmem
        exact h.ptr_ne hfree he hep
      · exact h.nodup
    buffers := by
      intro q b' hq
      rw [hexts, rolloff, hemu]
      by_cases hqp : q = p
      · subst hqp
        obtain rfl : b = b' := Option.some.inj (hb.symm.trans hq)
        exact ⟨hok, hinit, hborn⟩
      · rw [hothers q hqp] at hq
        obtain ⟨hok', hinit', hlt⟩ := h.buffers q b' hq
        exact ⟨hok', hinit', hlt.trans_le hnext⟩
    writeEmu := by
      intro b' hb'
      rw [hexts, rolloff, hemu]
      obtain ⟨hok', h3, -⟩ := h.writeEmu b' (hemu ▸ hb')
      exact ⟨hok', h3, hsh⟩
    shared := fun _ _ _ ↦ hsh
    nodupNotify := hnotify ▸ h.nodupNotify }
  free := hfree
  buffer := hb
  others := hothers
  lost := hlost
  level := hlevel
  notify := hnotify

/-- `Initialize` returns what the whole returns. -/
theorem initializeNew_cases {desc : Option BufferDesc} {memory : Bool}
    (hc : s.initializeNew p desc memory = some (hr, s')) : ∃ s₁,
      s.initializeBuffer p desc memory = some (hr, s₁) ∧
        (hr = .ok ∧ s' = s₁ ∨ hr ≠ .ok ∧ s₁.dispose p = some s') := by
  obtain ⟨⟨hr₁, s₁⟩, hinit, hc⟩ := Option.bind_eq_some_iff.mp hc
  dsimp only at hc
  split at hc
  · rename_i hfail
    obtain ⟨s₂, hs₂, hc⟩ := Option.bind_eq_some_iff.mp hc
    cases hc
    exact ⟨s₁, hinit, .inr ⟨by simpa using hfail, hs₂⟩⟩
  · rename_i hok
    cases hc
    exact ⟨_, hinit, .inl ⟨by simpa using hok, rfl⟩⟩

/-- **A buffer whose initialization fails** leaves the object as it was, up to an empty
group. -/
theorem initializeNew_failed (h : s.Ok)
    (hfresh : ∀ base, mem.group = some base → FreshBase base s.mSecondaryBuffers)
    (hblank : b.Blank) (hcon : s.construct b mem = some (p, s₁)) {desc : Option BufferDesc}
    {memory : Bool} (hc : s₁.initializeNew p desc memory = some (hr, s')) (hfail : hr ≠ .ok) :
    ∃ extra, s' = { s with
      mSecondaryBuffers := s.mSecondaryBuffers ++ extra, nextBorn := s.nextBorn + 1 } ∧
      PoolOk (s.mSecondaryBuffers ++ extra) ∧
      ∀ g ∈ extra, g.mFreeMask = ~~~0#64 ∧ ∀ i, g.elem i = none := by
  obtain ⟨⟨p', gs⟩, hcreate, hs₁⟩ := Option.bind_eq_some_iff.mp hcon
  cases hs₁
  obtain ⟨hfree, hlook⟩ := h.pool.lookup_createSecondaryBuffer hfresh hcreate
  have hpool := h.pool.createSecondaryBuffer hfresh hcreate
  have hb : lookup p gs = some b := (hlook p).trans (if_pos rfl)
  have hfilter : s.m3dBuffers.filter (fun e ↦ e.ptr ≠ p) = s.m3dBuffers :=
    List.filter_eq_self.mpr fun e he ↦ by simpa using h.ptr_ne hfree he
  obtain ⟨s₂, hinit, ⟨hok, -⟩ | ⟨-, hs'⟩⟩ := initializeNew_cases hc
  · exact absurd hok hfail
  obtain ⟨b₀, hb₀, hinit⟩ := Option.bind_eq_some_iff.mp hinit
  obtain rfl : b = b₀ := Option.some.inj (hb.symm.trans hb₀)
  cases ha : b.attach s.mExtensions desc memory with
  | error hr₁ =>
      -- the buffer has not been registered
      simp only [ha] at hinit
      cases hinit
      obtain ⟨extra, hgs, hextra⟩ := h.pool.dispose_createSecondaryBuffer hfresh hcreate id
      rw [PoolOk.modify_id] at hgs
      refine ⟨extra, ?_, hextra⟩
      have heq := dispose_eq_of_unlocated hs' hpool hb hblank.location
      rw [heq]
      simp only [hgs, hfilter, ite_self]
  | ok b₁ =>
      simp only [ha, register_eq] at hinit
      obtain ⟨dev, hdev, hinit⟩ := Option.bind_eq_some_iff.mp hinit
      obtain ⟨⟨hr₂, b₂, dev'⟩, hloc, hinit⟩ := Option.bind_eq_some_iff.mp hinit
      cases hinit
      obtain ⟨hok₁, hloc₁, -⟩ : b₁.Ok s.mExtensions s.rolloff ∧ _ := hblank.attach ha
      obtain ⟨sb, hsb, -⟩ := hok₁.storage
      obtain ⟨hok, -⟩ | ⟨-, -, rfl, rfl⟩ := initLocation_cases hsb hloc₁ hloc
      · exact absurd hok hfail
      have hset : lookup p (modify p (fun _ ↦ { b₁ with mIsInitialized := false }) gs) =
          some { b₁ with mIsInitialized := false } := by
        rw [hpool.lookup_modify, if_pos rfl, hb]
        rfl
      obtain ⟨extra, hgs, hextra⟩ := h.pool.dispose_createSecondaryBuffer hfresh hcreate
        fun _ ↦ { b₁ with mIsInitialized := false }
      refine ⟨extra, ?_, hextra⟩
      have heq := dispose_eq_of_unlocated hs' (hpool.modify p _) hset hloc₁
      have h3 : Buffer.is3D { b₁ with mIsInitialized := false } = b₁.is3D := rfl
      rw [heq]
      simp only [setBuffer, hgs, h3, hdev]
      split_ifs
      · rw [List.filter_append, hfilter]
        simp
      · rfl

/-- Empty groups keep all buffers. -/
theorem Ok.appendGroups (h : s.Ok) {extra : List (BufferSubList Buffer)}
    (hpool : PoolOk (s.mSecondaryBuffers ++ extra)) (hextra : ∀ g ∈ extra, ∀ i, g.elem i = none) :
    s.Keeps { s with
      mSecondaryBuffers := s.mSecondaryBuffers ++ extra, nextBorn := s.nextBorn + 1 } := by
  refine h.of_rel hpool (fun q ↦ ?_) h.writeEmu rfl rfl rfl (Nat.le_succ _) rfl (.refl _)
  change Option.Rel (Buffer.Keeps s.mExtensions s.rolloff s.mPrioLevel) _ (lookup q _)
  rw [PoolOk.lookup_append_of_empty hextra]
  exact h.rel_refl q

/-- **Creating a buffer** either succeeds or leaves nothing of the buffer. -/
theorem Ok.initializeNew (h : s.Ok)
    (hfresh : ∀ base, mem.group = some base → FreshBase base s.mSecondaryBuffers)
    (hblank : b.Blank) (hborn : b.born = s.nextBorn) (hcon : s.construct b mem = some (p, s₁))
    {desc : Option BufferDesc} {memory : Bool}
    (hc : s₁.initializeNew p desc memory = some (hr, s')) :
    (s.Initializes b desc memory ∧ ∃ b', s.Created p b' s') ∨
      (¬ s.Initializes b desc memory ∧ s.Keeps s') := by
  have hkeeps : hr ≠ .ok → s.Keeps s' := by
    intro hfail
    obtain ⟨extra, rfl, hpool, hextra⟩ := initializeNew_failed h hfresh hblank hcon hc hfail
    exact h.appendGroups hpool fun g hg ↦ (hextra g hg).2
  obtain ⟨gs, rfl, hpool, hfree, hlook⟩ := construct_eq h.pool hfresh hcon
  have hb : lookup p gs = some b := (hlook p).trans (if_pos rfl)
  obtain ⟨s₂, hinit, hs'⟩ := initializeNew_cases hc
  obtain ⟨b₀, hb₀, hinit⟩ := Option.bind_eq_some_iff.mp hinit
  obtain rfl : b = b₀ := Option.some.inj (hb.symm.trans hb₀)
  cases ha : b.attach s.mExtensions desc memory with
  | error hr₁ =>
      simp only [ha] at hinit
      cases hinit
      refine .inr ⟨?_, hkeeps (Buffer.attach_error ha)⟩
      rintro ⟨b', sb, dev, ha', -⟩
      rw [ha] at ha'
      cases ha'
  | ok b₁ =>
      simp only [ha, register_eq] at hinit
      obtain ⟨dev, hdev, hinit⟩ := Option.bind_eq_some_iff.mp hinit
      obtain ⟨⟨hr₃, b₂, dev'⟩, hinitLoc, hinit⟩ := Option.bind_eq_some_iff.mp hinit
      cases hinit
      obtain ⟨hok₁, hloc₁, hlost₁, hborn₁⟩ : b₁.Ok s.mExtensions s.rolloff ∧ _ :=
        hblank.attach ha
      obtain ⟨sb, hsb, -⟩ := hok₁.storage
      obtain ⟨rfl, havail⟩ | ⟨hfail, hnot, -⟩ := initLocation_cases hsb hloc₁ hinitLoc
      · obtain ⟨-, rfl⟩ | ⟨hfail, -⟩ := hs'
        swap
        · exact absurd rfl hfail
        obtain ⟨hok₂, hborn₂, hstorage₂, hlost₂, hinit₂, -⟩ := hok₁.initLocation hloc₁ hinitLoc
        have h3 : b₂.is3D = b₁.is3D := by simp only [Buffer.is3D, Buffer.hasCaps, hstorage₂]
        have hlook₂ : ∀ q, lookup q (modify p (fun _ ↦ b₂) gs) =
            if q = p then some b₂ else s.getBuffer q := by
          intro q
          rw [hpool.lookup_modify, hb]
          split_ifs with hq
          · rfl
          · exact (hlook q).trans (if_neg hq)
        refine .inl ⟨⟨b₁, sb, dev, ha, hsb, hdev, havail⟩, b₂, ?_⟩
        refine h.created (hpool.modify p _) hfree ((hlook₂ p).trans (if_pos rfl))
          (fun q hq ↦ (hlook₂ q).trans (if_neg hq)) hok₂ ?_ ?_ (hlost₂.trans hlost₁) ?_
          rfl rfl rfl (Nat.le_succ _) rfl rfl
        · rw [hinit₂]
          rfl
        · show b₂.born < s.nextBorn + 1
          rw [hborn₂, hborn₁, hborn]
          exact Nat.lt_succ_self _
        · rw [h3, hborn₂]
          rfl
      · refine .inr ⟨?_, hkeeps hfail⟩
        rintro ⟨b', sb', dev₁, ha', hsb', hdev', havail⟩
        obtain rfl : b₁ = b' := Except.ok.inj (ha.symm.trans ha')
        obtain rfl : sb = sb' := Option.some.inj (hsb.symm.trans hsb')
        obtain rfl : dev = dev₁ := Option.some.inj (hdev.symm.trans hdev')
        exact hnot havail

end DSound8OAL

end Dsoal
