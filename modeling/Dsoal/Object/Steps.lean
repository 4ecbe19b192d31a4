import Dsoal.Object.Lifetime

/-!
# The steps of an object

What each step of the transition system does: it keeps all buffers, creates one,
removes one, changes the cooperative level, or initializes the object
(`DSoundStep.outcome`).  `ok_of_reachable` is the run lemma: every reachable state
satisfies the invariant.

`Creates` says for which states and calls a buffer is created, in terms of the
checks the calls make.
-/

namespace Dsoal

open TransitionSystem

namespace DSound8OAL

variable [Abi] {s s' s₁ : DSound8OAL} {p q : Ptr} {b b' : Buffer} {hr : HResult}
  {mem : Memory}

/-! ## Calls that create a buffer -/

/-- There is room for another buffer: a free slot, or memory for a new group. -/
def HasSlot (s : DSound8OAL) (mem : Memory) : Prop :=
  (∃ g ∈ s.mSecondaryBuffers, g.mFreeMask ≠ 0#64) ∨ mem.group.isSome

/-- The calls that create a secondary buffer: their arguments are accepted, there is
room for the buffer, and its initialization has what it needs. -/
def Creates (s : DSound8OAL) : Op → Prop
  | .createSoundBuffer (some desc) true false mem =>
    sizeofBufferDesc1 ≤ desc.dwSize ∧ ¬ hasFlag desc.dwFlags Caps.primaryBuffer ∧
    ¬ (hasFlag desc.dwFlags Caps.ctrl3D ∧ hasFlag desc.dwFlags Caps.ctrlPan ∧ s.mIs8) ∧
    s.HasSlot mem ∧ s.Initializes (.fresh s.nextBorn s.mIs8) (some desc) mem.samples
  | .duplicateSoundBuffer (some p) true mem => ∃ orig sb b, s.getBuffer p = some orig ∧
    orig.mBuffer = some sb ∧ ¬ hasFlag sb.mFlags Caps.primaryBuffer ∧
    ¬ hasFlag sb.mFlags Caps.ctrlFX ∧ Buffer.duplicate s.nextBorn s.mIs8 orig = some b ∧
    s.HasSlot mem ∧ s.Initializes b none mem.samples
  | _ => False

omit [Abi] in
theorem Initializes.shared {desc : Option BufferDesc} {memory : Bool}
    (h : s.Initializes b desc memory) : s.mShared.isNone = false := by
  obtain ⟨_, _, dev, _, _, hdev, _⟩ := h
  simp [hdev]

/-- The constructor of a buffer is run exactly if there is room for it. -/
theorem Ok.isSome_construct (h : s.Ok)
    (hfresh : ∀ base, mem.group = some base → FreshBase base s.mSecondaryBuffers) (b : Buffer) :
    (s.construct b mem).isSome ↔ s.HasSlot mem := by
  rw [HasSlot, ← h.pool.isSome_createSecondaryBuffer b hfresh mem.grow]
  unfold construct
  cases Dsoal.createSecondaryBuffer b mem.group mem.grow s.mSecondaryBuffers <;> simp

/-- The part of `CreateSoundBuffer` that returns the primary buffer. -/
theorem Ok.createPrimary {desc : BufferDesc} (h : s.Ok)
    (hc : s.createPrimary desc mem = some (hr, s')) : s.Keeps s' := by
  have hadd : s.Keeps { s with mPrimaryBuffer := s.mPrimaryBuffer.addRef.2 } :=
    h.keeps_listener _ s.alListener rfl rfl
  obtain ⟨s₁, -, hinit, hs'⟩ | ⟨-, -, rfl⟩ := createPrimary_cases hc
  · have hk := hadd.ok.primaryInitialize hinit
    obtain ⟨-, rfl⟩ | ⟨-, rfl⟩ := hs'
    · refine hadd.trans (hk.trans (hk.ok.keeps_listener _ s₁.alListener ?_ ?_))
      all_goals
        unfold PrimaryBuffer.release
        split_ifs <;> rfl
    · exact hadd.trans hk
  · exact hadd

/-- **`CreateSoundBuffer`.** -/
theorem Ok.createSoundBuffer {bufferDesc : Option BufferDesc} {dsBuffer outer : Bool} (h : s.Ok)
    (hfresh : ∀ base, mem.group = some base → FreshBase base s.mSecondaryBuffers)
    (hc : s.createSoundBuffer bufferDesc dsBuffer outer mem = some (hr, s')) :
    (s.Creates (.createSoundBuffer bufferDesc dsBuffer outer mem) ∧ ∃ p b, s.Created p b s') ∨
      (¬ s.Creates (.createSoundBuffer bufferDesc dsBuffer outer mem) ∧ s.Keeps s') := by
  have haccepts : ∀ {desc}, s.Creates (.createSoundBuffer (some desc) dsBuffer outer mem) →
      s.Accepts (some desc) dsBuffer outer desc := by
    intro desc hcr
    cases dsBuffer <;> cases outer <;>
      first
      | exact hcr.elim
      | exact ⟨rfl, rfl, rfl, UInt32.not_lt.mpr hcr.1, hcr.2.2.2.2.shared⟩
  obtain ⟨rfl, -, hreject⟩ | ⟨desc, ⟨rfl, rfl, rfl, hsize, -⟩, ⟨hprim, hc⟩ |
    ⟨hprim, hpan, p, s₁, hcon, hc⟩⟩ := createSoundBuffer_cases hc
  · refine .inr ⟨fun hcr ↦ ?_, h.refl⟩
    cases bufferDesc with
    | none => exact hcr
    | some desc =>
        have hacc := haccepts hcr
        obtain ⟨-, hpan⟩ := hreject desc hacc
        obtain ⟨-, rfl, rfl, -, -⟩ := hacc
        exact hcr.2.2.1 hpan
  · exact .inr ⟨fun hcr ↦ hcr.2.1 hprim, h.createPrimary hc⟩
  · have hslot : s.HasSlot mem := by
      rw [← h.isSome_construct hfresh, hcon]
      rfl
    rcases h.initializeNew hfresh (Buffer.blank_fresh _ _) rfl hcon hc with
      ⟨hinit, b, hb⟩ | ⟨hinit, hk⟩
    · exact .inl ⟨⟨UInt32.not_lt.mp hsize, hprim, hpan, hslot, hinit⟩, p, b, hb⟩
    · exact .inr ⟨fun hcr ↦ hinit hcr.2.2.2.2, hk⟩

omit [Abi] in
/-- There is at most one copy. -/
theorem Duplicates.unique {original : Option Ptr} {duplicate : Bool}
    (h : s.Duplicates original duplicate b) (h' : s.Duplicates original duplicate b') :
    b = b' := by
  obtain ⟨p, orig, sb, rfl, horig, -, -, -, hdup⟩ := h.original
  obtain ⟨p', orig', sb', hp, horig', -, -, -, hdup'⟩ := h'.original
  cases hp
  obtain rfl : orig = orig' := Option.some.inj (horig.symm.trans horig')
  exact Option.some.inj (hdup.symm.trans hdup')

omit [Abi] in
theorem creates_duplicate_iff {original : Option Ptr} {duplicate : Bool} :
    s.Creates (.duplicateSoundBuffer original duplicate mem) ↔
      ∃ b, s.Duplicates original duplicate b ∧ s.HasSlot mem ∧
        s.Initializes b none mem.samples := by
  constructor
  · intro h
    rcases original with _ | p <;> rcases duplicate with _ | _
    all_goals try exact h.elim
    obtain ⟨orig, sb, b, horig, hsb, hprim, hfx, hdup, hslot, hinit⟩ := h
    exact ⟨b, ⟨hinit.shared, rfl, p, orig, sb, rfl, horig, hsb, hprim, hfx, hdup⟩, hslot, hinit⟩
  · rintro ⟨b, ⟨-, rfl, p, orig, sb, rfl, horig, hsb, hprim, hfx, hdup⟩, hslot, hinit⟩
    exact ⟨orig, sb, b, horig, hsb, hprim, hfx, hdup, hslot, hinit⟩

/-- **`DuplicateSoundBuffer`.** -/
theorem Ok.duplicateSoundBuffer {original : Option Ptr} {duplicate : Bool} (h : s.Ok)
    (hfresh : ∀ base, mem.group = some base → FreshBase base s.mSecondaryBuffers)
    (hc : s.duplicateSoundBuffer original duplicate mem = some (hr, s')) :
    (s.Creates (.duplicateSoundBuffer original duplicate mem) ∧ ∃ p b, s.Created p b s') ∨
      (¬ s.Creates (.duplicateSoundBuffer original duplicate mem) ∧ s.Keeps s') := by
  obtain ⟨rfl, -, hnone⟩ | ⟨b, p, s₁, hdups, hcon, hc⟩ := duplicateSoundBuffer_cases hc
  · refine .inr ⟨fun hcr ↦ ?_, h.refl⟩
    obtain ⟨b, hdups, hslot, -⟩ := creates_duplicate_iff.mp hcr
    rw [← h.isSome_construct hfresh b, hnone b hdups] at hslot
    cases hslot
  · have hslot : s.HasSlot mem := by
      rw [← h.isSome_construct hfresh b, hcon]
      rfl
    obtain ⟨q, orig, sb, -, horig, -, -, -, hdup⟩ := hdups.original
    obtain ⟨hblank, hborn⟩ := (h.buffers q orig horig).1.blank_duplicate hdup
    rcases h.initializeNew hfresh hblank hborn hcon hc with ⟨hinit, b', hb'⟩ | ⟨hinit, hk⟩
    · exact .inl ⟨creates_duplicate_iff.mpr ⟨b, hdups, hslot, hinit⟩, p, b', hb'⟩
    · refine .inr ⟨fun hcr ↦ ?_, hk⟩
      obtain ⟨b', hdups', -, hinit'⟩ := creates_duplicate_iff.mp hcr
      obtain rfl : b = b' := hdups.unique hdups'
      exact hinit hinit'

/-! ## The cooperative level -/

omit [Abi] in
/-- The status of a buffer that is neither lost nor playing does not say that it plays. -/
theorem isPlaying_of_getStatus {status : UInt32} (hc : b.getStatus = some status)
    (hp : hasFlag status Status.playing = false) (hl : b.mBufferLost = false) :
    isPlaying b.mSource = false := by
  unfold Buffer.getStatus at hc
  rw [hl, if_neg (by decide)] at hc
  obtain ⟨sb, -, hc⟩ := Option.bind_eq_some_iff.mp hc
  cases hc
  rw [← Bool.not_eq_true]
  intro hplay
  rw [if_pos hplay] at hp
  revert hp
  split_ifs <;> rcases b.mLocStatus with _ | _ | _ <;> decide

/-- **The walk that loses the buffers** keeps them, and loses all it has passed. -/
theorem Ok.loseBuffers (h : s.Ok) {ps : List Ptr} (hc : loseBuffers ps s = some (hr, s')) :
    s.Keeps s' ∧ (hr = .ok → ∀ q b', s'.getBuffer q = some b' →
      q ∈ ps ∨ (∃ b, s.getBuffer q = some b ∧ b.mBufferLost) → b'.mBufferLost) := by
  induction ps generalizing s with
  | nil =>
      cases hc
      refine ⟨h.refl, fun _ q b' hb' hq ↦ ?_⟩
      obtain ⟨b, hb, hl⟩ := hq.resolve_left (List.not_mem_nil)
      obtain rfl : b = b' := Option.some.inj (hb.symm.trans hb')
      exact hl
  | cons p ps ih =>
      obtain ⟨b, hb, hc⟩ := Option.bind_eq_some_iff.mp hc
      obtain ⟨status, hst, hc⟩ := Option.bind_eq_some_iff.mp hc
      split at hc
      · cases hc
        exact ⟨h.refl, nofun⟩
      · rename_i hp
        obtain ⟨hok, -⟩ := h.buffers p b hb
        have hplay : isPlaying b.mSource = false := by
          cases hl : b.mBufferLost with
          | true => exact hok.lost hl
          | false => exact isPlaying_of_getStatus hst (by simpa using hp) hl
        have hkeep : b.Keeps s.mExtensions s.rolloff s.mPrioLevel { b with mBufferLost := true } :=
          ⟨hok.congr rfl rfl rfl rfl rfl hok.deferredCones rfl (fun _ ↦ hplay) rfl, rfl, rfl, rfl,
            fun _ _ ↦ rfl⟩
        have hk := h.setBuffer hb hkeep
        obtain ⟨hk', hlost⟩ := ih hk.ok hc
        refine ⟨hk.trans hk', fun hr q b' hb' hq ↦ hlost hr q b' hb' ?_⟩
        rw [getBuffer_setBuffer h.pool hb]
        by_cases hqp : q = p
        · exact .inr ⟨_, if_pos hqp, rfl⟩
        · rw [if_neg hqp]
          refine hq.imp_left fun hmem ↦ ?_
          exact (List.mem_cons.mp hmem).resolve_left hqp

/-- Entering `DSSCL_WRITEPRIMARY` loses every secondary buffer. -/
theorem Ok.enterWritePrimary (h : s.Ok) (hc : s.enterWritePrimary mem = some (hr, s')) :
    s.Keeps s' ∧ (hr = .ok → ∀ p b, s'.getBuffer p = some b → b.mBufferLost) := by
  obtain ⟨s₁, hs₁, hc⟩ := Option.bind_eq_some_iff.mp hc
  obtain ⟨⟨hr₂, s₂⟩, hs₂, hc⟩ := Option.bind_eq_some_iff.mp hc
  obtain ⟨hk₁, hgs₁, -⟩ := h.destroyWriteEmu hs₁
  obtain ⟨hk₂, hlost⟩ := hk₁.ok.loseBuffers hs₂
  have hall : hr₂ = .ok → ∀ p b, s₂.getBuffer p = some b → b.mBufferLost := by
    intro hok p b hb
    refine hlost hok p b hb (.inl ?_)
    obtain ⟨b₁, hb₁, -⟩ := hk₂.buffer_of hb
    rw [hk₁.ok.pool.mem_livePtrs]
    exact Option.isSome_iff_exists.mpr ⟨b₁, hb₁⟩
  dsimp only at hc
  split at hc
  · rename_i hf
    cases hc
    exact ⟨hk₁.trans hk₂, fun hok ↦ absurd hok (by simpa using hf)⟩
  rename_i hf
  split at hc
  · obtain ⟨hk₃, hgs₃⟩ := hk₂.ok.createWriteEmu hc
    refine ⟨hk₁.trans (hk₂.trans hk₃), fun _ p b hb ↦ hall (by simpa using hf) p b ?_⟩
    rw [getBuffer, ← hgs₃]
    exact hb
  · cases hc
    exact ⟨hk₁.trans hk₂, hall⟩

/-- A step that changes the level, after changes that keep all buffers; when it enters
`DSSCL_WRITEPRIMARY`, all buffers are lost. -/
structure Levels (s : DSound8OAL) (level : UInt32) (s' : DSound8OAL) : Prop where
  keeps : ∃ s₁, s.Keeps s₁ ∧ s' = { s₁ with mPrioLevel := level }
  lost : level = Level.writePrimary → s.mPrioLevel ≠ Level.writePrimary →
    ∀ p b, s'.getBuffer p = some b → b.mBufferLost

/-- **`SetCooperativeLevel`.** -/
theorem Ok.setCooperativeLevel {level : UInt32} (h : s.Ok)
    (hc : s.setCooperativeLevel level mem = some (hr, s')) : s.Keeps s' ∨ s.Levels level s' := by
  obtain ⟨rfl, -⟩ | ⟨s₁, rfl, -, -, hs₁⟩ := setCooperativeLevel_cases hc
  · exact .inl h.refl
  have hstored : s.Keeps s₁ ∧ (hr = .ok → level = Level.writePrimary →
      s.mPrioLevel ≠ Level.writePrimary → ∀ p b, s₁.getBuffer p = some b → b.mBufferLost) := by
    obtain ⟨-, henter⟩ | ⟨⟨hlt, -⟩, -, hdestroy⟩ | ⟨hsame, -, rfl⟩ := hs₁
    · obtain ⟨hk, hlost⟩ := h.enterWritePrimary henter
      exact ⟨hk, fun hok _ _ ↦ hlost hok⟩
    · refine ⟨(h.destroyWriteEmu hdestroy).1, fun _ hl _ ↦ ?_⟩
      rw [hl] at hlt
      exact absurd hlt (UInt32.lt_irrefl _)
    · exact ⟨h.refl, fun _ hl hne ↦ absurd (hsame.mp hl) hne⟩
  split_ifs with hs
  · exact .inr ⟨⟨s₁, hstored.1, rfl⟩, hstored.2 (by simpa using hs)⟩
  · exact .inl hstored.1

/-! ## The other steps -/

/-- A step that initializes the object, which has no buffers then. -/
structure Initialized (s s' : DSound8OAL) : Prop where
  ok : s'.Ok
  empty : ∀ p, s'.getBuffer p = none
  buffers : ∀ p, s'.getBuffer p = s.getBuffer p
  level : s'.mPrioLevel = s.mPrioLevel
  notify : s'.mNotifyBuffers = s.mNotifyBuffers

/-- **`DSound8OAL::Initialize`.** -/
theorem Ok.initializeObject {shared : Except HResult (DeviceSources × Extensions)}
    {allocs : List (Option ℕ × Bool)} (h : s.Ok)
    (hlegal : (Op.initializeObject shared allocs).Legal s) :
    s.Keeps (s.initializeObject shared allocs).2 ∨
      s.Initialized (s.initializeObject shared allocs).2 := by
  unfold DSound8OAL.initializeObject
  by_cases hsh : s.mShared.isSome
  · rw [if_pos hsh]
    exact .inl h.refl
  rw [if_neg hsh]
  rcases shared with hr | ⟨dev, exts⟩
  · exact .inl h.refl
  right
  have hnone : ∀ p, s.getBuffer p = none := by
    intro p
    cases hb : s.getBuffer p with
    | none => rfl
    | some b => exact absurd (h.shared p b hb) hsh
  have hget : ∀ p, lookup p (preallocate allocs s.mSecondaryBuffers) = s.getBuffer p :=
    lookup_preallocate allocs s.mSecondaryBuffers
  have hno : ∀ p b, lookup p (preallocate allocs s.mSecondaryBuffers) ≠ some b := by
    intro p b hb
    rw [hget, hnone] at hb
    cases hb
  have hlist : s.m3dBuffers = [] := by
    refine List.eq_nil_iff_forall_not_mem.mpr fun e he ↦ ?_
    obtain ⟨b, hb, -⟩ := h.live e he
    rw [hnone] at hb
    cases hb
  exact {
    ok := {
      pool := h.pool.preallocate hlegal.2
      live := by
        intro e he
        change e ∈ s.m3dBuffers at he
        rw [hlist] at he
        cases he
      listed := fun p b hb ↦ absurd hb (hno p b)
      nodup := h.nodup
      buffers := fun p b hb ↦ absurd hb (hno p b)
      writeEmu := fun b hb ↦ absurd (h.writeEmu b hb).2.2 hsh
      shared := fun _ _ _ ↦ rfl
      nodupNotify := h.nodupNotify }
    empty := fun p ↦ (hget p).trans (hnone p)
    buffers := hget
    level := rfl
    notify := rfl }

/-- `Buffer::Initialize` does nothing to a buffer that is initialized. -/
theorem Ok.initializeBuffer {desc : Option BufferDesc} {memory : Bool} (h : s.Ok)
    (hc : s.initializeBuffer p desc memory = some (hr, s')) : s.Keeps s' := by
  obtain ⟨b, hb, hc⟩ := Option.bind_eq_some_iff.mp hc
  have ha : b.attach s.mExtensions desc memory = .error .alreadyInitialized :=
    if_pos (h.buffers p b hb).2.1
  simp only [ha] at hc
  cases hc
  exact h.refl

theorem Ok.mix {source : Option Ptr} {offset : UInt32} {ended : Bool} (h : s.Ok)
    (hc : s.mix source offset ended = some s') : s.Keeps s' := by
  cases source with
  | none =>
      obtain ⟨emu, hemu, hc⟩ := Option.bind_eq_some_iff.mp hc
      cases hc
      obtain ⟨hok, hpers⟩ := (h.writeEmu emu hemu).1.mix (l := 0) offset ended
      exact h.setWriteEmu hemu hok hpers.is3D _ rfl rfl
  | some p =>
      obtain ⟨b, hb, hc⟩ := Option.bind_eq_some_iff.mp hc
      cases hc
      exact h.setBuffer hb ((h.buffers p b hb).1.mix offset ended)

theorem Ok.otherSources (h : s.Ok) (current : Pool → UInt32) : s.Keeps (s.otherSources current) :=
  h.frame _ rfl rfl h.writeEmu rfl rfl rfl le_rfl (by simp [DSound8OAL.otherSources]) (.refl _)

/-- What a step can do. -/
inductive Outcome (s : DSound8OAL) (op : Op) (s' : DSound8OAL) : Prop
  | keeps (h : s.Keeps s') (hop : ¬ s.Creates op)
  | created (p : Ptr) (b : Buffer) (h : s.Created p b s') (hop : s.Creates op)
  | removed (p : Ptr) (h : s.Removed p s') (hop : op = .release p)
  | levels (level : UInt32) (h : s.Levels level s') (hop : ¬ s.Creates op)
  | initialized (h : s.Initialized s') (hop : ¬ s.Creates op)

end DSound8OAL

open DSound8OAL

variable [Abi] {s s' : DSound8OAL} {op : Op}

/-- **What a step does.** -/
theorem DSoundStep.outcome (h : s.Ok) (hs : DSoundStep s op s') : s.Outcome op s' := by
  obtain ⟨hlegal, hr, hc⟩ := hs
  cases op with
  | initializeObject shared allocs =>
      rcases h.initializeObject hlegal with hk | hi
      all_goals
        rw [show s.initializeObject shared allocs = (hr, s') from Option.some.inj hc] at *
      · exact .keeps hk id
      · exact .initialized hi id
  | createSoundBuffer bufferDesc dsBuffer outer mem =>
      rcases h.createSoundBuffer hlegal hc with ⟨hop, p, b, hb⟩ | ⟨hop, hk⟩
      · exact .created p b hb hop
      · exact .keeps hk hop
  | duplicateSoundBuffer original duplicate mem =>
      rcases h.duplicateSoundBuffer hlegal hc with ⟨hop, p, b, hb⟩ | ⟨hop, hk⟩
      · exact .created p b hb hop
      · exact .keeps hk hop
  | setCooperativeLevel level mem =>
      rcases h.setCooperativeLevel hc with hk | hl
      · exact .keeps hk id
      · exact .levels level hl id
  | release p =>
      obtain ⟨b, hb, hc⟩ := Option.bind_eq_some_iff.mp hc
      obtain ⟨s₁, hs₁, hc⟩ := Option.bind_eq_some_iff.mp hc
      cases hc
      exact .removed p (h.dispose hb hs₁) rfl
  | bufferInitialize p desc mem => exact .keeps (h.initializeBuffer hc) id
  | buffer p c => exact .keeps (h.bufferCall hc) id
  | acquireResources p flags effectsCount resultCodes => exact .keeps (h.acquireResources hc) id
  | play p priority flags started => exact .keeps (h.play hc) id
  | stop p => exact .keeps (h.stop hc) id
  | setNotificationPositions p notifies => exact .keeps (h.setNotificationPositions hc) id
  | eaxSet p immediate accepted => exact .keeps (h.eaxSet hc) id
  | primary c => exact .keeps (h.primaryCall hc) id
  | listener c apply => exact .keeps (h.callListener hc) id
  | commitDeferredSettings =>
      obtain ⟨s₁, hs₁, he⟩ := Option.map_eq_some_iff.mp hc
      cases he
      obtain ⟨s₂, hs₂, hk⟩ := h.commit
      obtain rfl : s₂ = s' := Option.some.inj (hs₂.symm.trans hs₁)
      exact .keeps hk id
  | poll =>
      obtain ⟨s₁, hs₁, he⟩ := Option.map_eq_some_iff.mp hc
      cases he
      simp only [DSound8OAL.poll, Option.ite_none_right_eq_some] at hs₁
      exact .keeps (h.triggerNotifies hs₁.2) id
  | mix p offset ended =>
      obtain ⟨s₁, hs₁, he⟩ := Option.map_eq_some_iff.mp hc
      cases he
      exact .keeps (h.mix hs₁) id
  | otherSources current =>
      cases hc
      exact .keeps (h.otherSources current) id

/-- A change of the level keeps the invariant, which does not speak of it. -/
theorem DSound8OAL.Ok.setLevel (h : s.Ok) (level : UInt32) : Ok { s with mPrioLevel := level } :=
  { pool := h.pool
    live := h.live
    listed := h.listed
    nodup := h.nodup
    buffers := h.buffers
    writeEmu := h.writeEmu
    shared := h.shared
    nodupNotify := h.nodupNotify }

/-- **Step lemma**: every step keeps the invariant. -/
theorem DSoundStep.ok (h : s.Ok) (hs : DSoundStep s op s') : s'.Ok := by
  cases hs.outcome h with
  | keeps hk => exact hk.ok
  | created p b hb => exact hb.ok
  | removed p hp => exact hp.ok
  | levels level hl =>
      obtain ⟨⟨s₁, hk, rfl⟩, -⟩ := hl
      exact hk.ok.setLevel level
  | initialized hi => exact hi.ok

theorem DSound8OAL.IsNew.ok (h : s.IsNew) : s.Ok := by
  obtain ⟨is8, rfl⟩ := h
  have hnone : ∀ p, (DSound8OAL.new is8).getBuffer p = none := fun _ ↦ rfl
  have hemu : (DSound8OAL.new is8).mPrimaryBuffer.mWriteEmu = none := rfl
  exact {
    pool := PoolOk.nil
    live := fun e he ↦ absurd he List.not_mem_nil
    listed := fun p b hb ↦ by simp [hnone] at hb
    nodup := List.nodup_nil
    buffers := fun p b hb ↦ by simp [hnone] at hb
    writeEmu := fun b hb ↦ by simp [hemu] at hb
    shared := fun p b hb ↦ by simp [hnone] at hb
    nodupNotify := List.nodup_nil }

/-- **Run lemma**: the invariant holds in every reachable state. -/
theorem DSound8OAL.ok_of_reachable (h : Reachable DSoundStep DSound8OAL.IsNew s) : s.Ok :=
  h.invariant (P := DSound8OAL.Ok) (fun _ hs ↦ hs.ok) fun _ _ _ hok hs ↦ hs.ok hok

/-! ## Concrete runs

What the runs of the following files start with. -/

/-- The step of a call that has a result. -/
theorem DSoundStep.of_isSome (op : Op) (hlegal : op.Legal s) (h : (s.exec op).isSome) :
    DSoundStep s op ((s.exec op).get h).2 :=
  ⟨hlegal, ((s.exec op).get h).1, (Option.some_get h).symm⟩

/-- A device with one source in each pool. -/
def oneSource : DeviceSources where
  mMaxSources := fun _ ↦ 1
  mCurrentSources := fun _ ↦ 0

/-- A description of four 16-bit mono samples. -/
def monoDesc (flags : UInt32) : BufferDesc where
  dwSize := 36
  dwFlags := flags
  dwBufferBytes := 8
  lpwfxFormat := some {
    wFormatTag := formatPcm, nChannels := 1, nSamplesPerSec := 22050, nAvgBytesPerSec := 44100,
    nBlockAlign := 2, wBitsPerSample := 16 }

/-- `Initialize` with that device and one preallocated group. -/
def initializeOne : Op := .initializeObject (.ok (oneSource, {})) [(some 4096, false)]

/-- `CreateSoundBuffer` of such a buffer. -/
def createMono (flags : UInt32) : Op := .createSoundBuffer (some (monoDesc flags)) true false {}

omit [Abi] in
theorem initializeOne_legal (is8 : Bool) :
    letI : Abi := ⟨⟨600, by decide⟩⟩
    initializeOne.Legal (DSound8OAL.new is8) :=
  ⟨rfl, ⟨by decide, by simp [DSound8OAL.new]⟩, trivial⟩

theorem createMono_legal (s : DSound8OAL) (flags : UInt32) : (createMono flags).Legal s := by
  rintro base ⟨⟩

/-- The steps that may allocate an array of buffers. -/
def Op.allocates : Op → Bool
  | .initializeObject _ _ | .createSoundBuffer _ _ _ _ | .duplicateSoundBuffer _ _ _ => true
  | _ => false

/-- Perform a step that does not. -/
def DSound8OAL.callExec (s : DSound8OAL) (op : Op) : Option DSound8OAL :=
  if op.allocates then none else (s.exec op).map Prod.snd

theorem DSoundStep.of_callExec (h : s.callExec op = some s') : DSoundStep s op s' := by
  obtain ⟨hno, h⟩ := Option.ite_none_left_eq_some.mp h
  obtain ⟨⟨hr, s₁⟩, hexec, rfl⟩ := Option.map_eq_some_iff.mp h
  refine ⟨?_, hr, hexec⟩
  cases op <;> trivial

/-- A run that initializes an object, creates such a buffer, and goes on with `ops`. -/
def monoRun (flags : UInt32) (ops : List Op) : Option DSound8OAL := do
  let (_, s) ← (DSound8OAL.new true).exec initializeOne
  let (_, s) ← s.exec (createMono flags)
  runFun DSound8OAL.callExec s ops

omit [Abi] in
/-- Such a run whose last state has a decidable property. -/
theorem exists_of_monoRun (flags : UInt32) :
    letI : Abi := ⟨⟨600, by decide⟩⟩
    ∀ {p : DSound8OAL → Prop} [DecidablePred p] (ops : List Op),
      (monoRun flags ops).any (fun s ↦ decide (p s)) = true →
        ∃ s, Reachable DSoundStep DSound8OAL.IsNew s ∧ p s := by
  let _ : Abi := ⟨⟨600, by decide⟩⟩
  intro p _ ops hp
  obtain ⟨s', hrun, hp⟩ := (Option.any_eq_true _ _).mp hp
  unfold monoRun at hrun
  obtain ⟨⟨hr₁, s₁⟩, hs₁, hrun⟩ := Option.bind_eq_some_iff.mp hrun
  obtain ⟨⟨hr₂, s₂⟩, hs₂, hrun⟩ := Option.bind_eq_some_iff.mp hrun
  have h₀ : Reachable DSoundStep DSound8OAL.IsNew (DSound8OAL.new true) := .init ⟨true, rfl⟩
  have h₁ : Reachable DSoundStep DSound8OAL.IsNew s₁ := h₀.step (i := initializeOne)
    ⟨initializeOne_legal true, hr₁, hs₁⟩
  have h₂ : Reachable DSoundStep DSound8OAL.IsNew s₂ := h₁.step (i := createMono flags)
    ⟨createMono_legal s₁ flags, hr₂, hs₂⟩
  exact ⟨s', h₂.runFun (fun _ _ _ ↦ DSoundStep.of_callExec) hrun, of_decide_eq_true hp⟩

end Dsoal
