import Dsoal.Core.Methods

/-!
# What the longer methods do

Methods that make several checks, destroy a buffer and create one, or poll the registered
buffers, each with all that can happen in it.  What a method leaves alone, and what it keeps,
is read off these cases.
-/

namespace Dsoal

namespace DSound8OAL

variable {s s' : DSound8OAL} {p : Ptr} {hr : HResult} {mem : Memory}

/-! ## Polls -/

/-- A poll of the buffers of a list changes nothing but the buffers and what is signalled, and
keeps some of the list. -/
theorem eq_of_pollBuffers {es kept : List Registered} (hc : pollBuffers es s = some (kept, s')) :
    (∃ gs sig, s' = { s with mSecondaryBuffers := gs, signalled := sig }) ∧ kept.Sublist es := by
  induction es generalizing s kept with
  | nil =>
      cases hc
      exact ⟨⟨_, _, rfl⟩, .slnil⟩
  | cons e es ih =>
      obtain ⟨b, -, hc⟩ := Option.bind_eq_some_iff.mp hc
      obtain ⟨⟨hit, b', again⟩, -, hc⟩ := Option.bind_eq_some_iff.mp hc
      obtain ⟨⟨kept', s₁⟩, hrec, hc⟩ := Option.bind_eq_some_iff.mp hc
      cases hc
      obtain ⟨⟨gs, sig, rfl⟩, hsub⟩ := ih hrec
      refine ⟨⟨gs, sig, rfl⟩, ?_⟩
      split_ifs
      · exact hsub.cons_cons e
      · exact hsub.cons e

/-- **A poll of the registered buffers** registers none. -/
theorem eq_of_triggerNotifies (hc : s.triggerNotifies = some s') :
    ∃ gs sig kept, kept.Sublist s.mNotifyBuffers ∧
      s' = { s with mSecondaryBuffers := gs, signalled := sig, mNotifyBuffers := kept } := by
  obtain ⟨⟨kept, s₁⟩, hpoll, hc⟩ := Option.bind_eq_some_iff.mp hc
  cases hc
  obtain ⟨⟨gs, sig, rfl⟩, hsub⟩ := eq_of_pollBuffers hpoll
  exact ⟨gs, sig, kept, hsub, rfl⟩

/-! ## Secondary buffers -/

/-- **`Stop`** does nothing to a buffer without a source.  Otherwise it stops the source, polls
the registered buffers if the buffer can have notifications, and stores the position in the
buffer as it is then. -/
theorem stop_cases (hc : s.stop p = some (hr, s')) :
    (s' = s ∧ ∃ b, s.getBuffer p = some b ∧ b.mSource = none) ∨
    ∃ b src sb s₁ b₁, s.getBuffer p = some b ∧ b.mSource = some src ∧ b.mBuffer = some sb ∧
      (¬ hasFlag sb.mFlags Caps.ctrlPositionNotify ∧ s₁ = s.setBuffer p b.pause ∨
        hasFlag sb.mFlags Caps.ctrlPositionNotify ∧
          (s.setBuffer p b.pause).triggerNotifies.map (fun t ↦ t.removeNotifyBuffer p) =
            some s₁) ∧
      s₁.getBuffer p = some b₁ ∧
      s' = s₁.setBuffer p { b₁ with mLastPos := Buffer.stopPos sb src.pause } := by
  obtain ⟨b, hb, hc⟩ := Option.bind_eq_some_iff.mp hc
  cases hs : b.mSource with
  | none =>
      simp only [hs] at hc
      cases hc
      exact .inl ⟨rfl, b, hb, hs⟩
  | some src =>
      simp only [hs] at hc
      obtain ⟨sb, hsb, hc⟩ := Option.bind_eq_some_iff.mp hc
      split at hc
      · rename_i hcaps
        obtain ⟨s₁, hs₁, hc⟩ := Option.bind_eq_some_iff.mp hc
        obtain ⟨b₁, hb₁, hc⟩ := Option.bind_eq_some_iff.mp hc
        cases hc
        exact .inr ⟨b, src, sb, s₁, b₁, hb, hs, hsb, .inr ⟨hcaps, hs₁⟩, hb₁, rfl⟩
      · rename_i hcaps
        obtain ⟨s₁, hs₁, hc⟩ := Option.bind_eq_some_iff.mp hc
        obtain ⟨b₁, hb₁, hc⟩ := Option.bind_eq_some_iff.mp hc
        cases hc
        cases hs₁
        exact .inr ⟨b, src, sb, _, b₁, hb, hs, hsb, .inl ⟨hcaps, rfl⟩, hb₁, rfl⟩

/-- `SetNotificationPositions` finds that the source has stopped since the last poll. -/
def JustStopped (s : DSound8OAL) (p : Ptr) (b : Buffer)
    (notifies : Option (List (PositionNotify EventHandle))) : Prop :=
  notifies.isSome ∧ ¬ isPlaying b.mSource ∧ b.mSource.isSome ∧ s.isPendingNotify p

/-- `SetNotificationPositions` can store `newNots`. -/
def StoresNotifies (b : Buffer) (notifies : Option (List (PositionNotify EventHandle)))
    (newNots : List (PositionNotify EventHandle)) : Prop :=
  ¬ isPlaying b.mSource ∧ ∃ sb ns, b.mBuffer = some sb ∧ notifies = some ns ∧
    notificationPositions sb.dataSize.toNat ns = some newNots

/-- **`SetNotificationPositions`** polls the registered buffers if the source has just stopped,
and then stores the positions unless they are bad. -/
theorem setNotificationPositions_cases {notifies : Option (List (PositionNotify EventHandle))}
    (hc : s.setNotificationPositions p notifies = some (hr, s')) :
    ∃ b s₁, s.getBuffer p = some b ∧
      (¬ s.JustStopped p b notifies ∧ s₁ = s ∨
        s.JustStopped p b notifies ∧
          s.triggerNotifies.map (fun t ↦ t.removeNotifyBuffer p) = some s₁) ∧
      (s' = s₁ ∨ ∃ b₁ newNots, StoresNotifies b notifies newNots ∧ s₁.getBuffer p = some b₁ ∧
        s' = s₁.setBuffer p { b₁ with mNotifies := newNots }) := by
  obtain ⟨b, hb, hc⟩ := Option.bind_eq_some_iff.mp hc
  obtain ⟨sb, hsb, hc⟩ := Option.bind_eq_some_iff.mp hc
  split at hc
  · cases hc
  cases notifies with
  | none =>
      cases hc
      exact ⟨b, s, hb, .inl ⟨fun h ↦ Bool.false_ne_true h.1, rfl⟩, .inl rfl⟩
  | some notifies =>
      dsimp only at hc
      split at hc
      · rename_i hplaying
        cases hc
        exact ⟨b, s, hb, .inl ⟨fun h ↦ h.2.1 hplaying, rfl⟩, .inl rfl⟩
      rename_i hplaying
      cases hn : notificationPositions sb.dataSize.toNat notifies with
      | none =>
          simp only [hn] at hc
          split at hc
          · rename_i hstopped
            rw [Bool.and_eq_true] at hstopped
            obtain ⟨s₁, hs₁, hc⟩ := Option.bind_eq_some_iff.mp hc
            cases hc
            exact ⟨b, s', hb, .inr ⟨⟨rfl, hplaying, hstopped⟩, hs₁⟩, .inl rfl⟩
          · rename_i hstopped
            rw [Bool.and_eq_true] at hstopped
            cases hc
            exact ⟨b, s, hb, .inl ⟨fun h ↦ hstopped h.2.2, rfl⟩, .inl rfl⟩
      | some newNots =>
          have hstores : StoresNotifies b (some notifies) newNots :=
            ⟨hplaying, sb, notifies, hsb, rfl, hn⟩
          simp only [hn] at hc
          split at hc
          · rename_i hstopped
            rw [Bool.and_eq_true] at hstopped
            obtain ⟨s₁, hs₁, hc⟩ := Option.bind_eq_some_iff.mp hc
            obtain ⟨b₁, hb₁, hc⟩ := Option.bind_eq_some_iff.mp hc
            cases hc
            exact ⟨b, s₁, hb, .inr ⟨⟨rfl, hplaying, hstopped⟩, hs₁⟩,
              .inr ⟨b₁, newNots, hstores, hb₁, rfl⟩⟩
          · rename_i hstopped
            rw [Bool.and_eq_true] at hstopped
            obtain ⟨s₁, hs₁, hc⟩ := Option.bind_eq_some_iff.mp hc
            obtain ⟨b₁, hb₁, hc⟩ := Option.bind_eq_some_iff.mp hc
            cases hc
            cases hs₁
            exact ⟨b, s, hb, .inl ⟨fun h ↦ hstopped h.2.2, rfl⟩,
              .inr ⟨b₁, newNots, hstores, hb₁, rfl⟩⟩

/-- **`Prop::Set`** generates a source for the buffer, and commits what is deferred after a
property that is set at once. -/
theorem eaxSet_cases {immediate accepted : Bool}
    (hc : s.eaxSet p immediate accepted = some (hr, s')) :
    ∃ b, s.getBuffer p = some b ∧
      (s.mExtensions.eax = false ∧ hr = .propIdUnsupported ∧ s' = s ∨
        s.mExtensions.eax = true ∧ hr = (if accepted then .ok else .fail) ∧
          ¬ (hr = .ok ∧ immediate = true) ∧ s' = s.setBuffer p b.genSource ∨
        s.mExtensions.eax = true ∧ accepted = true ∧ immediate = true ∧ hr = .ok ∧
          (s.setBuffer p b.genSource).commit = some s') := by
  obtain ⟨b, hb, hc⟩ := Option.bind_eq_some_iff.mp hc
  refine ⟨b, hb, ?_⟩
  cases heax : s.mExtensions.eax with
  | false =>
      rw [heax] at hc
      cases hc
      exact .inl ⟨rfl, rfl, rfl⟩
  | true =>
      rw [heax] at hc
      cases accepted with
      | false =>
          cases hc
          exact .inr (.inl ⟨rfl, rfl, nofun, rfl⟩)
      | true =>
          cases immediate with
          | false =>
              cases hc
              exact .inr (.inl ⟨rfl, rfl, nofun, rfl⟩)
          | true =>
              obtain ⟨s₁, hcommit, hc⟩ := Option.map_eq_some_iff.mp hc
              cases hc
              exact .inr (.inr ⟨rfl, rfl, rfl, rfl, hcommit⟩)

/-! ## The primary buffer -/

/-- `PrimaryBuffer::Initialize` accepts the description. -/
def AcceptsPrimary (s : DSound8OAL) (desc : BufferDesc) : Prop :=
  ¬ (desc.lpwfxFormat.isSome ∨ desc.dwBufferBytes ≠ 0) ∧
    ¬ hasFlag desc.dwFlags (Caps.ctrlFX ||| Caps.ctrlPositionNotify) ∧ s.mPrimaryBuffer.mFlags = 0

/-- The flags and the parameters `PrimaryBuffer::Initialize` stores. -/
def resetPrimary (s : DSound8OAL) (flags : UInt32) : DSound8OAL :=
  { s with mPrimaryBuffer := { s.mPrimaryBuffer with
    mFlags := (flags &&& ~~~Caps.locSoftware) ||| Caps.locHardware
    mImmediate := PrimaryBuffer.defaultParams
    mDeferred := PrimaryBuffer.defaultParams
    mDirty := .none } }

/-- **`Initialize`** of the primary buffer creates the write-emulation buffer at the level
`DSSCL_WRITEPRIMARY`, and if that succeeds it stores the flags and the parameters. -/
theorem primaryInitialize_cases {desc : Option BufferDesc}
    (hc : s.primaryInitialize desc mem = some (hr, s')) :
    (hr ≠ .ok ∧ s' = s ∧ ∀ d, desc = some d → ¬ s.AcceptsPrimary d) ∨
    ∃ d hr₁ s₁, desc = some d ∧ s.AcceptsPrimary d ∧
      (s.mPrioLevel = Level.writePrimary ∧ (∃ s₀, s.destroyWriteEmu = some s₀ ∧
          s₀.createWriteEmu d.dwFlags mem = some (hr₁, s₁)) ∨
        s.mPrioLevel ≠ Level.writePrimary ∧ hr₁ = .ok ∧ s₁ = s) ∧
      (hr ≠ .ok ∧ hr = hr₁ ∧ s' = s₁ ∨
        hr = .ok ∧ hr₁ = .ok ∧ (s₁.resetPrimary d.dwFlags).setListenerParams
          PrimaryBuffer.defaultParams .all = some s') := by
  unfold primaryInitialize at hc
  cases desc with
  | none =>
      cases hc
      exact .inl ⟨nofun, rfl, nofun⟩
  | some d =>
      have hreject : ∀ hr₁ : HResult, ¬ s.AcceptsPrimary d → hr₁ ≠ .ok →
          some (hr₁, s) = some (hr, s') →
          hr ≠ .ok ∧ s' = s ∧ ∀ d', some d = some d' → ¬ s.AcceptsPrimary d' := by
        intro hr₁ hno hne hc
        cases hc
        refine ⟨hne, rfl, ?_⟩
        rintro d' ⟨⟩
        exact hno
      dsimp only at hc
      split at hc
      · rename_i hformat
        exact .inl (hreject _ (fun h ↦ h.1 hformat) (by decide) hc)
      rename_i hformat
      split at hc
      · rename_i hbad
        exact .inl (hreject _ (fun h ↦ h.2.1 hbad) (by decide) hc)
      rename_i hbad
      split at hc
      · rename_i hflags
        exact .inl (hreject _ (fun h ↦ hflags h.2.2) (by decide) hc)
      rename_i hflags
      have hinit : s.AcceptsPrimary d := ⟨hformat, hbad, not_not.mp hflags⟩
      split at hc
      · rename_i hlevel
        obtain ⟨⟨hr₁, s₁⟩, hemu, hc⟩ := Option.bind_eq_some_iff.mp hc
        obtain ⟨s₀, hdestroy, hcreate⟩ := Option.bind_eq_some_iff.mp hemu
        refine .inr ⟨d, hr₁, s₁, rfl, hinit, .inl ⟨hlevel, s₀, hdestroy, hcreate⟩, ?_⟩
        dsimp only at hc
        split at hc
        · rename_i hfail
          cases hc
          exact .inl ⟨by simpa using hfail, rfl, rfl⟩
        · rename_i hok
          obtain ⟨s₂, hset, hc⟩ := Option.bind_eq_some_iff.mp hc
          cases hc
          exact .inr ⟨rfl, by simpa using hok, hset⟩
      · rename_i hlevel
        obtain ⟨⟨hr₁, s₁⟩, hs₁, hc⟩ := Option.bind_eq_some_iff.mp hc
        cases hs₁
        obtain ⟨s₂, hset, hc⟩ := Option.bind_eq_some_iff.mp hc
        cases hc
        exact .inr ⟨d, .ok, s, rfl, hinit, .inr ⟨hlevel, rfl, rfl⟩, .inr ⟨rfl, rfl, hset⟩⟩

/-- **`CreateSoundBuffer` of the primary buffer** initializes it if it has taken the first
reference and the buffer is uninitialized, and gives the reference back if that fails. -/
theorem createPrimary_cases {desc : BufferDesc} (hc : s.createPrimary desc mem = some (hr, s')) :
    (∃ s₁, (s.mPrimaryBuffer.addRef.1 = 1 ∧ s.mPrimaryBuffer.addRef.2.mFlags = 0) ∧
      primaryInitialize { s with mPrimaryBuffer := s.mPrimaryBuffer.addRef.2 } (some desc) mem =
        some (hr, s₁) ∧
      (hr ≠ .ok ∧ s' = { s₁ with mPrimaryBuffer := s₁.mPrimaryBuffer.release } ∨
        hr = .ok ∧ s' = s₁)) ∨
    (¬ (s.mPrimaryBuffer.addRef.1 = 1 ∧ s.mPrimaryBuffer.addRef.2.mFlags = 0) ∧ hr = .ok ∧
      s' = { s with mPrimaryBuffer := s.mPrimaryBuffer.addRef.2 }) := by
  unfold createPrimary at hc
  dsimp only at hc
  split at hc
  · rename_i hfirst
    obtain ⟨⟨hr₁, s₁⟩, hinit, hc⟩ := Option.bind_eq_some_iff.mp hc
    dsimp only at hc
    split at hc
    · rename_i hfail
      cases hc
      exact .inl ⟨s₁, hfirst, hinit, .inl ⟨by simpa using hfail, rfl⟩⟩
    · rename_i hok
      cases hc
      exact .inl ⟨s', hfirst, hinit, .inr ⟨by simpa using hok, rfl⟩⟩
  · rename_i hnot
    cases hc
    exact .inr ⟨hnot, rfl, rfl⟩

/-- `CreateSoundBuffer` gets past the checks that are the same for both kinds of buffers. -/
structure Accepts (s : DSound8OAL) (bufferDesc : Option BufferDesc) (dsBuffer outer : Bool)
    (desc : BufferDesc) : Prop where
  eq : bufferDesc = some desc
  dsBuffer : dsBuffer = true
  outer : outer = false
  size : ¬ desc.dwSize < sizeofBufferDesc1
  shared : s.mShared.isNone = false

/-- `CreateSoundBuffer` returns the primary buffer, or constructs a secondary buffer and
initializes it, or does neither. -/
theorem createSoundBuffer_cases [Abi] {bufferDesc : Option BufferDesc} {dsBuffer outer : Bool}
    (hc : s.createSoundBuffer bufferDesc dsBuffer outer mem = some (hr, s')) :
    (s' = s ∧ hr ≠ .ok ∧ ∀ desc, s.Accepts bufferDesc dsBuffer outer desc →
      ¬ hasFlag desc.dwFlags Caps.primaryBuffer ∧
      hasFlag desc.dwFlags Caps.ctrl3D ∧ hasFlag desc.dwFlags Caps.ctrlPan ∧ s.mIs8) ∨
    ∃ desc, s.Accepts bufferDesc dsBuffer outer desc ∧
      (hasFlag desc.dwFlags Caps.primaryBuffer ∧ s.createPrimary desc mem = some (hr, s') ∨
        ¬ hasFlag desc.dwFlags Caps.primaryBuffer ∧
        ¬ (hasFlag desc.dwFlags Caps.ctrl3D ∧ hasFlag desc.dwFlags Caps.ctrlPan ∧ s.mIs8) ∧
        ∃ p s₁, s.construct (.fresh s.nextBorn s.mIs8) mem = some (p, s₁) ∧
          s₁.initializeNew p (some desc) mem.samples = some (hr, s')) := by
  unfold createSoundBuffer at hc
  split at hc
  · rename_i hptr
    cases hc
    exact .inl ⟨rfl, nofun, fun desc h ↦ by simp [h.dsBuffer] at hptr⟩
  rename_i hptr
  split at hc
  · rename_i houter
    cases hc
    exact .inl ⟨rfl, nofun, fun desc h ↦ by simp [h.outer] at houter⟩
  rename_i houter
  cases bufferDesc with
  | none =>
      cases hc
      exact .inl ⟨rfl, nofun, fun desc h ↦ nomatch h.eq⟩
  | some desc =>
      dsimp only at hc
      split at hc
      · rename_i hsize
        cases hc
        refine .inl ⟨rfl, nofun, fun desc' h ↦ ?_⟩
        cases h.eq
        exact absurd hsize h.size
      rename_i hsize
      split at hc
      · rename_i hshared
        cases hc
        exact .inl ⟨rfl, nofun, fun desc' h ↦ by simp [h.shared] at hshared⟩
      rename_i hshared
      have haccepts : s.Accepts (some desc) dsBuffer outer desc :=
        ⟨rfl, by simpa using hptr, by simpa using houter, hsize,
          Bool.eq_false_iff.mpr hshared⟩
      split at hc
      · rename_i hprimary
        exact .inr ⟨desc, haccepts, .inl ⟨hprimary, hc⟩⟩
      rename_i hprimary
      split at hc
      · rename_i hpan
        cases hc
        refine .inl ⟨rfl, nofun, fun desc' h ↦ ?_⟩
        cases h.eq
        exact ⟨hprimary, hpan⟩
      · rename_i hpan
        obtain ⟨⟨p, s₁⟩, hcon, hc⟩ := Option.bind_eq_some_iff.mp hc
        exact .inr ⟨desc, haccepts, .inr ⟨hprimary, hpan, p, s₁, hcon, hc⟩⟩

/-- The copy of a buffer that `DuplicateSoundBuffer` constructs if it accepts its arguments. -/
structure Duplicates (s : DSound8OAL) (original : Option Ptr) (duplicate : Bool) (b : Buffer) :
    Prop where
  shared : s.mShared.isNone = false
  duplicate : duplicate = true
  original : ∃ p orig sb, original = some p ∧ s.getBuffer p = some orig ∧
    orig.mBuffer = some sb ∧ ¬ hasFlag sb.mFlags Caps.primaryBuffer ∧
    ¬ hasFlag sb.mFlags Caps.ctrlFX ∧ Buffer.duplicate s.nextBorn s.mIs8 orig = some b

/-- `DuplicateSoundBuffer` constructs the copy and initializes it, or does nothing. -/
theorem duplicateSoundBuffer_cases [Abi] {original : Option Ptr} {duplicate : Bool}
    (hc : s.duplicateSoundBuffer original duplicate mem = some (hr, s')) :
    (s' = s ∧ hr ≠ .ok ∧ ∀ b, s.Duplicates original duplicate b → s.construct b mem = none) ∨
    ∃ b p s₁, s.Duplicates original duplicate b ∧ s.construct b mem = some (p, s₁) ∧
      s₁.initializeNew p none mem.samples = some (hr, s') := by
  unfold duplicateSoundBuffer at hc
  split at hc
  · rename_i hshared
    cases hc
    exact .inl ⟨rfl, nofun, fun b h ↦ by simp [h.shared] at hshared⟩
  rename_i hshared
  cases original with
  | none =>
      cases hc
      refine .inl ⟨rfl, nofun, fun b h ↦ ?_⟩
      obtain ⟨p, -, -, hp, -⟩ := h.original
      cases hp
  | some p =>
      dsimp only at hc
      split at hc
      · rename_i hptr
        cases hc
        exact .inl ⟨rfl, nofun, fun b h ↦ by simp [h.duplicate] at hptr⟩
      rename_i hptr
      obtain ⟨orig, horig, hc⟩ := Option.bind_eq_some_iff.mp hc
      obtain ⟨sb, hsb, hc⟩ := Option.bind_eq_some_iff.mp hc
      have hunique : ∀ b, s.Duplicates (some p) duplicate b →
          ¬ hasFlag sb.mFlags Caps.primaryBuffer ∧ ¬ hasFlag sb.mFlags Caps.ctrlFX ∧
            Buffer.duplicate s.nextBorn s.mIs8 orig = some b := by
        intro b h
        obtain ⟨p', orig', sb', hp, horig', hsb', hcopy⟩ := h.original
        cases hp
        obtain rfl : orig = orig' := Option.some.inj (horig.symm.trans horig')
        obtain rfl : sb = sb' := Option.some.inj (hsb.symm.trans hsb')
        exact hcopy
      split at hc
      · rename_i hprimary
        cases hc
        exact .inl ⟨rfl, nofun, fun b h ↦ absurd hprimary (hunique b h).1⟩
      rename_i hprimary
      split at hc
      · rename_i hfx
        cases hc
        exact .inl ⟨rfl, nofun, fun b h ↦ absurd hfx (hunique b h).2.1⟩
      rename_i hfx
      obtain ⟨b, hdup, hc⟩ := Option.bind_eq_some_iff.mp hc
      have hdups : s.Duplicates (some p) duplicate b :=
        ⟨Bool.eq_false_iff.mpr hshared, by simpa using hptr, p, orig, sb, rfl, horig, hsb,
          hprimary, hfx, hdup⟩
      cases hcon : s.construct b mem with
      | none =>
          rw [hcon] at hc
          cases hc
          refine .inl ⟨rfl, nofun, fun b' h ↦ ?_⟩
          obtain rfl : b = b' := Option.some.inj (hdup.symm.trans (hunique b' h).2.2)
          exact hcon
      | some r =>
          rw [hcon] at hc
          exact .inr ⟨b, r.1, r.2, hdups, hcon, hc⟩

/-- The format `SetFormat` stores. -/
def newFormat (s : DSound8OAL) (wfx : Option WaveFormat) : Option WaveFormat := do
  let wfx ← wfx
  if s.mPrioLevel < Level.priority then none
  else if wfx.wFormatTag = formatExtensible ∧ wfx.cbSize < extExtraSize then none
  else PrimaryBuffer.copyFormat wfx

/-- **`SetFormat`** stores the format and, if there is a write-emulation buffer, creates it
again. -/
theorem setFormat_cases {wfx : Option WaveFormat} (hc : s.setFormat wfx mem = some (hr, s')) :
    (s' = s ∧ s.newFormat wfx = none) ∨
    ∃ format, s.newFormat wfx = some format ∧
      (s.mPrimaryBuffer.mWriteEmu = none ∧
          s' = { s with mPrimaryBuffer := { s.mPrimaryBuffer with mFormat := format } } ∨
        s.mPrimaryBuffer.mWriteEmu.isSome = true ∧ ∃ s₁, destroyWriteEmu
            { s with mPrimaryBuffer := { s.mPrimaryBuffer with mFormat := format } } = some s₁ ∧
          s₁.createWriteEmu s₁.mPrimaryBuffer.mFlags mem = some (hr, s')) := by
  unfold setFormat at hc
  unfold newFormat
  cases wfx with
  | none =>
      cases hc
      exact .inl ⟨rfl, rfl⟩
  | some wfx =>
      simp only [Option.bind_eq_bind, Option.bind_some]
      dsimp only at hc
      split at hc
      · rename_i hlevel
        cases hc
        exact .inl ⟨rfl, if_pos hlevel⟩
      rename_i hlevel
      split at hc
      · rename_i hext
        cases hc
        exact .inl ⟨rfl, by rw [if_neg hlevel, if_pos hext]⟩
      rename_i hext
      rw [if_neg hlevel, if_neg hext]
      cases hformat : PrimaryBuffer.copyFormat wfx with
      | none =>
          rw [hformat] at hc
          cases hc
          exact .inl ⟨rfl, rfl⟩
      | some format =>
          rw [hformat] at hc
          dsimp only at hc
          split at hc
          · rename_i hsome
            obtain ⟨s₁, hdestroy, hc⟩ := Option.bind_eq_some_iff.mp hc
            exact .inr ⟨format, rfl, .inr ⟨hsome, s₁, hdestroy, hc⟩⟩
          · rename_i hnone
            cases hc
            exact .inr ⟨format, rfl, .inl ⟨by simpa using hnone, rfl⟩⟩

/-- **`Play`** of the primary buffer. -/
theorem primaryPlay_cases {priority flags : UInt32} {started : Bool}
    (hc : s.primaryPlay priority flags started = some (hr, s')) :
    (hasFlag flags PlayFlags.looping = false ∧ hr = .invalidParam ∧ s' = s) ∨
    (s.mPrimaryBuffer.mWriteEmu = none ∧ hr = .ok ∧
      s' = { s with mPrimaryBuffer := { s.mPrimaryBuffer with mPlaying := true } }) ∨
    ∃ emu dev emu' dev' notify, s.mPrimaryBuffer.mWriteEmu = some emu ∧ s.mShared = some dev ∧
      emu.play s.parent dev priority flags started = some (hr, emu', dev', notify) ∧
      s' = { s with
        mShared := some dev'
        mPrimaryBuffer := { s.mPrimaryBuffer with
          mWriteEmu := some emu'
          mPlaying := if hr.succeeded then true else s.mPrimaryBuffer.mPlaying } } := by
  unfold primaryPlay at hc
  split at hc
  · rename_i hloop
    cases hc
    exact .inl ⟨by simpa using hloop, rfl, rfl⟩
  cases hemu : s.mPrimaryBuffer.mWriteEmu with
  | none =>
      rw [hemu] at hc
      cases hc
      exact .inr (.inl ⟨rfl, rfl, rfl⟩)
  | some emu =>
      rw [hemu] at hc
      obtain ⟨dev, hdev, hc⟩ := Option.bind_eq_some_iff.mp hc
      obtain ⟨⟨hr₁, emu', dev', notify⟩, hplay, hc⟩ := Option.bind_eq_some_iff.mp hc
      cases hc
      exact .inr (.inr ⟨emu, dev, emu', dev', notify, rfl, hdev, hplay, rfl⟩)

/-- **`Stop`** of the primary buffer. -/
theorem primaryStop_cases (hc : s.primaryStop = some (hr, s')) :
    (s.mPrimaryBuffer.mWriteEmu = none ∧ hr = .ok ∧
      s' = { s with mPrimaryBuffer := { s.mPrimaryBuffer with mPlaying := false } }) ∨
    ∃ emu sb stopped hr₁ emu', s.mPrimaryBuffer.mWriteEmu = some emu ∧ emu.mBuffer = some sb ∧
      stopped = (match emu.mSource with
        | none => emu
        | some src => { emu.pause with mLastPos := Buffer.stopPos sb src.pause }) ∧
      stopped.setCurrentPosition 0 = some (hr₁, emu') ∧ hr = .ok ∧
      s' = { s with mPrimaryBuffer := { s.mPrimaryBuffer with
        mWriteEmu := some emu'
        mPlaying := false } } := by
  unfold primaryStop at hc
  cases hemu : s.mPrimaryBuffer.mWriteEmu with
  | none =>
      rw [hemu] at hc
      cases hc
      exact .inl ⟨rfl, rfl, rfl⟩
  | some emu =>
      rw [hemu] at hc
      obtain ⟨sb, hsb, hc⟩ := Option.bind_eq_some_iff.mp hc
      obtain ⟨⟨hr₁, emu'⟩, hpos, hc⟩ := Option.bind_eq_some_iff.mp hc
      cases hc
      exact .inr ⟨emu, sb, _, hr₁, emu', rfl, hsb, rfl, hpos, rfl, rfl⟩

/-- **`SetPan`** of the primary buffer. -/
theorem primarySetPan_cases {pan : Int32} (hc : s.primarySetPan pan = some (hr, s')) :
    (hr ≠ .ok ∧ s' = s) ∨
    (s.mPrimaryBuffer.mWriteEmu = none ∧ hr = .ok ∧
      s' = { s with mPrimaryBuffer := { s.mPrimaryBuffer with mPan := pan } }) ∨
    ∃ emu emu', s.mPrimaryBuffer.mWriteEmu = some emu ∧
      emu.setPan s.parent pan = some (hr, emu') ∧
      s' = { s with mPrimaryBuffer := { s.mPrimaryBuffer with
        mWriteEmu := some emu'
        mPan := if hr.succeeded then pan else s.mPrimaryBuffer.mPan } } := by
  unfold primarySetPan at hc
  split at hc
  · cases hc
    exact .inl ⟨nofun, rfl⟩
  split at hc
  · cases hc
    exact .inl ⟨nofun, rfl⟩
  cases hemu : s.mPrimaryBuffer.mWriteEmu with
  | none =>
      rw [hemu] at hc
      cases hc
      exact .inr (.inl ⟨rfl, rfl, rfl⟩)
  | some emu =>
      rw [hemu] at hc
      obtain ⟨⟨hr₁, emu'⟩, hpan, hc⟩ := Option.bind_eq_some_iff.mp hc
      cases hc
      exact .inr (.inr ⟨emu, emu', rfl, hpan, rfl⟩)

/-! ## The level -/

/-- **The walk over the live buffers** keeps what the loss of one of them keeps. -/
theorem loseBuffers_induction {P : DSound8OAL → Prop} {ps : List Ptr}
    (hlose : ∀ t q b, t.getBuffer q = some b → P t →
      P (t.setBuffer q { b with mBufferLost := true }))
    (h : P s) (hc : loseBuffers ps s = some (hr, s')) : P s' := by
  induction ps generalizing s with
  | nil =>
      cases hc
      exact h
  | cons q ps ih =>
      obtain ⟨b, hb, hc⟩ := Option.bind_eq_some_iff.mp hc
      obtain ⟨status, -, hc⟩ := Option.bind_eq_some_iff.mp hc
      split at hc
      · cases hc
        exact h
      · exact ih (hlose s q b hb h) hc

/-- It changes nothing but the buffers. -/
theorem eq_of_loseBuffers {ps : List Ptr} (hc : loseBuffers ps s = some (hr, s')) :
    ∃ gs, s' = { s with mSecondaryBuffers := gs } := by
  refine loseBuffers_induction (P := fun t ↦ ∃ gs, t = { s with mSecondaryBuffers := gs }) ?_
    ⟨_, rfl⟩ hc
  rintro t q b - ⟨gs, rfl⟩
  exact ⟨_, rfl⟩

/-- **Entering `DSSCL_WRITEPRIMARY`** walks over the live buffers, and creates the
write-emulation buffer if the primary buffer is initialized. -/
theorem enterWritePrimary_cases (hc : s.enterWritePrimary mem = some (hr, s')) :
    ∃ s₁ hr₂ s₂, s.destroyWriteEmu = some s₁ ∧
      s₁.loseBuffers (livePtrs s₁.mSecondaryBuffers) = some (hr₂, s₂) ∧
      (hr₂ ≠ .ok ∧ hr = hr₂ ∧ s' = s₂ ∨
        hr₂ = .ok ∧ s₂.mPrimaryBuffer.mFlags ≠ 0 ∧
          s₂.createWriteEmu s₂.mPrimaryBuffer.mFlags mem = some (hr, s') ∨
        hr₂ = .ok ∧ s₂.mPrimaryBuffer.mFlags = 0 ∧ hr = .ok ∧ s' = s₂) := by
  obtain ⟨s₁, hdestroy, hc⟩ := Option.bind_eq_some_iff.mp hc
  obtain ⟨⟨hr₂, s₂⟩, hlose, hc⟩ := Option.bind_eq_some_iff.mp hc
  refine ⟨s₁, hr₂, s₂, hdestroy, hlose, ?_⟩
  dsimp only at hc
  split at hc
  · rename_i hfail
    cases hc
    exact .inl ⟨by simpa using hfail, rfl, rfl⟩
  rename_i hok
  have hok : hr₂ = .ok := by simpa using hok
  split at hc
  · rename_i hflags
    exact .inr (.inl ⟨hok, hflags, hc⟩)
  · rename_i hflags
    cases hc
    exact .inr (.inr ⟨hok, not_not.mp hflags, hok, rfl⟩)

/-- **`SetCooperativeLevel`** stores the level if entering or leaving `DSSCL_WRITEPRIMARY`
succeeds, and if neither is to be done. -/
theorem setCooperativeLevel_cases {level : UInt32}
    (hc : s.setCooperativeLevel level mem = some (hr, s')) :
    (s' = s ∧ hr ≠ .ok ∧
      (s.mShared.isNone ∨ level > Level.writePrimary ∨ level < Level.normal)) ∨
    ∃ s₁, s' = (if hr.succeeded then { s₁ with mPrioLevel := level } else s₁) ∧
      s.mShared.isNone = false ∧ level ≤ Level.writePrimary ∧
      ((level = Level.writePrimary ∧ s.mPrioLevel ≠ Level.writePrimary) ∧
          s.enterWritePrimary mem = some (hr, s₁) ∨
        (level < Level.writePrimary ∧ s.mPrioLevel = Level.writePrimary) ∧ hr = .ok ∧
          s.destroyWriteEmu = some s₁ ∨
        (level = Level.writePrimary ↔ s.mPrioLevel = Level.writePrimary) ∧ hr = .ok ∧
          s₁ = s) := by
  unfold setCooperativeLevel at hc
  split at hc
  · rename_i hshared
    cases hc
    exact .inl ⟨rfl, nofun, .inl hshared⟩
  rename_i hshared
  split at hc
  · rename_i hinvalid
    cases hc
    exact .inl ⟨rfl, nofun, .inr hinvalid⟩
  rename_i hvalid
  have hle : level ≤ Level.writePrimary := UInt32.not_lt.mp fun hlt ↦ hvalid (.inl hlt)
  have hshared : s.mShared.isNone = false := Bool.eq_false_iff.mpr hshared
  split at hc
  · rename_i henter
    obtain ⟨⟨hr₁, s₁⟩, hs₁, hc⟩ := Option.bind_eq_some_iff.mp hc
    cases hc
    exact .inr ⟨s₁, rfl, hshared, hle, .inl ⟨henter, hs₁⟩⟩
  rename_i henter
  split at hc
  · rename_i hleave
    obtain ⟨⟨hr₁, s₁⟩, hs₁, hc⟩ := Option.bind_eq_some_iff.mp hc
    obtain ⟨s₂, hdestroy, hs₂⟩ := Option.map_eq_some_iff.mp hs₁
    cases hs₂
    cases hc
    exact .inr ⟨_, rfl, hshared, hle, .inr (.inl ⟨hleave, rfl, hdestroy⟩)⟩
  · rename_i hleave
    cases hc
    refine .inr ⟨s, rfl, hshared, hle, .inr (.inr ⟨?_, rfl, rfl⟩)⟩
    constructor
    · intro hlevel
      by_contra hne
      exact henter ⟨hlevel, hne⟩
    · intro hold
      by_contra hne
      exact hleave ⟨UInt32.lt_of_le_of_ne hle hne, hold⟩

end DSound8OAL

end Dsoal
