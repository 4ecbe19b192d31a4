import Dsoal.Core.Resources
import Dsoal.Object.Steps

/-!
# What a buffer leaves when it cannot be created

`CreateSoundBuffer` and `DuplicateSoundBuffer` construct a buffer in a slot and
initialize it there, and a failure of the initialization is undone by the release of the
only pointer to the buffer.  By then the initialization can have stored samples, and
registered the buffer as a 3D buffer.

What that leaves of the object is `DSound8OAL.initializeNew_failed`; this file is about what
the buffer owns (`ResourceRun.attempt`).  The `SharedBuffer` goes with its only reference if
it is new, and if it is the one of an original, the reference that has been taken is
returned.
-/

namespace Dsoal

open TransitionSystem

/-! ## The resources -/

namespace Resources

variable {r r' : Resources} {names : Names} {a : ℕ}

/-- The resources with a new `SharedBuffer`. -/
def stored (r : Resources) (names : Names) : Resources :=
  { r with
    shared := r.shared.alloc names.shared names.alBuffer
    alBuffers := insert names.alBuffer r.alBuffers }

@[simp] theorem deleteSource_zero : r.deleteSource 0 = r := if_pos rfl

/-- A new `SharedBuffer` is released before it has an OpenAL buffer. -/
theorem releaseShared_alloc (hfresh : r.Fresh names) :
    ({ r with shared := r.shared.alloc names.shared 0 } : Resources).releaseShared names.shared =
      some r := by
  simp [releaseShared, RefHeap.release_alloc hfresh.1]

/-- A new `SharedBuffer` is released, with its OpenAL buffer. -/
theorem releaseShared_stored (hfresh : r.Fresh names) :
    (r.stored names).releaseShared names.shared = some r := by
  obtain ⟨hfree, hne, hnot, -⟩ := hfresh
  simp [releaseShared, stored, RefHeap.release_alloc hfree, hne, Finset.erase_insert hnot]

/-- A reference is returned that has been taken. -/
theorem releaseShared_of_addRef {c : RefCell AlName} {shared : RefHeap ℕ AlName}
    (hc : r.shared a = some c) (hpos : 0 < c.count) (hadd : r.shared.addRef a = some shared) :
    ({ r with shared := shared } : Resources).releaseShared a = some r := by
  simp [releaseShared, RefHeap.release_of_addRef hc hpos hadd]

@[simp] theorem shared_deleteSource (r : Resources) (name : AlName) :
    (r.deleteSource name).shared = r.shared := by
  unfold deleteSource
  split_ifs <;> rfl

/-- What `Release` does to the `SharedBuffer`s. -/
theorem shared_releaseShared (hc : r.releaseShared a = some r') :
    ∃ freed, r.shared.release a = some (freed, r'.shared) := by
  obtain ⟨⟨freed, shared⟩, hrelease, hc⟩ := Option.bind_eq_some_iff.mp hc
  cases freed <;>
    · cases hc
      exact ⟨_, hrelease⟩

/-- Names stay fresh when a reference to a live object is taken. -/
theorem Fresh.copyShared (hfresh : r.Fresh names) {mBuffer : Option ℕ}
    (hc : r.copyShared mBuffer = some r') : r'.Fresh names := by
  cases mBuffer with
  | none =>
      cases hc
      exact hfresh
  | some a =>
      obtain ⟨shared, hadd, rfl⟩ := Option.map_eq_some_iff.mp hc
      obtain ⟨c, hcell, rfl⟩ := Option.map_eq_some_iff.mp hadd
      obtain ⟨hfree, hrest⟩ := hfresh
      have hne : names.shared ≠ a := by
        rintro rfl
        rw [hfree] at hcell
        cases hcell
      exact ⟨(Function.update_of_ne hne ..).trans hfree, hrest⟩

/-- **`SharedBuffer::Create`** makes a new object, or leaves nothing behind. -/
theorem createShared_cases (hfresh : r.Fresh names) {desc : BufferDesc} {format : WaveFormat}
    {exts : Extensions} {memory : Bool} {result : Except HResult SharedBuffer}
    (hc : r.createShared desc format exts memory names = some (result, r')) :
    SharedBuffer.create desc format exts memory = result ∧
      ((∃ hr, result = .error hr ∧ r' = r) ∨ ∃ sb, result = .ok sb ∧ r' = r.stored names) := by
  simp only [createShared] at hc
  simp only [SharedBuffer.create]
  split_ifs at hc ⊢
  all_goals try (cases hc; exact ⟨rfl, .inl ⟨_, rfl, rfl⟩⟩)
  cases hconvert : convertAny format with
  | none =>
      simp only [hconvert, releaseShared_alloc hfresh, Option.bind_eq_bind, Option.bind_some] at hc
      cases hc
      exact ⟨rfl, .inl ⟨_, rfl, rfl⟩⟩
  | some converted =>
      obtain ⟨mWfxFormat, sampleType, config⟩ := converted
      simp only [hconvert, releaseShared_alloc hfresh, RefHeap.store_alloc, Option.bind_eq_bind,
        Option.bind_some] at hc
      dsimp only
      split_ifs at hc ⊢
      · cases hc
        exact ⟨rfl, .inl ⟨_, rfl, rfl⟩⟩
      · cases hc
        exact ⟨rfl, .inr ⟨_, rfl, rfl⟩⟩

end Resources

/-! ## Creating a buffer -/

namespace ResourceRun

variable [Abi] {w w' w₁ : ResourceRun} {p : Ptr} {mBuffer : Option ℕ} {b : Buffer} {hr : HResult}
  {mem : Memory} {names : Names} {desc : Option BufferDesc} {memory : Bool}

omit [Abi] in
/-- What `createSecondaryBuffer` does. -/
theorem construct_eq (hc : w.construct b mBuffer mem = some (p, w₁)) :
    w.object.construct b mem = some (p, w₁.object) ∧
      w.resources.copyShared mBuffer = some w₁.resources ∧
      w₁.owned = Function.update w.owned p { mBuffer := mBuffer } := by
  obtain ⟨⟨p', object⟩, hcon, hc⟩ := Option.bind_eq_some_iff.mp hc
  obtain ⟨resources, hcopy, hc⟩ := Option.bind_eq_some_iff.mp hc
  cases hc
  exact ⟨hcon, hcopy, rfl⟩

omit [Abi] in
/-- Where `Buffer::Initialize` has its storage from. -/
theorem storage_cases (hfresh : w.resources.Fresh names) {result : Except HResult SharedBuffer}
    (hc : w.storage p b desc memory names = some (result, w')) :
    b.storage w.object.mExtensions desc memory = result ∧
      ((∃ hr, result = .error hr ∧ b.mBuffer = none ∧ w' = w) ∨
        (∃ sb, result = .ok sb ∧ b.mBuffer = some sb ∧ w' = w) ∨
        ∃ sb, result = .ok sb ∧ b.mBuffer = none ∧ w' = { w with
          resources := w.resources.stored names
          owned := Function.update w.owned p
            { w.owned p with mBuffer := some names.shared } }) := by
  unfold storage at hc
  unfold Buffer.storage
  cases hb : b.mBuffer with
  | some sb =>
      simp only [hb] at hc
      cases hc
      exact ⟨rfl, .inr (.inl ⟨sb, rfl, rfl, rfl⟩)⟩
  | none =>
      simp only [hb] at hc
      cases desc with
      | none =>
          cases hc
          exact ⟨rfl, .inl ⟨_, rfl, rfl, rfl⟩⟩
      | some desc =>
          dsimp only at hc ⊢
          cases hformat : desc.lpwfxFormat with
          | none =>
              simp only [hformat] at hc
              cases hc
              exact ⟨rfl, .inl ⟨_, rfl, rfl, rfl⟩⟩
          | some format =>
              simp only [hformat] at hc
              dsimp only
              split_ifs at hc ⊢
              · cases hc
                exact ⟨rfl, .inl ⟨_, rfl, rfl, rfl⟩⟩
              · obtain ⟨⟨stored, r⟩, hcreate, hc⟩ := Option.bind_eq_some_iff.mp hc
                obtain ⟨hstored, ⟨hr, rfl, rfl⟩ | ⟨sb, rfl, rfl⟩⟩ :=
                  Resources.createShared_cases hfresh hcreate
                · cases hc
                  exact ⟨hstored, .inl ⟨hr, rfl, rfl, rfl⟩⟩
                · cases hc
                  exact ⟨hstored, .inr (.inr ⟨sb, rfl, rfl, rfl⟩)⟩

omit [Abi] in
@[simp] theorem mBuffer_genSource (w : ResourceRun) (p q : Ptr) (name : AlName) :
    ((w.genSource p name).owned q).mBuffer = (w.owned q).mBuffer := by
  by_cases hq : q = p <;> simp [genSource, hq]

omit [Abi] in
/-- **`Buffer::Initialize`** is that of the object.  If it fails, nothing is owned but
what the storage is. -/
theorem initializeBuffer_cases (hb : w.object.getBuffer p = some b) (hblank : b.Blank)
    (hfresh : w.resources.Fresh names)
    (hc : w.initializeBuffer p desc memory names = some (hr, w')) :
    w.object.initializeBuffer p desc memory = some (hr, w'.object) ∧
      ∃ result w₁, w.storage p b desc memory names = some (result, w₁) ∧
        (hr ≠ .ok → w'.resources = w₁.resources ∧ w'.owned = w₁.owned) ∧
        (hr = .ok → (∃ sb, result = .ok sb) ∧ w'.resources.shared = w₁.resources.shared ∧
          ∀ q, (w'.owned q).mBuffer = (w₁.owned q).mBuffer) := by
  obtain ⟨b₀, hb₀, hc⟩ := Option.bind_eq_some_iff.mp hc
  obtain rfl : b = b₀ := Option.some.inj (hb.symm.trans hb₀)
  have hnew : ¬ b.mIsInitialized = true := by simp [hblank.initialized]
  rw [if_neg hnew] at hc
  obtain ⟨⟨result, w₁⟩, hstorage, hc⟩ := Option.bind_eq_some_iff.mp hc
  obtain ⟨hstored, hcases⟩ := storage_cases hfresh hstorage
  have hobject : w₁.object = w.object := by
    obtain ⟨-, -, -, rfl⟩ | ⟨-, -, -, rfl⟩ | ⟨-, -, -, rfl⟩ := hcases <;> rfl
  cases result with
  | error hr₁ =>
      have hattach : b.attach w.object.mExtensions desc memory = .error hr₁ := by
        rw [Buffer.attach, if_neg hnew, hstored]
      cases hc
      refine ⟨?_, _, _, hstorage, fun _ ↦ ⟨rfl, rfl⟩, fun hok ↦ ?_⟩
      · simp [DSound8OAL.initializeBuffer, hb, hattach, hobject]
      · exact absurd hok (Buffer.attach_error hattach)
  | ok sb =>
      dsimp only at hc
      rw [hobject] at hc
      set b₁ : Buffer := { b with
        mBuffer := some sb
        mFrequency := if b.mFrequency = 0 then sb.mWfxFormat.nSamplesPerSec else b.mFrequency }
      have hattach : b.attach w.object.mExtensions desc memory = .ok b₁ := by
        rw [Buffer.attach, if_neg hnew, hstored]
      obtain ⟨dev, hdev, hc⟩ := Option.bind_eq_some_iff.mp hc
      obtain ⟨⟨hr₁, b₂, dev'⟩, hloc, hc⟩ := Option.bind_eq_some_iff.mp hc
      cases hc
      refine ⟨?_, _, _, hstorage, fun hfail ↦ ?_, fun _ ↦ ⟨⟨sb, rfl⟩, ?_, fun q ↦ ?_⟩⟩
      · refine Option.bind_eq_some_iff.mpr ⟨b, hb, ?_⟩
        rw [hattach]
        refine Option.bind_eq_some_iff.mpr ⟨dev, hdev, Option.bind_eq_some_iff.mpr ⟨_, hloc, ?_⟩⟩
        split_ifs <;> rfl
      · have hloc₁ : b₁.mLocStatus = .none := hblank.location
        have hsource₁ : b₁.mSource = none := hblank.source
        obtain ⟨hok, -⟩ | ⟨-, -, -, rfl⟩ :=
          DSound8OAL.initLocation_cases (show b₁.mBuffer = some sb from rfl) hloc₁ hloc
        · exact absurd hok hfail
        rw [if_neg (by simp [hsource₁])]
        exact ⟨rfl, rfl⟩
      · split_ifs <;> rfl
      · split_ifs <;> simp

/-- What `dispose` does. -/
theorem dispose_eq (hc : w.dispose p = some w') :
    w.object.dispose p = some w'.object ∧
      (w.resources.deleteSource (w.owned p).mSource).resetShared (w.owned p).mBuffer =
        some w'.resources ∧
      w'.owned = Function.update w.owned p {} := by
  obtain ⟨object, hobject, hc⟩ := Option.bind_eq_some_iff.mp hc
  obtain ⟨resources, hreset, hc⟩ := Option.bind_eq_some_iff.mp hc
  cases hc
  exact ⟨hobject, hreset, rfl⟩

/-- What becomes of the resources when a buffer with the pointer `mBuffer` of its original
is created at `p`: nothing if that fails, otherwise the buffer has a reference to a new
`SharedBuffer` or to that of the original. -/
inductive Attempt (w : ResourceRun) (mBuffer : Option ℕ) (names : Names) (p : Ptr) (hr : HResult)
    (result : Option Ptr) (w' : ResourceRun) : Prop
  | failed (hfail : hr ≠ .ok) (hnull : result = none) (resources : w'.resources = w.resources)
      (owned : ∀ q, q ≠ p → w'.owned q = w.owned q)
  | created (a : ℕ) (hok : hr = .ok) (owner : (w'.owned p).mBuffer = some a)
      (owned : ∀ q, q ≠ p → (w'.owned q).mBuffer = (w.owned q).mBuffer)
      (shared : mBuffer = none ∧ w.resources.shared a = none ∧
          w'.resources.shared = w.resources.shared.alloc a names.alBuffer ∨
        mBuffer = some a ∧ w.resources.shared.addRef a = some w'.resources.shared)

omit [Abi] in
/-- What a buffer owns when its storage has been looked for. -/
theorem stored_cases (hfresh : w.resources.Fresh names)
    (hbuffer : mBuffer.isSome = b.mBuffer.isSome)
    (hcon : w.construct b mBuffer mem = some (p, w₁)) {result : Except HResult SharedBuffer}
    (hc : w₁.storage p b desc memory names = some (result, w')) :
    (∃ hr, result = .error hr ∧ w'.resources = w.resources ∧
        w'.owned = Function.update w.owned p {}) ∨
      ∃ a, w'.owned = Function.update w.owned p { mBuffer := some a } ∧
        (mBuffer = none ∧ a = names.shared ∧ w'.resources = w.resources.stored names ∨
          mBuffer = some a ∧ ∃ shared, w.resources.shared.addRef a = some shared ∧
            w'.resources = { w.resources with shared := shared }) := by
  obtain ⟨-, hcopy, howned⟩ := construct_eq hcon
  obtain ⟨-, ⟨hr, rfl, hnone, rfl⟩ | ⟨sb, rfl, hsome, rfl⟩ | ⟨sb, rfl, hnone, rfl⟩⟩ :=
    storage_cases (hfresh.copyShared hcopy) hc
  · obtain rfl : mBuffer = none := by simpa [hnone] using hbuffer
    exact .inl ⟨hr, rfl, (Option.some.inj hcopy).symm, howned⟩
  · obtain ⟨a, rfl⟩ := Option.isSome_iff_exists.mp (hbuffer.trans (by rw [hsome]; rfl))
    obtain ⟨shared, hadd, hresources⟩ := Option.map_eq_some_iff.mp hcopy
    exact .inr ⟨a, howned, .inr ⟨rfl, shared, hadd, hresources.symm⟩⟩
  · obtain rfl : mBuffer = none := by simpa [hnone] using hbuffer
    have hsame : w.resources = w₁.resources := Option.some.inj hcopy
    refine .inr ⟨names.shared, ?_, .inl ⟨rfl, rfl, by rw [hsame]⟩⟩
    simp [howned]

/-- **Creating a buffer**, with what it owns. -/
theorem attempt (hblank : b.Blank) (hfresh : w.resources.Fresh names)
    (hbuffer : mBuffer.isSome = b.mBuffer.isSome)
    (halive : ∀ a c, mBuffer = some a → w.resources.shared a = some c → 0 < c.count)
    (hcon : w.construct b mBuffer mem = some (p, w₁)) (hb : w₁.object.getBuffer p = some b)
    {result : Option Ptr}
    (hc : w₁.initializeNew p desc memory names = some (hr, result, w')) :
    w₁.object.initializeNew p desc memory = some (hr, w'.object) ∧
      w.Attempt mBuffer names p hr result w' := by
  obtain ⟨-, hcopy, -⟩ := construct_eq hcon
  obtain ⟨⟨hr₂, w₂⟩, hinit, hc⟩ := Option.bind_eq_some_iff.mp hc
  obtain ⟨hobject, stored, w₃, hstorage, hfailed, hcreated⟩ :=
    initializeBuffer_cases hb hblank (hfresh.copyShared hcopy) hinit
  have hcases := stored_cases hfresh hbuffer hcon hstorage
  dsimp only at hc
  by_cases hok : hr₂ = .ok
  · rw [if_neg (by simp [hok])] at hc
    cases hc
    obtain ⟨⟨sb, rfl⟩, hshared, howned⟩ := hcreated hok
    refine ⟨by simp [DSound8OAL.initializeNew, hobject, hok], ?_⟩
    obtain ⟨_, herror, -⟩ | ⟨a, howned₃, hresources⟩ := hcases
    · cases herror
    refine .created a hok (by simp [howned, howned₃])
      (fun q hq ↦ by rw [howned, howned₃, Function.update_of_ne hq]) ?_
    obtain ⟨hnone, rfl, hresources⟩ | ⟨hsome, shared, hadd, hresources⟩ := hresources
    · exact .inl ⟨hnone, hfresh.1, by rw [hshared, hresources]; rfl⟩
    · exact .inr ⟨hsome, by rw [hshared, hresources, hadd]⟩
  · rw [if_pos (by simpa using hok)] at hc
    obtain ⟨w₄, hdispose, hc⟩ := Option.bind_eq_some_iff.mp hc
    cases hc
    obtain ⟨hobject', hreset, howned⟩ := dispose_eq hdispose
    obtain ⟨hresources₂, howned₂⟩ := hfailed hok
    rw [hresources₂, howned₂] at hreset
    refine ⟨by simp [DSound8OAL.initializeNew, hobject, hok, hobject'], .failed hok rfl ?_ ?_⟩
    · -- the pointer that is reset is the only one, or one to a buffer others hold as well
      obtain ⟨_, -, hresources, howned₃⟩ | ⟨a, howned₃, hresources⟩ := hcases
      · simp only [howned₃, Function.update_self, Resources.deleteSource_zero] at hreset
        rw [← hresources]
        exact (Option.some.inj hreset).symm
      simp only [howned₃, Function.update_self, Resources.deleteSource_zero,
        Resources.resetShared] at hreset
      obtain ⟨-, rfl, hresources⟩ | ⟨hsome, shared, hadd, hresources⟩ := hresources
      · rw [hresources, Resources.releaseShared_stored hfresh] at hreset
        exact (Option.some.inj hreset).symm
      · obtain ⟨c, hcell, -⟩ := Option.map_eq_some_iff.mp hadd
        rw [hresources,
          Resources.releaseShared_of_addRef hcell (halive a c hsome hcell) hadd] at hreset
        exact (Option.some.inj hreset).symm
    · intro q hq
      obtain ⟨_, -, -, howned₃⟩ | ⟨a, howned₃, -⟩ := hcases
      all_goals rw [howned, Function.update_of_ne hq, howned₂, howned₃, Function.update_of_ne hq]

end ResourceRun

end Dsoal
