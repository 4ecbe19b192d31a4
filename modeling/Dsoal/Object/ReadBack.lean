import Dsoal.Object.Settings

/-!
# Reading back what was set

What the operations on an object leave of the settings of a buffer, said without the settings: a
control is read as it was set last (`controls_read_back`), and the parameters that were deferred
take effect in their order with the next commit and not before (`deferred_in_order`).  Whatever
is done between to other buffers, to the listener and to the object does not matter.
-/

namespace Dsoal

open TransitionSystem

/-! ## What a call writes -/

namespace BufferCall

/-- The volume a call sets. -/
def volume? : BufferCall → Option Int32
  | .setVolume volume => some volume
  | _ => none

/-- The pan a call sets. -/
def pan? : BufferCall → Option Int32
  | .setPan pan => some pan
  | _ => none

/-- The frequency a call sets; 0 stands for that of the samples. -/
def frequency? (rate : UInt32) : BufferCall → Option UInt32
  | .setFrequency frequency => some (if frequency ≠ 0 then frequency else rate)
  | _ => none

/-- The call defers a change of the parameters. -/
def deferred? : BufferCall → Option Buffer3DCall
  | .call3D c apply => if apply = ds3dDeferred then some c else none
  | _ => none

/-- The call changes the parameters at once. -/
def immediate? : BufferCall → Option Buffer3DCall
  | .call3D c apply => if apply = ds3dDeferred then none else some c
  | _ => none

end BufferCall

namespace Answer

variable {α : Type} {p : Ptr} {i : Answer} {st : Settings} {f : BufferCall → Option α}

/-- What `f` says of a call on the buffer at `p` that is accepted. -/
def accepted (p : Ptr) (f : BufferCall → Option α) (i : Answer) : Option α :=
  match i.1 with
  | .buffer q c => if i.2 = .ok ∧ q = p then f c else none
  | _ => none

/-- The deferred settings are committed. -/
def Commits (i : Answer) : Prop :=
  match i.1 with
  | .eaxSet _ immediate _ => i.2 = .ok ∧ immediate
  | .commitDeferredSettings => True
  | _ => False

/-- A commit. -/
theorem Commits.after (h : i.Commits) : st.after p i = st.commit := by
  obtain ⟨op, hr⟩ := i
  cases op with
  | eaxSet => exact if_pos h
  | commitDeferredSettings => rfl
  | _ => exact h.elim

/-- **A part of the settings** that calls on the buffer change, and commits do not. -/
theorem after_accepted {κ : Type} (proj : Settings → κ) (change : κ → α → κ)
    (hcommit : i.Commits → proj st.commit = proj st)
    (hcall : ∀ c, proj (st.call c) = (f c).elim (proj st) (change (proj st))) :
    proj (st.after p i) = (i.accepted p f).elim (proj st) (change (proj st)) := by
  obtain ⟨op, hr⟩ := i
  unfold Settings.after accepted
  cases op with
  | buffer q c =>
      dsimp only
      split_ifs
      · exact hcall c
      · rfl
  | eaxSet q immediate ok =>
      dsimp only
      split_ifs with hok
      · exact hcommit hok
      · rfl
  | commitDeferredSettings => exact hcommit trivial
  | _ => rfl

end Answer

namespace Settings

variable {p : Ptr} {is : List Answer} {st : Settings}

/-- A call of `IDirectSound3DBuffer` is about the parameters. -/
theorem call_call3D {κ : Type} {proj : Settings → κ} (st : Settings) (c : Buffer3DCall)
    (apply : UInt32)
    (hproj : ∀ params pending, proj { st with params := params, pending := pending } = proj st) :
    proj (st.call (.call3D c apply)) = proj st := by
  unfold call
  dsimp only
  split_ifs
  · exact hproj _ _
  · exact hproj _ _

/-- What does not change after the creation of a buffer. -/
def creation (st : Settings) : UInt32 × UInt32 := (st.flags, st.rate)

theorem creation_call (st : Settings) (c : BufferCall) :
    (st.call c).creation = st.creation := by
  cases c with
  | call3D c apply => exact st.call_call3D c apply fun _ _ ↦ rfl
  | _ => rfl

theorem creation_after (p : Ptr) (st : Settings) (i : Answer) :
    (st.after p i).creation = st.creation := by
  unfold after
  split
  · split_ifs
    · exact creation_call ..
    · rfl
  · split_ifs <;> rfl
  · rfl
  · rfl

theorem creation_foldl : (is.foldl (Settings.after p) st).creation = st.creation := by
  induction is generalizing st with
  | nil => rfl
  | cons i is ih => exact ih.trans (creation_after p st i)

/-- **A control** after a run. -/
theorem control_foldl {α : Type} {proj : Settings → α} {f : BufferCall → Option α} (caps : UInt32)
    (hcommit : ∀ x : Settings, proj x.commit = proj x)
    (hcall : ∀ (x : Settings) c, x.creation = st.creation → proj (x.call c) = (f c).getD (proj x)) :
    (is.foldl (Settings.after p) st).control caps (proj (is.foldl (Settings.after p) st)) =
      st.control caps ((is.filterMap (Answer.accepted p f)).getLastD (proj st)) := by
  have hlast : proj (is.foldl (Settings.after p) st) =
      (is.filterMap (Answer.accepted p f)).getLastD (proj st) := by
    refine foldl_eq_getLastD (P := fun x ↦ x.creation = st.creation)
      (fun x i hx ↦ (creation_after p x i).trans hx) (fun x i hx ↦ ?_) rfl
    have helim : ∀ o : Option α, o.elim (proj x) id = o.getD (proj x) := by
      rintro (_ | a) <;> rfl
    rw [← helim]
    refine Answer.after_accepted proj (fun _ ↦ id) (fun _ ↦ hcommit x) fun c ↦ ?_
    rw [hcall x c hx, helim]
  have hflags : (is.foldl (Settings.after p) st).flags = st.flags :=
    congrArg Prod.fst creation_foldl
  rw [control, control, hflags, hlast]

/-- The parameters after a run without a commit or an immediate change. -/
theorem foldl_params (hquiet : ∀ i ∈ is, ¬ i.Commits ∧ i.accepted p BufferCall.immediate? = none) :
    (is.foldl (Settings.after p) st).params = st.params := by
  refine (foldl_filterMap (P := fun _ ↦ True) (g := fun _ ↦ (none : Option Unit))
    Settings.params (fun P _ ↦ P) (fun _ _ _ _ ↦ trivial) (fun x i hi _ ↦ ?_) hquiet
    trivial).trans ?_
  · have hcall : ∀ c, (x.call c).params =
        (BufferCall.immediate? c).elim x.params fun c ↦ c.assigns x.params := by
      intro c
      cases c with
      | call3D c apply =>
          unfold call BufferCall.immediate?
          dsimp only
          split_ifs <;> rfl
      | _ => rfl
    rw [Answer.after_accepted Settings.params (fun P c ↦ Buffer3DCall.assigns c P)
      (fun h ↦ absurd h hi.1) hcall, hi.2]
    rfl
  · rw [List.filterMap_none]
    rfl

/-- What is pending after a run without a commit. -/
theorem foldl_pending (hquiet : ∀ i ∈ is, ¬ i.Commits) (Q : DS3DBuffer) :
    (is.foldl (Settings.after p) st).pending Q =
      (is.filterMap (Answer.accepted p BufferCall.deferred?)).foldl (fun P c ↦ c.assigns P)
        (st.pending Q) := by
  refine foldl_filterMap (P := fun _ ↦ True) (fun x : Settings ↦ x.pending Q)
    (fun P (c : Buffer3DCall) ↦ c.assigns P) (fun _ _ _ _ ↦ trivial) (fun x i hi _ ↦ ?_) hquiet
    trivial
  refine Answer.after_accepted (fun x : Settings ↦ x.pending Q)
    (fun P (c : Buffer3DCall) ↦ c.assigns P) (fun h ↦ absurd h hi) fun c ↦ ?_
  cases c with
  | call3D c apply =>
      unfold call BufferCall.deferred?
      dsimp only
      split_ifs <;> rfl
  | _ => rfl

end Settings

/-! ## Runs -/

open DSound8OAL

variable {s s' : DSound8OAL} {p : Ptr} {b : Buffer} {is : List Answer}

/-- **A control is read as it was set last.**  In a run that does not release a buffer, its
volume, its pan and its frequency are those of the last setter that was accepted, or else what
they were.  They are read if the buffer was created with the flag for it. -/
theorem controls_read_back [Abi] (h : Reachable DSoundStep IsNew s)
    (hb : s.getBuffer p = some b) (hrun : Run Answers s is s')
    (hkept : ∀ i ∈ is, i.1 ≠ .release p) :
    ∃ sb b', b.mBuffer = some sb ∧ s'.getBuffer p = some b' ∧
      b'.getVolume true = some (if hasFlag sb.mFlags Caps.ctrlVolume then
        .ok ((is.filterMap (Answer.accepted p BufferCall.volume?)).getLastD b.mVolume)
        else .error .controlUnavail) ∧
      b'.getPan true = some (if hasFlag sb.mFlags Caps.ctrlPan then
        .ok ((is.filterMap (Answer.accepted p BufferCall.pan?)).getLastD b.mPan)
        else .error .controlUnavail) ∧
      b'.getFrequency true = some (if hasFlag sb.mFlags Caps.ctrlFrequency then
        .ok ((is.filterMap (Answer.accepted p
          (BufferCall.frequency? sb.mWfxFormat.nSamplesPerSec))).getLastD b.mFrequency)
        else .error .controlUnavail) := by
  obtain ⟨sb, hsb, hst⟩ := settings_getBuffer (ok_of_reachable h) hb
  obtain ⟨h', hst'⟩ := settings_of_run h hrun hkept hst
  obtain ⟨b', hb', hreads⟩ := reads_of_settings (ok_of_reachable h') hst'
  refine ⟨sb, b', hsb, hb', hreads.volume.trans (congrArg some ?_),
    hreads.pan.trans (congrArg some ?_), hreads.frequency.trans (congrArg some ?_)⟩
  · refine Settings.control_foldl _ (fun _ ↦ rfl) fun x c _ ↦ ?_
    cases c with
    | call3D c apply => exact x.call_call3D c apply fun _ _ ↦ rfl
    | _ => rfl
  · refine Settings.control_foldl _ (fun _ ↦ rfl) fun x c _ ↦ ?_
    cases c with
    | call3D c apply => exact x.call_call3D c apply fun _ _ ↦ rfl
    | _ => rfl
  · refine Settings.control_foldl _ (fun _ ↦ rfl) fun x c hx ↦ ?_
    have hrate : x.rate = sb.mWfxFormat.nSamplesPerSec := congrArg Prod.snd hx
    cases c with
    | setFrequency frequency =>
        rw [← hrate]
        rfl
    | call3D c apply => exact x.call_call3D c apply fun _ _ ↦ rfl
    | _ => rfl

set_option maxRecDepth 4000 in
/-- The volume is set twice, and a third value is rejected. -/
theorem controls_read_back_one : letI : Abi := ⟨⟨600, by decide⟩⟩
    ∃ (s s' : DSound8OAL) (b' : Buffer), Reachable DSoundStep IsNew s ∧
      s'.getBuffer ⟨4096, 0⟩ = some b' ∧ b'.getVolume true = some (.ok (-700)) := by
  let _ : Abi := ⟨⟨600, by decide⟩⟩
  have h0 : Reachable DSoundStep IsNew (DSound8OAL.new true) := .init ⟨true, rfl⟩
  have h1 := h0.step (i := initializeOne) ⟨initializeOne_legal true, _, rfl⟩
  have h2 := h1.step (i := createMono Caps.ctrlVolume) ⟨createMono_legal _ _, _, rfl⟩
  obtain ⟨sb, b', hsb, hb', hvolume, -⟩ := controls_read_back (p := ⟨4096, 0⟩) h2 rfl
    (.cons (i := (Op.buffer ⟨4096, 0⟩ (.setVolume (-600)), HResult.ok)) ⟨trivial, rfl⟩
      (.cons (i := (Op.buffer ⟨4096, 0⟩ (.setVolume (-700)), HResult.ok)) ⟨trivial, rfl⟩
        (.cons (i := (Op.buffer ⟨4096, 0⟩ (.setVolume 1), HResult.invalidParam)) ⟨trivial, rfl⟩
          (.nil _))))
    (by simp)
  cases hsb
  exact ⟨_, _, b', h2, hb', hvolume⟩

/-- **Deferred parameters.**  In a run that does not release a 3D buffer, does not commit and
changes none of its parameters at once, the parameters are read as they were; and the next commit
makes the deferred changes that were accepted, in their order, after those that were pending. -/
theorem deferred_in_order [Abi] (h : Reachable DSoundStep IsNew s)
    (hb : s.getBuffer p = some b) (h3 : b.is3D) (hrun : Run Answers s is s')
    (hquiet : ∀ i ∈ is, i.1 ≠ .release p ∧ ¬ i.Commits ∧
      i.accepted p BufferCall.immediate? = none) :
    (∃ b', s'.getBuffer p = some b' ∧
      ∀ (α : Type) (value : DS3DBuffer → α), b'.param true value = b.param true value) ∧
    ∀ i s'', Answers s' i s'' → i.Commits → ∃ b'', s''.getBuffer p = some b'' ∧
      ∀ (α : Type) (value : DS3DBuffer → α), b''.param true value = .ok (value
        ((is.filterMap (Answer.accepted p BufferCall.deferred?)).foldl (fun P c ↦ c.assigns P)
          (Buffer.copyParams b.mDirty b.mDeferred b.mImmediate))) := by
  obtain ⟨sb, hsb, hst⟩ := settings_getBuffer (ok_of_reachable h) hb
  have hflag : hasFlag sb.mFlags Caps.ctrl3D := by
    rw [Buffer.is3D, Buffer.hasCaps, hsb] at h3
    exact h3
  obtain ⟨h', hst'⟩ := settings_of_run h hrun (fun i hi ↦ (hquiet i hi).1) hst
  refine ⟨?_, fun i s'' hs hi ↦ ?_⟩
  · obtain ⟨b', hb', hreads⟩ := reads_of_settings (ok_of_reachable h') hst'
    refine ⟨b', hb', fun α value ↦ ?_⟩
    rw [hreads.param, Settings.foldl_params fun i hi ↦ (hquiet i hi).2]
    rfl
  · have hkept : i.1 ≠ .release p := by
      rintro hrel
      unfold Answer.Commits at hi
      rw [hrel] at hi
      exact hi
    obtain ⟨h'', hst''⟩ := settings_of_run h' (.cons hs (.nil s'')) (by simpa using hkept) hst'
    obtain ⟨b'', hb'', hreads⟩ := reads_of_settings (ok_of_reachable h'') hst''
    refine ⟨b'', hb'', fun α value ↦ ?_⟩
    rw [hreads.param, List.foldl_cons, List.foldl_nil, hi.after, Settings.commit,
      Settings.foldl_params fun i hi ↦ (hquiet i hi).2,
      Settings.foldl_pending fun i hi ↦ (hquiet i hi).2.1]
    unfold Buffer.settingsOn
    rw [if_pos hflag]

set_option maxRecDepth 4000 in
/-- Two positions are deferred, and the second is that after the commit. -/
theorem deferred_in_order_two : letI : Abi := ⟨⟨600, by decide⟩⟩
    ∃ (s s' s'' : DSound8OAL) (b' b'' : Buffer), Reachable DSoundStep IsNew s ∧
      s'.getBuffer ⟨4096, 0⟩ = some b' ∧ b'.getPosition true = .ok ⟨0, 0, 0⟩ ∧
      s''.getBuffer ⟨4096, 0⟩ = some b'' ∧ b''.getPosition true = .ok ⟨4, 5, 6⟩ := by
  let _ : Abi := ⟨⟨600, by decide⟩⟩
  have h0 : Reachable DSoundStep IsNew (DSound8OAL.new true) := .init ⟨true, rfl⟩
  have h1 := h0.step (i := initializeOne) ⟨initializeOne_legal true, _, rfl⟩
  have h2 := h1.step (i := createMono Caps.ctrl3D) ⟨createMono_legal _ _, _, rfl⟩
  obtain ⟨⟨b', hb', hbefore⟩, hcommit⟩ := deferred_in_order (p := ⟨4096, 0⟩) h2 rfl rfl
    (.cons (i := (Op.buffer ⟨4096, 0⟩ (.call3D (.setPosition 1 2 3) ds3dDeferred), HResult.ok))
      ⟨trivial, rfl⟩
      (.cons (i := (Op.buffer ⟨4096, 0⟩ (.call3D (.setPosition 4 5 6) ds3dDeferred), HResult.ok))
        ⟨trivial, rfl⟩ (.nil _)))
    (by simp [Answer.Commits, Answer.accepted, BufferCall.immediate?])
  obtain ⟨b'', hb'', hafter⟩ := hcommit (.commitDeferredSettings, .ok) _ ⟨trivial, rfl⟩ trivial
  exact ⟨_, _, _, b', b'', h2, hb', hbefore _ _, hb'', hafter _ _⟩

end Dsoal
