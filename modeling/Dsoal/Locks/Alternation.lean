import Dsoal.Lib.Transition
import Dsoal.Locks.CaptureRegions
import Dsoal.Playback.Cursors

/-!
# Locks and unlocks alternate

`Lock` sets `mLocked` when all its arguments have been found valid, but `Unlock` clears it
before it looks at its own: an `Unlock` that fails for its regions has unlocked the buffer all
the same.  As long as a locked buffer is only unlocked with regions it accepts, what returns
an error leaves the flag alone, and the calls that succeed alternate.
-/

namespace Dsoal

open TransitionSystem

namespace LockMethods

variable {β : Type} {w : ℕ} {m : LockMethods β w} {accepts : β → BitVec w → LockedRegions w → Prop}
  {s s' : LockState} {c : LockCall β w} {mLocked mLocked' : Bool} {hr : HResult}

/-- What the two methods do to the flag. -/
structure Spec (m : LockMethods β w) (accepts : β → BitVec w → LockedRegions w → Prop) : Prop where
  lock : ∀ {b data mLocked offset bytes flags first second hr mLocked'},
    m.lock b data mLocked offset bytes flags first second = some (hr, mLocked') →
      Toggle.Faithful mLocked .set hr.succeeded mLocked'
  unlock : ∀ {b data mLocked regions hr mLocked'},
    m.unlock b data mLocked regions = some (hr, mLocked') →
      (hr = .ok ↔ mLocked = true ∧ accepts b data regions) ∧ mLocked' = false

/-- An `Unlock` that is given what it accepts toggles the flag or leaves it. -/
theorem Spec.faithful (h : m.Spec accepts) (hgiven : Given accepts mLocked c)
    (hc : m.call mLocked c = some (hr, mLocked')) :
    Toggle.Faithful mLocked c.toggle hr.succeeded mLocked' := by
  cases c with
  | lock b data offset bytes flags first second => exact h.lock hc
  | unlock b data regions =>
      obtain ⟨hok, rfl⟩ := h.unlock hc
      cases mLocked with
      | false =>
          have hne : hr ≠ .ok := fun h0 ↦ absurd (hok.mp h0).1 (by decide)
          rw [show hr.succeeded = false from decide_eq_false hne]
          rfl
      | true =>
          rw [show hr.succeeded = true from decide_eq_true (hok.mpr ⟨rfl, hgiven rfl⟩)]
          exact ⟨rfl, rfl⟩

/-- **One call**: what returns an error leaves the flag alone exactly if the call is not an
`Unlock` of a locked buffer with regions that the buffer does not accept. -/
theorem Spec.keeps_iff (h : m.Spec accepts) (hc : m.call mLocked c = some (hr, mLocked')) :
    (hr ≠ .ok → mLocked' = mLocked) ↔ Given accepts mLocked c := by
  constructor
  · intro hkeeps
    cases c with
    | lock b data offset bytes flags first second => exact trivial
    | unlock b data regions =>
        obtain ⟨hok, rfl⟩ := h.unlock hc
        rintro rfl
        by_contra hbad
        have hne : hr ≠ .ok := fun h0 ↦ hbad (hok.mp h0).2
        exact absurd (hkeeps hne) (by decide)
  · intro hgiven hne
    have hstep := h.faithful hgiven hc
    rw [show hr.succeeded = false from decide_eq_false hne] at hstep
    cases hc : c.toggle <;> (rw [hc] at hstep; exact hstep)

/-- The step lemma for runs. -/
theorem Spec.alternate_exec (h : m.Spec accepts) (hs : Toggle.Alternate s.done s.mLocked)
    (hgiven : Given accepts s.mLocked c) (hc : m.exec s c = some s') :
    Toggle.Alternate s'.done s'.mLocked := by
  obtain ⟨⟨hr, mLocked'⟩, hcall, rfl⟩ := Option.map_eq_some_iff.mp hc
  exact hs.step (h.faithful hgiven hcall)

/-- **The run lemma.** -/
theorem Spec.alternate (h : m.Spec accepts)
    (hs : Reachable (guarded (fun s ↦ Given accepts s.mLocked) (functional m.exec)) IsNew s) :
    Toggle.Alternate s.done s.mLocked := by
  refine hs.invariant (P := fun s ↦ Toggle.Alternate s.done s.mLocked) ?_ ?_
  · rintro s rfl
    exact .nil
  · rintro s c s' hs ⟨hgiven, hc⟩
    exact h.alternate_exec hs hgiven hc

/-- Exactly the calls that are not an `Unlock` of a locked buffer with regions that it does not
accept leave the flag alone if they fail, and without other calls those that succeed
alternate. -/
structure Alternates (m : LockMethods β w) (accepts : β → BitVec w → LockedRegions w → Prop) :
    Prop where
  keeps_iff : ∀ mLocked c hr mLocked', m.call mLocked c = some (hr, mLocked') →
    ((hr ≠ .ok → mLocked' = mLocked) ↔ Given accepts mLocked c)
  alternate : ∀ s,
    Reachable (guarded (fun s ↦ Given accepts s.mLocked) (functional m.exec)) IsNew s →
      Toggle.Alternate s.done s.mLocked

theorem Spec.alternates (h : m.Spec accepts) : m.Alternates accepts where
  keeps_iff _ _ _ _ hc := h.keeps_iff hc
  alternate _ hs := h.alternate hs

end LockMethods

namespace Buffer

variable {b : Buffer} {w : ℕ} {data : BitVec w} {mLocked mLocked' : Bool} {refresh : Refresh}
  {offset bytes flags : UInt32} {first second : Bool} {regions : LockedRegions w} {hr : HResult}

/-- `Lock` sets the flag and succeeds, or leaves it. -/
theorem lock_faithful
    (hc : b.lock refresh data mLocked offset bytes flags first second =
      some (hr, regions, mLocked')) :
    Toggle.Faithful mLocked .set hr.succeeded mLocked' := by
  unfold lock at hc
  split at hc
  · cases hc
    rfl
  obtain ⟨sb, -, hc⟩ := Option.bind_eq_some_iff.mp hc
  obtain ⟨start, -, hc⟩ := Option.bind_eq_some_iff.mp hc
  split at hc
  · cases hc
    rfl
  split at hc
  · cases hc
    rfl
  split at hc
  · rename_i hlocked
    cases hc
    exact hlocked.symm
  · rename_i hlocked
    cases hc
    exact ⟨eq_false_of_ne_true hlocked, rfl⟩

/-- `Unlock` succeeds on a locked buffer if that accepts the regions. -/
theorem unlock_eq_ok_iff (hc : b.unlock data mLocked regions = some (hr, mLocked')) :
    hr = .ok ↔ mLocked = true ∧ b.Accepts data regions := by
  have hflag := unlock_flag hc
  cases hsb : b.mBuffer with
  | none =>
      cases mLocked with
      | false =>
          cases hc
          simp
      | true =>
          rw [unlock, hsb] at hc
          cases hc
  | some sb =>
      have hiff : b.unlock data mLocked regions = some (.ok, mLocked') ↔ _ :=
        unlock_ok_iff_fit hsb
      rw [hc, hflag] at hiff
      unfold Accepts
      rw [hsb]
      simpa using hiff

theorem lockMethods_spec (refresh : Refresh) (w : ℕ) : (lockMethods refresh w).Spec Accepts where
  lock := by
    intro b data mLocked offset bytes flags first second hr mLocked' hc
    obtain ⟨⟨hr, regions, mLocked'⟩, hlock, heq⟩ := Option.map_eq_some_iff.mp hc
    cases heq
    exact lock_faithful hlock
  unlock hc := ⟨unlock_eq_ok_iff hc, unlock_flag hc⟩

end Buffer

namespace DSCBuffer

variable {b : DSCBuffer} {w : ℕ} {data : BitVec w} {mLocked : Bool} {cursor bytes flags : UInt32}
  {first second : Bool} {regions : LockedRegions w}

/-- `Lock` sets the flag and succeeds, or leaves it. -/
theorem lock_faithful : Toggle.Faithful mLocked .set
    (b.lock data mLocked cursor bytes flags first second).1.succeeded
    (b.lock data mLocked cursor bytes flags first second).2.2 := by
  unfold lock
  split_ifs with hfirst hcursor hbytes hlocked
  · rfl
  · rfl
  · rfl
  · exact hlocked.symm
  · exact ⟨eq_false_of_ne_true hlocked, rfl⟩

/-- `Unlock` succeeds on a locked buffer if that accepts the regions. -/
theorem unlock_eq_ok_iff :
    (b.unlock data mLocked regions).1 = .ok ↔ mLocked = true ∧ b.Accepts data regions := by
  have hiff : b.unlock data mLocked regions = (.ok, false) ↔ _ := unlock_ok_iff
  rw [Prod.ext_iff] at hiff
  simp only [unlock_flag, and_true, true_and] at hiff
  exact hiff

theorem lockMethods_spec (w : ℕ) : (lockMethods w).Spec Accepts where
  lock := by
    intro b data mLocked cursor bytes flags first second hr mLocked' hc
    cases hc
    exact lock_faithful
  unlock := by
    intro b data mLocked regions hr mLocked' hc
    obtain ⟨rfl, rfl⟩ := Prod.mk.inj (Option.some.inj hc)
    exact ⟨unlock_eq_ok_iff, unlock_flag⟩

end DSCBuffer

/-- **Locks and unlocks alternate** for both kinds of buffers, if a locked buffer is unlocked
with regions that it accepts only. -/
theorem locks_alternate (refresh : Refresh) (w : ℕ) :
    (Buffer.lockMethods refresh w).Alternates Buffer.Accepts ∧
      (DSCBuffer.lockMethods w).Alternates DSCBuffer.Accepts :=
  ⟨(Buffer.lockMethods_spec refresh w).alternates, (DSCBuffer.lockMethods_spec w).alternates⟩

/-- A secondary buffer of eight bytes. -/
def Buffer.eight : Buffer :=
  { Buffer.fresh 0 true with
    mBuffer := some ⟨8, Caps.locSoftware, DSCBuffer.eight.mWaveFmt⟩, mIsInitialized := true }

/-- The first four of eight bytes. -/
def LockedRegions.firstFour : LockedRegions 64 where
  audioPtr1 := 4096
  audioBytes1 := 4

/-- Four bytes that are not all in the buffer. -/
def LockedRegions.outside : LockedRegions 64 where
  audioPtr1 := 4102
  audioBytes1 := 4

/-- Lock the first four bytes. -/
def LockCall.lockFour {β : Type} (b : β) : LockCall β 64 := .lock b 4096 0 4 0 true true

/-- Unlock them. -/
def LockCall.unlockFour {β : Type} (b : β) : LockCall β 64 := .unlock b 4096 .firstFour

/-- Unlock what is not in the buffer. -/
def LockCall.unlockOutside {β : Type} (b : β) : LockCall β 64 := .unlock b 4096 .outside

/-- Lock, unlock, unlock, which fails, and lock. -/
theorem locks_alternate_three :
    (∃ s, Reachable (guarded (fun s ↦ LockMethods.Given Buffer.Accepts s.mLocked)
        (functional (Buffer.lockMethods .default 64).exec)) LockMethods.IsNew s ∧
      s.done = [.set, .clear, .set] ∧ s.mLocked = true ∧
        Toggle.Alternate s.done s.mLocked) ∧
    ∃ s, Reachable (guarded (fun s ↦ LockMethods.Given DSCBuffer.Accepts s.mLocked)
        (functional (DSCBuffer.lockMethods 64).exec)) LockMethods.IsNew s ∧
      s.done = [.set, .clear, .set] ∧ s.mLocked = true ∧
        Toggle.Alternate s.done s.mLocked := by
  constructor
  · have h0 : Reachable (guarded (fun s ↦ LockMethods.Given Buffer.Accepts s.mLocked)
        (functional (Buffer.lockMethods .default 64).exec)) LockMethods.IsNew {} := .init rfl
    have h1 := h0.step (i := LockCall.lockFour Buffer.eight) ⟨trivial, rfl⟩
    have h2 := h1.step (i := LockCall.unlockFour Buffer.eight)
      ⟨(fun _ sb hsb ↦ by cases hsb; decide), rfl⟩
    have h3 := h2.step (i := LockCall.unlockOutside Buffer.eight) ⟨(fun h ↦ by cases h), rfl⟩
    have h4 := h3.step (i := LockCall.lockFour Buffer.eight) ⟨trivial, rfl⟩
    exact ⟨_, h4, rfl, rfl, (locks_alternate .default 64).1.alternate _ h4⟩
  · have h0 : Reachable (guarded (fun s ↦ LockMethods.Given DSCBuffer.Accepts s.mLocked)
        (functional (DSCBuffer.lockMethods 64).exec)) LockMethods.IsNew {} := .init rfl
    have h1 := h0.step (i := LockCall.lockFour DSCBuffer.eight) ⟨trivial, rfl⟩
    have h2 := h1.step (i := LockCall.unlockFour DSCBuffer.eight)
      ⟨(fun _ ↦ by unfold DSCBuffer.Accepts; decide), rfl⟩
    have h3 := h2.step (i := LockCall.unlockOutside DSCBuffer.eight) ⟨(fun h ↦ by cases h), rfl⟩
    have h4 := h3.step (i := LockCall.lockFour DSCBuffer.eight) ⟨trivial, rfl⟩
    exact ⟨_, h4, rfl, rfl, (locks_alternate .default 64).2.alternate _ h4⟩

/-- An `Unlock` with regions that are not inside fails and has unlocked the buffer, so that it
can be locked again without an `Unlock` that succeeds. -/
theorem locks_do_not_alternate :
    ((Buffer.lockMethods .default 64).call true (.unlockOutside .eight) =
        some (.invalidParam, false) ∧
      ∃ s, Reachable (functional (Buffer.lockMethods .default 64).exec) LockMethods.IsNew s ∧
        s.done = [.set, .set] ∧ ¬ Toggle.Alternate s.done s.mLocked) ∧
    (DSCBuffer.lockMethods 64).call true (.unlockOutside .eight) =
        some (.invalidParam, false) ∧
      ∃ s, Reachable (functional (DSCBuffer.lockMethods 64).exec) LockMethods.IsNew s ∧
        s.done = [.set, .set] ∧ ¬ Toggle.Alternate s.done s.mLocked := by
  refine ⟨⟨rfl, ?_⟩, rfl, ?_⟩
  · have h0 : Reachable (functional (Buffer.lockMethods .default 64).exec)
        LockMethods.IsNew {} := .init rfl
    have h1 := h0.step (i := LockCall.lockFour Buffer.eight) rfl
    have h2 := h1.step (i := LockCall.unlockOutside Buffer.eight) rfl
    have h3 := h2.step (i := LockCall.lockFour Buffer.eight) rfl
    exact ⟨_, h3, rfl, fun h ↦ absurd h.chain (by decide)⟩
  · have h0 : Reachable (functional (DSCBuffer.lockMethods 64).exec)
        LockMethods.IsNew {} := .init rfl
    have h1 := h0.step (i := LockCall.lockFour DSCBuffer.eight) rfl
    have h2 := h1.step (i := LockCall.unlockOutside DSCBuffer.eight) rfl
    have h3 := h2.step (i := LockCall.lockFour DSCBuffer.eight) rfl
    exact ⟨_, h3, rfl, fun h ↦ absurd h.chain (by decide)⟩

end Dsoal
