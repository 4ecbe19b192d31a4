import Dsoal.Core.Positions
import Dsoal.Lib.Transition
import Dsoal.Lib.Ring

/-!
# The playback of a buffer

What decides where a buffer plays, apart from everything else a `Buffer` has: the storage,
the state of the source with its offset, and `mLastPos`.  A `Track` is these three, and
`Track.exec` says what can happen to them.  The methods of a buffer are sequences of such
events (`Buffer.Plays`, in the next file).

Offsets are what OpenAL makes of them: the offset of a source that is neither playing nor
paused is the one it is to start at.
-/

namespace Dsoal

open TransitionSystem

/-! ## Storage -/

namespace SharedBuffer

variable {sb : SharedBuffer}

/-- The number of bytes of a frame. -/
abbrev frameSize (sb : SharedBuffer) : ℕ := sb.mWfxFormat.nBlockAlign.toNat

/-- What `SharedBuffer::Create` ensures of the size and the format. -/
structure Valid (sb : SharedBuffer) : Prop where
  frame_pos : 0 < sb.frameSize
  size_pos : 0 < sb.dataSize.toNat
  size_le : sb.dataSize.toNat ≤ 0x0FFFFFFF
  dvd_size : sb.frameSize ∣ sb.dataSize.toNat
  rate_le : sb.mWfxFormat.nSamplesPerSec.toNat ≤ 200000

/-- The number of bytes is rounded to a whole number of frames. -/
theorem dvd_bufferSize (dwBufferBytes : UInt32) (nBlockAlign : UInt16) :
    nBlockAlign.toNat ∣ (bufferSize dwBufferBytes nBlockAlign).toNat := by
  unfold bufferSize
  generalize dwBufferBytes + nBlockAlign.toUInt32 - 1 = n
  have hle : n % nBlockAlign.toUInt32 ≤ n := by
    rw [UInt32.le_iff_toNat_le, UInt32.toNat_mod]
    exact Nat.mod_le _ _
  rw [UInt32.toNat_sub_of_le _ _ hle, UInt32.toNat_mod, UInt16.toNat_toUInt32]
  exact Nat.dvd_sub_mod _

/-- **`SharedBuffer::Create`** makes a whole number of frames. -/
theorem valid_of_create {bufferDesc : BufferDesc} {format : WaveFormat} {exts : Extensions}
    {memory : Bool} (h : SharedBuffer.create bufferDesc format exts memory = .ok sb) :
    sb.Valid := by
  simp only [SharedBuffer.create] at h
  split_ifs at h with hformat _ _ hsmall hlarge
  split at h
  · contradiction
  · rename_i mWfxFormat sampleType config hconv
    split_ifs at h
    obtain rfl := Except.ok.inj h
    obtain ⟨hrate, hblock⟩ := convertAny_keeps hconv
    simp only [validFormat, Bool.not_eq_true', decide_eq_false_iff_not, not_not] at hformat
    obtain ⟨-, -, hmax, hne, -⟩ := hformat
    have hsmall : sizeMin.toNat ≤ _ := UInt32.le_iff_toNat_le.mp (UInt32.not_lt.mp hsmall)
    have hlarge : _ ≤ sizeMax.toNat := UInt32.le_iff_toNat_le.mp (UInt32.not_lt.mp hlarge)
    exact {
      frame_pos := by
        show 0 < mWfxFormat.nBlockAlign.toNat
        rw [hblock]
        exact Nat.pos_of_ne_zero fun h0 ↦ hne (UInt16.toNat_inj.mp h0)
      size_pos := lt_of_lt_of_le (by decide) hsmall
      size_le := hlarge
      dvd_size := by
        show mWfxFormat.nBlockAlign.toNat ∣ _
        rw [hblock]
        exact dvd_bufferSize _ _
      rate_le := by
        show mWfxFormat.nSamplesPerSec.toNat ≤ _
        rw [hrate]
        exact UInt32.le_iff_toNat_le.mp hmax }

end SharedBuffer

/-! ## Tracks -/

/-- What decides where a buffer plays. -/
structure Track where
  storage : SharedBuffer
  /-- The state and the offset of the source. -/
  source : Option (ALState × UInt32) := none
  lastPos : UInt32 := 0

/-- What can happen to a track. -/
inductive TrackEvent where
  /-- The source is deleted. -/
  | drop
  /-- A source is generated. -/
  | gen
  /-- The position is polled. -/
  | poll
  /-- The source is paused and its position polled. -/
  | stop
  | setPosition (newPosition : UInt32)
  /-- OpenAL is asked to start the source, and does so or not. -/
  | start (started : Bool)
  /-- OpenAL mixes the source. -/
  | mix (offset : UInt32) (ended : Bool)

namespace Track

/-- The state of the source. -/
def state (t : Track) : ALState := t.source.elim .initial Prod.fst

/-- `AL_BYTE_OFFSET`. -/
def ioffset (t : Track) : UInt32 :=
  match t.source with
  | some (.playing, offset) | some (.paused, offset) => offset
  | _ => 0

/-- The position a poll finds. -/
def polled (t : Track) : UInt32 := if t.state = .stopped then t.storage.dataSize else t.ioffset

/-- The source after it has been paused. -/
def pausedSource : ALState × UInt32 → ALState × UInt32
  | (.playing, offset) => (.paused, offset)
  | source => source

/-- The source after it has been started, or not; `lastPos` is where a source starts that
has not been played. -/
def startedSource (lastPos : UInt32) (started : Bool) : ALState × UInt32 → ALState × UInt32
  | (.initial, _) => (if started then .playing else .initial, lastPos)
  | (state, offset) => (if started then .playing else state, offset)

/-- The source after it has been mixed. -/
def mixedSource (offset : UInt32) (ended : Bool) : ALState × UInt32 → ALState × UInt32
  | (.playing, _) => if ended then (.stopped, 0) else (.playing, offset)
  | source => source

/-- Rounding down to a whole number of frames. -/
def rounded (sb : SharedBuffer) (newPosition : UInt32) : UInt32 :=
  newPosition - newPosition % sb.mWfxFormat.nBlockAlign.toUInt32

/-- What an event does. -/
def exec (t : Track) : TrackEvent → Track
  | .drop => { t with source := none }
  | .gen => { t with source := some (t.source.getD (.initial, 0)) }
  | .poll => { t with lastPos := t.polled }
  | .stop => { t with source := t.source.map pausedSource, lastPos := t.polled }
  | .setPosition newPosition =>
    let newPosition := rounded t.storage newPosition
    { t with source := t.source.map fun source ↦ (source.1, newPosition), lastPos := newPosition }
  | .start started =>
    if t.state = .playing then t
    else
      let lastPos := t.lastPos % t.storage.dataSize
      { t with source := t.source.map (startedSource lastPos started), lastPos := lastPos }
  | .mix offset ended => { t with source := t.source.map (mixedSource offset ended) }

/-- An event is possible; `A` says which offsets OpenAL may give a source. -/
def Allows (A : SharedBuffer → UInt32 → Prop) (t : Track) : TrackEvent → Prop
  | .setPosition newPosition => newPosition < t.storage.dataSize
  | .mix offset _ => A t.storage offset
  | _ => True

/-- One event. -/
def Step (A : SharedBuffer → UInt32 → Prop) (t : Track) (e : TrackEvent) (t' : Track) : Prop :=
  t.Allows A e ∧ t' = t.exec e

/-- A track that has not been played. -/
def IsNew (t : Track) : Prop := ∃ sb : SharedBuffer, sb.Valid ∧ t = { storage := sb }

/-! ## Invariants -/

variable {A : SharedBuffer → UInt32 → Prop} {t t' : Track} {e : TrackEvent}

theorem storage_exec (t : Track) (e : TrackEvent) : (t.exec e).storage = t.storage := by
  cases e with
  | start started =>
      simp only [exec]
      split_ifs <;> rfl
  | drop | gen | poll | stop | setPosition | mix => rfl

/-- The storage of a track is valid. -/
theorem valid_of_reachable (h : Reachable (Step A) IsNew t) : t.storage.Valid := by
  refine h.invariant (P := fun t ↦ t.storage.Valid) ?_ ?_
  · rintro t ⟨sb, hsb, rfl⟩
    exact hsb
  · rintro t e t' hsb ⟨-, rfl⟩
    rw [storage_exec]
    exact hsb

/-- A position that a source can have: a whole number of frames, up to the end. -/
def InFrames (sb : SharedBuffer) (n : UInt32) : Prop :=
  sb.frameSize ∣ n.toNat ∧ n.toNat ≤ sb.dataSize.toNat

instance (sb : SharedBuffer) (n : UInt32) : Decidable (InFrames sb n) :=
  inferInstanceAs (Decidable (_ ∧ _))

/-- All positions of a track are whole numbers of frames. -/
structure Aligned (t : Track) : Prop where
  valid : t.storage.Valid
  lastPos : InFrames t.storage t.lastPos
  offset : ∀ state n, t.source = some (state, n) → InFrames t.storage n

theorem inFrames_zero (sb : SharedBuffer) : InFrames sb 0 := ⟨Nat.dvd_zero _, Nat.zero_le _⟩

theorem inFrames_mod {sb : SharedBuffer} (hsb : sb.Valid) {n : UInt32} (hn : InFrames sb n) :
    InFrames sb (n % sb.dataSize) := by
  unfold InFrames
  rw [UInt32.toNat_mod]
  exact ⟨(Nat.dvd_mod_iff hsb.dvd_size).mpr hn.1, (Nat.mod_lt _ hsb.size_pos).le⟩

/-- Rounding down in natural numbers. -/
theorem toNat_rounded (sb : SharedBuffer) (n : UInt32) :
    (rounded sb n).toNat = n.toNat - n.toNat % sb.frameSize := by
  have hle : n % sb.mWfxFormat.nBlockAlign.toUInt32 ≤ n := by
    rw [UInt32.le_iff_toNat_le, UInt32.toNat_mod]
    exact Nat.mod_le _ _
  rw [rounded, UInt32.toNat_sub_of_le _ _ hle, UInt32.toNat_mod, UInt16.toNat_toUInt32]

theorem inFrames_rounded {sb : SharedBuffer} {n : UInt32} (hn : n < sb.dataSize) :
    InFrames sb (rounded sb n) := by
  have hlt : n.toNat < sb.dataSize.toNat := UInt32.lt_iff_toNat_lt.mp hn
  unfold InFrames
  rw [toNat_rounded]
  exact ⟨Nat.dvd_sub_mod _, by omega⟩

/-- What a poll finds is a whole number of frames. -/
theorem Aligned.polled (h : t.Aligned) : InFrames t.storage t.polled := by
  unfold Track.polled
  split_ifs
  · exact ⟨h.valid.dvd_size, le_rfl⟩
  · unfold ioffset
    split
    · exact h.offset _ _ ‹_›
    · exact h.offset _ _ ‹_›
    · exact inFrames_zero _

/-- **Every event keeps whole frames**, if OpenAL does. -/
theorem Aligned.step (h : t.Aligned) (hs : Step InFrames t e t') : t'.Aligned := by
  obtain ⟨hallow, rfl⟩ := hs
  have hof : ∀ f : ALState × UInt32 → ALState × UInt32,
      (∀ source, InFrames t.storage source.2 → InFrames t.storage (f source).2) →
      ∀ state n, t.source.map f = some (state, n) → InFrames t.storage n := by
    intro f hf state n hn
    obtain ⟨source, hsource, hfs⟩ := Option.map_eq_some_iff.mp hn
    have hfn := hf source (h.offset source.1 source.2 hsource)
    rwa [hfs] at hfn
  cases e with
  | drop => exact ⟨h.valid, h.lastPos, by rintro state n ⟨⟩⟩
  | gen =>
      refine ⟨h.valid, h.lastPos, fun state n hn ↦ ?_⟩
      cases hsource : t.source with
      | none =>
          simp only [exec, hsource, Option.getD_none] at hn
          cases hn
          exact inFrames_zero _
      | some source =>
          simp only [exec, hsource, Option.getD_some] at hn
          exact h.offset state n (hsource.trans hn)
  | poll => exact ⟨h.valid, h.polled, h.offset⟩
  | stop =>
      refine ⟨h.valid, h.polled, hof pausedSource fun source hn ↦ ?_⟩
      obtain ⟨state, n⟩ := source
      cases state <;> exact hn
  | setPosition newPosition =>
      have hround := inFrames_rounded hallow
      exact ⟨h.valid, hround, hof (fun source ↦ (source.1, _)) fun _ _ ↦ hround⟩
  | start started =>
      simp only [exec]
      split_ifs
      · exact h
      · have hmod := inFrames_mod h.valid h.lastPos
        refine ⟨h.valid, hmod, hof (startedSource _ _) fun source hn ↦ ?_⟩
        obtain ⟨state, n⟩ := source
        cases state with
        | initial => exact hmod
        | playing | paused | stopped => exact hn
  | mix offset ended =>
      refine ⟨h.valid, h.lastPos, hof (mixedSource _ _) fun source hn ↦ ?_⟩
      obtain ⟨state, n⟩ := source
      cases state with
      | playing =>
          simp only [mixedSource]
          split_ifs
          · exact inFrames_zero _
          · exact hallow
      | initial | paused | stopped => exact hn

theorem aligned_of_reachable (h : Reachable (Step InFrames) IsNew t) : t.Aligned := by
  refine h.invariant (P := Aligned) ?_ fun _ _ _ hok hs ↦ hok.step hs
  rintro t ⟨sb, hsb, rfl⟩
  exact ⟨hsb, inFrames_zero sb, by rintro state n ⟨⟩⟩

theorem mod_mod_size (n size : UInt32) : n % size % size = n % size :=
  UInt32.toNat_inj.mp (by simp only [UInt32.toNat_mod, Nat.mod_mod])

/-- The offset of a paused source is the stored position, up to whole laps. -/
def PausedInStep (t : Track) : Prop :=
  ∀ n, t.source = some (.paused, n) → t.lastPos % t.storage.dataSize = n % t.storage.dataSize

/-- **Every event keeps a paused source in step** with the stored position. -/
theorem PausedInStep.step (h : t.PausedInStep) (hs : Step A t e t') : t'.PausedInStep := by
  obtain ⟨-, rfl⟩ := hs
  cases e with
  | drop => rintro n ⟨⟩
  | gen =>
      intro n hn
      cases hsource : t.source with
      | none =>
          simp only [exec, hsource, Option.getD_none] at hn
          cases hn
      | some source =>
          simp only [exec, hsource, Option.getD_some] at hn
          exact h n (hsource.trans hn)
  | poll =>
      intro n hn
      change t.source = _ at hn
      show t.polled % _ = _
      simp only [polled, state, ioffset, hn]
      rfl
  | stop =>
      intro n hn
      obtain ⟨⟨state, offset⟩, hsource, hpaused⟩ := Option.map_eq_some_iff.mp hn
      show t.polled % _ = _
      cases state with
      | playing =>
          cases hpaused
          simp only [polled, Track.state, ioffset, hsource]
          rfl
      | paused =>
          cases hpaused
          simp only [polled, Track.state, ioffset, hsource]
          rfl
      | initial => cases hpaused
      | stopped => cases hpaused
  | setPosition newPosition =>
      intro n hn
      obtain ⟨source, -, hpos⟩ := Option.map_eq_some_iff.mp hn
      obtain ⟨-, rfl⟩ := Prod.mk.inj hpos
      rfl
  | start started =>
      intro n hn
      simp only [exec] at hn ⊢
      split_ifs at hn ⊢
      · exact h n hn
      · obtain ⟨⟨state, offset⟩, hsource, hstart⟩ := Option.map_eq_some_iff.mp hn
        cases state with
        | initial => cases started <;> cases hstart
        | playing => cases started <;> cases hstart
        | stopped => cases started <;> cases hstart
        | paused =>
            cases started <;> cases hstart
            show t.lastPos % t.storage.dataSize % t.storage.dataSize = _
            rw [mod_mod_size]
            exact h n hsource
  | mix offset ended =>
      intro n hn
      obtain ⟨⟨state, offset⟩, hsource, hmix⟩ := Option.map_eq_some_iff.mp hn
      cases state with
      | playing => cases ended <;> cases hmix
      | paused =>
          cases hmix
          exact h n hsource
      | initial => cases hmix
      | stopped => cases hmix

theorem pausedInStep_of_reachable (h : Reachable (Step A) IsNew t) : t.PausedInStep := by
  refine h.invariant (P := PausedInStep) ?_ fun _ _ _ hok hs ↦ hok.step hs
  rintro t ⟨sb, -, rfl⟩ n ⟨⟩

end Track

end Dsoal
