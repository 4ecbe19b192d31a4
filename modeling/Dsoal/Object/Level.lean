import Dsoal.Object.Steps

/-!
# Write access to the primary buffer

An application with the level `DSSCL_WRITEPRIMARY` writes to the primary buffer
itself, and its secondary buffers are lost: `SetCooperativeLevel` marks them when the
level is entered, and `Restore` refuses to undo that.  A buffer created at that level
is not marked, however.  In the runs in which none is created, the secondary buffers
are lost (`write_primary_loses_buffers`), and any step that creates one breaks that.
-/

namespace Dsoal

open TransitionSystem DSound8OAL

namespace DSound8OAL

variable [Abi] {s s' : DSound8OAL} {op : Op}

/-- With write access to the primary buffer, every secondary buffer is lost. -/
def LosesBuffers (s : DSound8OAL) : Prop :=
  s.mPrioLevel = Level.writePrimary → ∀ p b, s.getBuffer p = some b → b.mBufferLost

/-- The step creates a secondary buffer at the level `DSSCL_WRITEPRIMARY`. -/
def CreatesUnderWritePrimary (s : DSound8OAL) (op : Op) : Prop :=
  s.mPrioLevel = Level.writePrimary ∧ s.Creates op

/-- **Step lemma**: the buffers stay lost, unless one is created. -/
theorem LosesBuffers.step (h : s.Ok) (hlost : s.LosesBuffers)
    (hop : ¬ s.CreatesUnderWritePrimary op) (hs : DSoundStep s op s') : s'.LosesBuffers := by
  have hof : ∀ t : DSound8OAL, s.Keeps t → s.mPrioLevel = Level.writePrimary → ∀ p b,
      t.getBuffer p = some b → b.mBufferLost := by
    intro t hk hl p b' hb'
    obtain ⟨b, hb, hpers⟩ := hk.buffer_of hb'
    exact hpers.lost hl (hlost hl p b hb)
  cases hs.outcome h with
  | keeps hk =>
      intro hl
      exact hof s' hk (hk.level ▸ hl)
  | created p b hc hcr =>
      intro hl
      exact absurd ⟨hc.level ▸ hl, hcr⟩ hop
  | removed p hr =>
      intro hl q b hb
      have hqp : q ≠ p := by
        intro hqp
        rw [hqp, hr.gone] at hb
        cases hb
      exact hlost (hr.level ▸ hl) q b (hr.others q hqp ▸ hb)
  | levels level hlv =>
      intro hl
      have hlevel : level = Level.writePrimary := by
        obtain ⟨⟨s₁, -, rfl⟩, -⟩ := hlv
        exact hl
      by_cases hw : s.mPrioLevel = Level.writePrimary
      · obtain ⟨⟨s₁, hk, rfl⟩, -⟩ := hlv
        exact hof s₁ hk hw
      · exact hlv.lost hlevel hw
  | initialized hi =>
      intro _ p b hb
      rw [hi.empty] at hb
      cases hb

/-- **Run lemma**: if no buffer is created at that level, all buffers are lost. -/
theorem losesBuffers_of_reachable
    (h : Reachable (guarded (fun s op ↦ ¬ s.CreatesUnderWritePrimary op) DSoundStep) IsNew s) :
    s.LosesBuffers := by
  refine Reachable.invariant_of (fun t ht ↦ ok_of_reachable ht.of_guarded) ?_ ?_ h
  · rintro t ⟨is8, rfl⟩ hl
    have h0 : (0 : UInt32) = Level.writePrimary := hl
    exact absurd h0 (by decide)
  · intro t op t' hok hlost hs
    exact hlost.step hok hs.1 hs.2

/-- A lost buffer is not playing, and refuses to play. -/
theorem Ok.lost (h : s.Ok) {p : Ptr} {b : Buffer} (hb : s.getBuffer p = some b)
    (hl : b.mBufferLost) : isPlaying b.mSource = false ∧ ∀ priority flags started,
      (s.play p priority flags started).map Prod.fst = some .bufferLost := by
  refine ⟨(h.buffers p b hb).1.lost hl, fun priority flags started ↦ ?_⟩
  obtain ⟨dev, hdev⟩ := Option.isSome_iff_exists.mp (h.shared p b hb)
  simp [DSound8OAL.play, Buffer.play, hb, hdev, hl]

end DSound8OAL

variable [Abi] {s : DSound8OAL}

/-- **At the level `DSSCL_WRITEPRIMARY` every secondary buffer is lost**, so that it is
not playing and `Play` returns `DSERR_BUFFERLOST`, in every state of a run in which no
secondary buffer is created at that level; and any step that creates one ends in a
state with a buffer that is not lost. -/
theorem write_primary_loses_buffers
    (h : Reachable (guarded (fun s op ↦ ¬ s.CreatesUnderWritePrimary op) DSoundStep) IsNew s) :
    (s.mPrioLevel = Level.writePrimary → ∀ p b, s.getBuffer p = some b →
      b.mBufferLost ∧ isPlaying b.mSource = false ∧ ∀ priority flags started,
        (s.play p priority flags started).map Prod.fst = some .bufferLost) ∧
    ∀ op s', DSoundStep s op s' → (s'.LosesBuffers ↔ ¬ s.CreatesUnderWritePrimary op) := by
  have hok := ok_of_reachable h.of_guarded
  have hlost := losesBuffers_of_reachable h
  refine ⟨fun hl p b hb ↦ ⟨hlost hl p b hb, hok.lost hb (hlost hl p b hb)⟩, fun op s' hs ↦
    ⟨?_, fun hop ↦ hlost.step hok hop hs⟩⟩
  rintro hlost' ⟨hl, hcr⟩
  obtain ⟨p, b, hc⟩ : ∃ p b, s.Created p b s' := by
    cases hs.outcome hok with
    | created p b hc => exact ⟨p, b, hc⟩
    | keeps _ hop => exact absurd hcr hop
    | removed p _ hop =>
        subst hop
        cases hcr
    | levels _ _ hop => exact absurd hcr hop
    | initialized _ hop => exact absurd hcr hop
  have hb := hlost' (hc.level.trans hl) p b hc.buffer
  rw [hc.lost] at hb
  cases hb

omit [Abi] in
set_option maxRecDepth 4000 in
/-- A buffer is created, and then lost when the level is entered. -/
theorem write_primary_loses_buffers_one :
    letI : Abi := ⟨⟨600, by decide⟩⟩
    ∃ s, Reachable (guarded (fun s op ↦ ¬ s.CreatesUnderWritePrimary op) DSoundStep) IsNew s ∧
      s.mPrioLevel = Level.writePrimary ∧ ∃ b, s.getBuffer ⟨4096, 0⟩ = some b ∧
      b.mBufferLost ∧ isPlaying b.mSource = false := by
  let _ : Abi := ⟨⟨600, by decide⟩⟩
  have h0 : Reachable (guarded (fun s op ↦ ¬ s.CreatesUnderWritePrimary op) DSoundStep) IsNew
      (DSound8OAL.new true) := .init ⟨true, rfl⟩
  have h1 := h0.step (i := initializeOne)
    ⟨fun hc ↦ hc.2, initializeOne_legal true, _, rfl⟩
  have h2 := h1.step (i := createMono Caps.locHardware)
    ⟨fun hc ↦ absurd hc.1 (by decide), createMono_legal _ _, _, rfl⟩
  have h3 := h2.step (i := Op.setCooperativeLevel Level.writePrimary {})
    ⟨fun hc ↦ hc.2, trivial, _, rfl⟩
  obtain ⟨hlost, hplay, -⟩ := (write_primary_loses_buffers h3).1 rfl ⟨4096, 0⟩ _ rfl
  exact ⟨_, h3, rfl, _, rfl, hlost, hplay⟩

omit [Abi] in
set_option maxRecDepth 4000 in
/-- A buffer created at the level `DSSCL_WRITEPRIMARY` is not lost, and plays. -/
theorem write_primary_buffer_plays :
    letI : Abi := ⟨⟨600, by decide⟩⟩
    ∃ s, Reachable DSoundStep IsNew s ∧ s.mPrioLevel = Level.writePrimary ∧
      ∃ b, s.getBuffer ⟨4096, 0⟩ = some b ∧ b.mBufferLost = false ∧ isPlaying b.mSource := by
  let _ : Abi := ⟨⟨600, by decide⟩⟩
  have h0 : Reachable DSoundStep IsNew (DSound8OAL.new true) := .init ⟨true, rfl⟩
  have h1 := h0.step (i := initializeOne) ⟨initializeOne_legal true, _, rfl⟩
  have h2 := h1.step (i := Op.setCooperativeLevel Level.writePrimary {}) ⟨trivial, _, rfl⟩
  have h3 := h2.step (i := createMono Caps.locHardware) ⟨createMono_legal _ _, _, rfl⟩
  have h4 := h3.step (i := Op.play ⟨4096, 0⟩ 0 0 true) ⟨trivial, _, rfl⟩
  exact ⟨_, h4, rfl, _, rfl, rfl, rfl⟩

end Dsoal
