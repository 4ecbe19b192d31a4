import Dsoal.Object.Steps

/-!
# Sources show the state of their buffers

The result of `Params/Render` for whole runs: in every reachable state the source of
every located buffer has the attributes that `Buffer.render` gives for the state of
the buffer.
-/

namespace Dsoal

open TransitionSystem DSound8OAL

variable [Abi] {s : DSound8OAL}

/-- The source of a buffer has the attributes its state calls for. -/
def Buffer.Rendered (exts : Extensions) (rolloff : Float32) (b : Buffer) : Prop :=
  ∃ sb src, b.mBuffer = some sb ∧ b.mSource = some src ∧ src.attrs = b.render exts rolloff sb

omit [Abi] in
theorem Buffer.Ok.rendered {exts : Extensions} {rolloff : Float32} {b : Buffer}
    (h : b.Ok exts rolloff) (hloc : b.mLocStatus ≠ .none) : b.Rendered exts rolloff := by
  obtain ⟨sb, hsb, -⟩ := h.storage
  obtain ⟨src, hsrc⟩ := Option.isSome_iff_exists.mp (h.located hloc)
  exact ⟨sb, src, hsb, hsrc, (h.shows sb src hsb hsrc).located hloc⟩

/-- **The source of every located buffer renders the state of the buffer**, in every
reachable state; this includes the write-emulation buffer. -/
theorem sources_rendered (h : Reachable DSoundStep IsNew s) :
    (∀ p b, s.getBuffer p = some b → b.mLocStatus ≠ .none →
      b.Rendered s.mExtensions s.mPrimaryBuffer.mImmediate.flRolloffFactor) ∧
    ∀ b, s.mPrimaryBuffer.mWriteEmu = some b → b.mLocStatus ≠ .none →
      b.Rendered s.mExtensions s.mPrimaryBuffer.mImmediate.flRolloffFactor := by
  have hok := ok_of_reachable h
  constructor
  · intro p b hb hloc
    exact (hok.buffers p b hb).1.rendered hloc
  · intro b hb hloc
    exact (hok.writeEmu b hb).1.rendered hloc

omit [Abi] in
set_option maxRecDepth 4000 in
/-- A 3D buffer in the hardware pool whose mode is changed. -/
theorem sources_rendered_one :
    letI : Abi := ⟨⟨600, by decide⟩⟩
    ∃ s, Reachable DSoundStep IsNew s ∧ ∃ b, s.getBuffer ⟨4096, 0⟩ = some b ∧
      b.mImmediate.dwMode = Mode.disable ∧
      b.Rendered s.mExtensions s.mPrimaryBuffer.mImmediate.flRolloffFactor := by
  let _ : Abi := ⟨⟨600, by decide⟩⟩
  have h0 : Reachable DSoundStep IsNew (DSound8OAL.new true) := .init ⟨true, rfl⟩
  have h1 := h0.step (i := initializeOne) ⟨initializeOne_legal true, _, rfl⟩
  have h2 := h1.step (i := createMono (Caps.ctrl3D ||| Caps.locHardware)) ⟨createMono_legal _ _, _, rfl⟩
  have h3 := h2.step (i := Op.buffer ⟨4096, 0⟩ (.call3D (.setMode Mode.disable) ds3dImmediate))
    ⟨trivial, _, rfl⟩
  exact ⟨_, h3, _, rfl, rfl, (sources_rendered h3).1 ⟨4096, 0⟩ _ rfl (by decide)⟩

end Dsoal
