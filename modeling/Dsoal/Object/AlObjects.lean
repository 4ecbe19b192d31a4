import Dsoal.Core.AlObjects
import Dsoal.Lib.RefOwners
import Dsoal.Object.Steps

/-!
# Samples outlive what reads them

Every source is that of one live buffer, an OpenAL buffer is that of one `SharedBuffer`, whose
samples it reads, and a source has no other OpenAL buffer than that of the `SharedBuffer` its
buffer has a reference to.  So when the last reference goes, no source has the OpenAL buffer any
more: it is deleted before the samples are, and with the last buffer everything is gone.
-/

namespace Dsoal

open TransitionSystem RefHeap

namespace AlObjects

variable {c c' : AlContext} {shared shared' : RefHeap ℕ SharedSamples} {live : Finset ℕ}
  {mSource : ℕ → AlName} {mBuffer : ℕ → Option ℕ} {p a : ℕ} {name : AlName}

/-! ## The invariant -/

/-- The sources of the buffers `live` are in `mSource`, and the addresses of their `SharedBuffer`s
in `mBuffer`. -/
structure Sound (c : AlContext) (shared : RefHeap ℕ SharedSamples) (live : Finset ℕ)
    (mSource : ℕ → AlName) (mBuffer : ℕ → Option ℕ) : Prop where
  sources_ne : 0 ∉ c.sources
  source_mem : ∀ p ∈ live, mSource p ≠ 0 → mSource p ∈ c.sources
  source_owned : ∀ src ∈ c.sources, ∃ p ∈ live, mSource p = src
  source_inj : ∀ p ∈ live, ∀ q ∈ live, mSource p ≠ 0 → mSource p = mSource q → p = q
  buffers_ne : 0 ∉ c.buffers
  buffer_mem : ∀ a cell, shared a = some cell → cell.value.mAlBuffer ≠ 0 →
    cell.value.mAlBuffer ∈ c.buffers ∧ c.data cell.value.mAlBuffer = a
  buffer_owned : ∀ b ∈ c.buffers, ∃ cell, shared (c.data b) = some cell ∧
    cell.value.mAlBuffer = b
  counted : shared.Counted (refs live mBuffer)
  attached : ∀ p ∈ live, mSource p ≠ 0 → c.attached (mSource p) = 0 ∨
    ∃ a cell, mBuffer p = some a ∧ shared a = some cell ∧
      c.attached (mSource p) = cell.value.mAlBuffer

namespace Sound

/-- A source that has an OpenAL buffer is that of a buffer with a reference to its samples. -/
theorem exists_of_attached (h : Sound c shared live mSource mBuffer) {src : AlName}
    (hsrc : src ∈ c.sources) (hne : c.attached src ≠ 0) :
    c.attached src ∈ c.buffers ∧
      ∃ p ∈ live, mSource p = src ∧ mBuffer p = some (c.data (c.attached src)) := by
  obtain ⟨p, hp, rfl⟩ := h.source_owned src hsrc
  have hp0 : mSource p ≠ 0 := ne_of_mem_of_not_mem hsrc h.sources_ne
  obtain hzero | ⟨a, cell, ha, hcell, heq⟩ := h.attached p hp hp0
  · exact absurd hzero hne
  · rw [heq] at hne ⊢
    obtain ⟨hmem, hdata⟩ := h.buffer_mem a cell hcell hne
    exact ⟨hmem, p, hp, rfl, ha.trans (congrArg some hdata.symm)⟩

/-! ### Sources -/

/-- `alGenSources` for a buffer without a source. -/
theorem genSource (h : Sound c shared live mSource mBuffer) (hp : p ∈ live)
    (hzero : mSource p = 0) (hname : name ≠ 0) (hfresh : name ∉ c.sources) :
    Sound (c.genSource name) shared live (Function.update mSource p name) mBuffer where
  sources_ne hmem := (Finset.mem_insert.mp hmem).elim (fun heq ↦ hname heq.symm) h.sources_ne
  source_mem q hq hne := by
    by_cases hqp : q = p
    · rw [hqp, Function.update_self]
      exact Finset.mem_insert_self ..
    · rw [Function.update_of_ne hqp] at hne ⊢
      exact Finset.mem_insert_of_mem (h.source_mem q hq hne)
  source_owned src hsrc := by
    rcases Finset.mem_insert.mp hsrc with rfl | hsrc
    · exact ⟨p, hp, Function.update_self ..⟩
    · obtain ⟨q, hq, rfl⟩ := h.source_owned src hsrc
      have hqp : q ≠ p := by
        rintro rfl
        exact h.sources_ne (hzero ▸ hsrc)
      exact ⟨q, hq, Function.update_of_ne hqp ..⟩
  source_inj q hq r hr hne heq := by
    have hold : ∀ q ∈ live, q ≠ p → Function.update mSource p name q = name → False := by
      intro q hq hqp hqn
      rw [Function.update_of_ne hqp] at hqn
      exact hfresh (hqn ▸ h.source_mem q hq (hqn ▸ hname))
    by_cases hqp : q = p <;> by_cases hrp : r = p
    · rw [hqp, hrp]
    · rw [hqp, Function.update_self] at heq
      exact (hold r hr hrp heq.symm).elim
    · rw [hrp, Function.update_self] at heq
      exact (hold q hq hqp heq).elim
    · rw [Function.update_of_ne hqp] at hne heq
      rw [Function.update_of_ne hrp] at heq
      exact h.source_inj q hq r hr hne heq
  buffers_ne := h.buffers_ne
  buffer_mem := h.buffer_mem
  buffer_owned := h.buffer_owned
  counted := h.counted
  attached q hq hne := by
    by_cases hqp : q = p
    · rw [hqp, Function.update_self]
      exact .inl (Function.update_self ..)
    · rw [Function.update_of_ne hqp] at hne ⊢
      have hold : mSource q ≠ name := fun heq ↦ hfresh (heq ▸ h.source_mem q hq hne)
      have hsame : (c.genSource name).attached (mSource q) = c.attached (mSource q) :=
        Function.update_of_ne hold ..
      rw [hsame]
      exact h.attached q hq hne

/-- `alDeleteSources` for the source of a buffer. -/
theorem deleteSource (h : Sound c shared live mSource mBuffer) (hp : p ∈ live)
    (hpos : mSource p ≠ 0) :
    Sound (c.deleteSource (mSource p)) shared live (Function.update mSource p 0) mBuffer where
  sources_ne hmem := h.sources_ne (Finset.mem_of_mem_erase hmem)
  source_mem q hq hne := by
    by_cases hqp : q = p
    · rw [hqp, Function.update_self] at hne
      exact absurd rfl hne
    · rw [Function.update_of_ne hqp] at hne ⊢
      refine Finset.mem_erase.mpr ⟨fun heq ↦ hqp (h.source_inj q hq p hp hne heq), ?_⟩
      exact h.source_mem q hq hne
  source_owned src hsrc := by
    obtain ⟨hne, hsrc⟩ := Finset.mem_erase.mp hsrc
    obtain ⟨q, hq, rfl⟩ := h.source_owned src hsrc
    have hqp : q ≠ p := by
      rintro rfl
      exact hne rfl
    exact ⟨q, hq, Function.update_of_ne hqp ..⟩
  source_inj q hq r hr hne heq := by
    by_cases hqp : q = p
    · rw [hqp, Function.update_self] at hne
      exact absurd rfl hne
    · rw [Function.update_of_ne hqp] at hne heq
      by_cases hrp : r = p
      · rw [hrp, Function.update_self] at heq
        exact absurd heq hne
      · rw [Function.update_of_ne hrp] at heq
        exact h.source_inj q hq r hr hne heq
  buffers_ne := h.buffers_ne
  buffer_mem := h.buffer_mem
  buffer_owned := h.buffer_owned
  counted := h.counted
  attached q hq hne := by
    by_cases hqp : q = p
    · rw [hqp, Function.update_self] at hne
      exact absurd rfl hne
    · rw [Function.update_of_ne hqp] at hne ⊢
      exact h.attached q hq hne

/-- The states of sources do not matter. -/
theorem setState (h : Sound c shared live mSource mBuffer) (src : AlName) (st : ALState) :
    Sound (c.setState src st) shared live mSource mBuffer :=
  ⟨h.sources_ne, h.source_mem, h.source_owned, h.source_inj, h.buffers_ne, h.buffer_mem,
    h.buffer_owned, h.counted, h.attached⟩

/-- `Play` attaches the OpenAL buffer of the samples. -/
theorem attach (h : Sound c shared live mSource mBuffer) (hp : p ∈ live)
    {cell : RefCell SharedSamples} (ha : mBuffer p = some a) (hcell : shared a = some cell) :
    Sound (c.attach (mSource p) cell.value.mAlBuffer) shared live mSource mBuffer := by
  unfold AlContext.attach
  split
  · refine ⟨h.sources_ne, h.source_mem, h.source_owned, h.source_inj, h.buffers_ne, h.buffer_mem,
      h.buffer_owned, h.counted, fun q hq hne ↦ ?_⟩
    by_cases hqp : q = p
    · rw [hqp]
      exact .inr ⟨a, cell, ha, hcell, Function.update_self ..⟩
    · have hother : mSource q ≠ mSource p := fun heq ↦ hqp (h.source_inj q hq p hp hne heq)
      have hsame : Function.update c.attached (mSource p) cell.value.mAlBuffer (mSource q) =
          c.attached (mSource q) := Function.update_of_ne hother ..
      dsimp only
      rw [hsame]
      exact h.attached q hq hne
  · exact h

/-! ### `SharedBuffer`s -/

/-- The same `SharedBuffer`s, up to their counters. -/
theorem exists_value (hvalue : ∀ b, (shared' b).map RefCell.value = (shared b).map RefCell.value)
    {cell : RefCell SharedSamples} (hcell : shared' a = some cell) :
    ∃ cell', shared a = some cell' ∧ cell'.value = cell.value := by
  have ha := hvalue a
  rw [hcell] at ha
  exact Option.map_eq_some_iff.mp ha.symm

/-- A new buffer, with a reference to the samples of another one or none. -/
theorem construct (h : Sound c shared live mSource mBuffer) (hp : p ∉ live) {o : Option ℕ}
    (hcounted : shared'.Counted (refs (insert p live) (Function.update mBuffer p o)))
    (hvalue : ∀ b, (shared' b).map RefCell.value = (shared b).map RefCell.value) :
    Sound c shared' (insert p live) (Function.update mSource p 0)
      (Function.update mBuffer p o) := by
  have hne : ∀ q ∈ live, q ≠ p := fun q hq ↦ ne_of_mem_of_not_mem hq hp
  have hlive : ∀ q ∈ insert p live, Function.update mSource p 0 q ≠ 0 →
      q ∈ live ∧ Function.update mSource p 0 q = mSource q := by
    intro q hq hsrc
    by_cases hqp : q = p
    · rw [hqp, Function.update_self] at hsrc
      exact absurd rfl hsrc
    · exact ⟨Finset.mem_of_mem_insert_of_ne hq hqp, Function.update_of_ne hqp ..⟩
  refine ⟨h.sources_ne, fun q hq hsrc ↦ ?_, fun src hsrc ↦ ?_, fun q hq r hr hsrc heq ↦ ?_,
    h.buffers_ne, fun b cell hcell hal ↦ ?_, fun b hb ↦ ?_, hcounted, fun q hq hsrc ↦ ?_⟩
  · obtain ⟨hq, hsame⟩ := hlive q hq hsrc
    rw [hsame] at hsrc ⊢
    exact h.source_mem q hq hsrc
  · obtain ⟨q, hq, rfl⟩ := h.source_owned src hsrc
    exact ⟨q, Finset.mem_insert_of_mem hq, Function.update_of_ne (hne q hq) ..⟩
  · obtain ⟨hq, hsame⟩ := hlive q hq hsrc
    obtain ⟨hr, hsame'⟩ := hlive r hr (heq ▸ hsrc)
    rw [hsame] at hsrc heq
    rw [hsame'] at heq
    exact h.source_inj q hq r hr hsrc heq
  · obtain ⟨cell', hcell', heq⟩ := exists_value hvalue hcell
    rw [← heq] at hal ⊢
    exact h.buffer_mem b cell' hcell' hal
  · obtain ⟨cell, hcell, heq⟩ := h.buffer_owned b hb
    obtain ⟨cell', hcell', heq'⟩ := exists_value (fun b ↦ (hvalue b).symm) hcell
    exact ⟨cell', hcell', heq' ▸ heq⟩
  · obtain ⟨hq, hsame⟩ := hlive q hq hsrc
    rw [hsame] at hsrc ⊢
    obtain hzero | ⟨b, cell, hb, hcell, heq⟩ := h.attached q hq hsrc
    · exact .inl hzero
    · obtain ⟨cell', hcell', heq'⟩ := exists_value (fun b ↦ (hvalue b).symm) hcell
      refine .inr ⟨b, cell', ?_, hcell', heq' ▸ heq⟩
      rw [Function.update_of_ne (hne q hq), hb]

/-- New samples, without an OpenAL buffer or with a new one. -/
theorem create (h : Sound c shared live mSource mBuffer) (hp : p ∈ live) (hnone : mBuffer p = none)
    (hfree : shared a = none) (samples : SharedSamples)
    (hname : samples.mAlBuffer = 0 ∨ samples.mAlBuffer ∉ c.buffers) :
    Sound (if samples.mAlBuffer = 0 then c else c.genBuffer samples.mAlBuffer a)
      (shared.alloc a samples) live mSource (Function.update mBuffer p (some a)) := by
  set c' := if samples.mAlBuffer = 0 then c else c.genBuffer samples.mAlBuffer a with hc'
  have hsources : c'.sources = c.sources := by rw [hc']; split <;> rfl
  have hattached : c'.attached = c.attached := by rw [hc']; split <;> rfl
  have hbuffers : ∀ b, b ∈ c'.buffers ↔ b ∈ c.buffers ∨ b = samples.mAlBuffer ∧ b ≠ 0 := by
    intro b
    rw [hc']
    split
    · rename_i hzero
      rw [hzero]
      simp
    · rename_i hne
      rw [AlContext.genBuffer, Finset.mem_insert]
      constructor
      · rintro (rfl | hb)
        · exact .inr ⟨rfl, hne⟩
        · exact .inl hb
      · rintro (hb | ⟨hb, -⟩)
        · exact .inr hb
        · exact .inl hb
  have hdata : ∀ b ∈ c.buffers, c'.data b = c.data b := by
    intro b hb
    rw [hc']
    split
    · rfl
    · rename_i hne
      exact Function.update_of_ne (ne_of_mem_of_not_mem hb (hname.resolve_left hne)) ..
  have hnew : samples.mAlBuffer ≠ 0 → c'.data samples.mAlBuffer = a := by
    intro hne
    rw [hc', if_neg hne]
    exact Function.update_self ..
  have hcell : ∀ b cell, shared b = some cell → (shared.alloc a samples) b = some cell := by
    intro b cell hb
    refine (Function.update_of_ne ?_ ..).trans hb
    rintro rfl
    rw [hfree] at hb
    cases hb
  have hself : (shared.alloc a samples) a = some ⟨1, samples⟩ := Function.update_self ..
  refine ⟨hsources ▸ h.sources_ne, hsources ▸ h.source_mem, hsources ▸ h.source_owned,
    h.source_inj, fun hzero ↦ ?_, fun b cell hb hal ↦ ?_, fun b hb ↦ ?_, ?_, fun q hq hsrc ↦ ?_⟩
  · rcases (hbuffers 0).mp hzero with hzero | ⟨-, hne⟩
    · exact h.buffers_ne hzero
    · exact hne rfl
  · by_cases hba : b = a
    · rw [hba, hself] at hb
      obtain rfl := Option.some.inj hb
      exact ⟨(hbuffers _).mpr (.inr ⟨rfl, hal⟩), hba ▸ hnew hal⟩
    · have hold : shared b = some cell := (Function.update_of_ne hba ..).symm.trans hb
      obtain ⟨hmem, heq⟩ := h.buffer_mem b cell hold hal
      exact ⟨(hbuffers _).mpr (.inl hmem), (hdata _ hmem).trans heq⟩
  · rcases (hbuffers b).mp hb with hold | ⟨rfl, hne⟩
    · obtain ⟨cell, hcell', heq⟩ := h.buffer_owned b hold
      refine ⟨cell, ?_, heq⟩
      rw [hdata b hold]
      exact hcell _ _ hcell'
    · rw [hnew hne]
      exact ⟨_, hself, rfl⟩
  · have hcount : ∀ b, refs live (Function.update mBuffer p (some a)) b =
        refs live mBuffer b + if some a = some b then 1 else 0 := by
      intro b
      have hrefs : refs live (Function.update mBuffer p (some a)) b +
          (if mBuffer p = some b then 1 else 0) =
            refs live mBuffer b + if some a = some b then 1 else 0 := refs_update hp (some a)
      simpa [hnone] using hrefs
    refine h.counted.alloc ?_ fun b hb ↦ ?_
    · rw [hcount, if_pos rfl, h.counted.eq_none_iff.mp hfree]
    · rw [hcount, if_neg fun heq ↦ hb (Option.some.inj heq).symm]
      rfl
  · rw [hattached]
    obtain hzero | ⟨b, cell, hb, hcell', heq⟩ := h.attached q hq hsrc
    · exact .inl hzero
    · refine .inr ⟨b, cell, ?_, hcell _ _ hcell', heq⟩
      have hqp : q ≠ p := by
        rintro rfl
        rw [hnone] at hb
        cases hb
      rw [Function.update_of_ne hqp, hb]

/-- The samples a buffer had a reference to have no source any more when they go. -/
theorem not_attached (h : Sound c shared live mSource mBuffer) (hp : p ∈ live)
    (hsrc : mSource p = 0) (hlast : refs (live.erase p) mBuffer a = 0)
    {cell : RefCell SharedSamples} (hcell : shared a = some cell)
    (hne : cell.value.mAlBuffer ≠ 0) :
    ¬ ∃ src ∈ c.sources, c.attached src = cell.value.mAlBuffer := by
  rintro ⟨src, hmem, heq⟩
  obtain ⟨-, q, hq, hqsrc, hqa⟩ := h.exists_of_attached hmem (heq ▸ hne)
  have hqp : q ≠ p := by
    rintro rfl
    exact h.sources_ne (hsrc ▸ hqsrc ▸ hmem)
  rw [heq, (h.buffer_mem a cell hcell hne).2] at hqa
  exact (refs_pos (Finset.mem_erase.mpr ⟨hqp, hq⟩) hqa).ne' hlast

/-- A buffer without a source goes, and the `SharedBuffer`s stay. -/
theorem leave (h : Sound c shared live mSource mBuffer) (hsrc : mSource p = 0)
    (hcounted : shared'.Counted (refs (live.erase p) mBuffer))
    (hvalue : ∀ b, (shared' b).map RefCell.value = (shared b).map RefCell.value) :
    Sound c shared' (live.erase p) mSource mBuffer where
  sources_ne := h.sources_ne
  source_mem q hq := h.source_mem q (Finset.mem_of_mem_erase hq)
  source_owned src hmem := by
    obtain ⟨q, hq, rfl⟩ := h.source_owned src hmem
    refine ⟨q, Finset.mem_erase.mpr ⟨?_, hq⟩, rfl⟩
    rintro rfl
    exact h.sources_ne (hsrc ▸ hmem)
  source_inj q hq r hr :=
    h.source_inj q (Finset.mem_of_mem_erase hq) r (Finset.mem_of_mem_erase hr)
  buffers_ne := h.buffers_ne
  buffer_mem b cell hcell hal := by
    obtain ⟨cell', hcell', heq⟩ := exists_value hvalue hcell
    rw [← heq] at hal ⊢
    exact h.buffer_mem b cell' hcell' hal
  buffer_owned b hb := by
    obtain ⟨cell, hcell, heq⟩ := h.buffer_owned b hb
    obtain ⟨cell', hcell', heq'⟩ := exists_value (fun b ↦ (hvalue b).symm) hcell
    exact ⟨cell', hcell', heq' ▸ heq⟩
  counted := hcounted
  attached q hq hne := by
    obtain hzero | ⟨b, cell, hb, hcell, heq⟩ := h.attached q (Finset.mem_of_mem_erase hq) hne
    · exact .inl hzero
    · obtain ⟨cell', hcell', heq'⟩ := exists_value (fun b ↦ (hvalue b).symm) hcell
      exact .inr ⟨b, cell', hb, hcell', heq' ▸ heq⟩

/-- The last reference to samples goes with the buffer: their OpenAL buffer is deleted. -/
theorem leaveLast (h : Sound c shared live mSource mBuffer) (hp : p ∈ live) (hsrc : mSource p = 0)
    (hcounted : shared'.Counted (refs (live.erase p) mBuffer))
    (hlast : refs (live.erase p) mBuffer a = 0) {cell : RefCell SharedSamples}
    (hcell : shared a = some cell) (hgone : shared' a = none)
    (helse : ∀ b, b ≠ a → shared' b = shared b) :
    Sound (if cell.value.mAlBuffer ≠ 0 then c.deleteBuffer cell.value.mAlBuffer else c) shared'
      (live.erase p) mSource mBuffer := by
  have hcontext : (if cell.value.mAlBuffer ≠ 0 then c.deleteBuffer cell.value.mAlBuffer else c) =
      { c with buffers := c.buffers.erase cell.value.mAlBuffer } := by
    split
    · rename_i hne
      exact if_neg (h.not_attached hp hsrc hlast hcell hne)
    · rename_i hzero
      rw [not_not.mp hzero, Finset.erase_eq_of_notMem h.buffers_ne]
  rw [hcontext]
  refine ⟨h.sources_ne, fun q hq ↦ h.source_mem q (Finset.mem_of_mem_erase hq), fun src hmem ↦ ?_,
    fun q hq r hr ↦ h.source_inj q (Finset.mem_of_mem_erase hq) r (Finset.mem_of_mem_erase hr),
    fun hzero ↦ h.buffers_ne (Finset.mem_of_mem_erase hzero), fun b cell' hcell' hal ↦ ?_,
    fun b hb ↦ ?_, hcounted, fun q hq hne ↦ ?_⟩
  · obtain ⟨q, hq, rfl⟩ := h.source_owned src hmem
    refine ⟨q, Finset.mem_erase.mpr ⟨?_, hq⟩, rfl⟩
    rintro rfl
    exact h.sources_ne (hsrc ▸ hmem)
  · have hba : b ≠ a := by
      rintro rfl
      rw [hgone] at hcell'
      cases hcell'
    rw [helse b hba] at hcell'
    obtain ⟨hmem, hdata⟩ := h.buffer_mem b cell' hcell' hal
    refine ⟨Finset.mem_erase.mpr ⟨fun heq ↦ hba ?_, hmem⟩, hdata⟩
    rw [← hdata, heq]
    exact (h.buffer_mem a cell hcell (heq ▸ hal)).2
  · obtain ⟨hne, hmem⟩ := Finset.mem_erase.mp hb
    obtain ⟨cell', hcell', heq⟩ := h.buffer_owned b hmem
    have hba : c.data b ≠ a := by
      intro hda
      rw [hda, hcell] at hcell'
      obtain rfl := Option.some.inj hcell'
      exact hne heq.symm
    exact ⟨cell', (helse _ hba).trans hcell', heq⟩
  · obtain hzero | ⟨b, cell', hb, hcell', heq⟩ := h.attached q (Finset.mem_of_mem_erase hq) hne
    · exact .inl hzero
    · have hba : b ≠ a := by
        rintro rfl
        exact (refs_pos hq hb).ne' hlast
      exact .inr ⟨b, cell', hb, (helse b hba).trans hcell', heq⟩

end Sound

/-! ## The methods -/

variable {s s' : AlObjects} {b : BufferObjects} {source : AlName} {hr : HResult}
  {env : LocationOutcome} {want : LocStatus} {op : AlObjectsOp}

/-- The sources of the buffers. -/
def sourceOf (s : AlObjects) (p : ℕ) : AlName := (s.buffer p).mSource

/-- The references of the buffers. -/
def samplesOf (s : AlObjects) (p : ℕ) : Option ℕ := (s.buffer p).mBuffer

/-- The invariant. -/
def Ok (s : AlObjects) : Prop := Sound s.context s.shared s.live s.sourceOf s.samplesOf

theorem sourceOf_setBuffer (s : AlObjects) (p : ℕ) (b : BufferObjects) :
    (s.setBuffer p b).sourceOf = Function.update s.sourceOf p b.mSource := by
  funext q
  by_cases hqp : q = p
  · simp [sourceOf, setBuffer, hqp]
  · simp [sourceOf, setBuffer, hqp]

theorem samplesOf_setBuffer (s : AlObjects) (p : ℕ) (b : BufferObjects) :
    (s.setBuffer p b).samplesOf = Function.update s.samplesOf p b.mBuffer := by
  funext q
  by_cases hqp : q = p
  · simp [samplesOf, setBuffer, hqp]
  · simp [samplesOf, setBuffer, hqp]

/-- A buffer that keeps its source and its reference. -/
theorem Ok.keep (h : s.Ok) (hsource : b.mSource = (s.buffer p).mSource)
    (hbuffer : b.mBuffer = (s.buffer p).mBuffer) : (s.setBuffer p b).Ok := by
  have hs : Function.update s.sourceOf p b.mSource = s.sourceOf := by
    rw [hsource]
    exact Function.update_eq_self ..
  have hb : Function.update s.samplesOf p b.mBuffer = s.samplesOf := by
    rw [hbuffer]
    exact Function.update_eq_self ..
  rw [Ok, sourceOf_setBuffer, samplesOf_setBuffer, hs, hb]
  exact h

/-- A buffer gets a source. -/
theorem Ok.genSourceAt (h : s.Ok) (hp : p ∈ s.live) (hfresh : s.FreshSource source) :
    (s.genSourceAt p source).Ok := by
  unfold AlObjects.genSourceAt
  split
  · rename_i hgen
    have hkeep : Function.update s.samplesOf p (s.buffer p).mBuffer = s.samplesOf :=
      Function.update_eq_self ..
    have hnew := Sound.genSource h hp hgen.1 hgen.2 (hfresh.resolve_left hgen.2)
    show Sound (s.context.genSource source) s.shared s.live (s.setBuffer p _).sourceOf
      (s.setBuffer p _).samplesOf
    rw [sourceOf_setBuffer, samplesOf_setBuffer, hkeep]
    exact hnew
  · exact h

/-- A buffer gives up its source. -/
theorem Ok.deleteSourceAt (h : s.Ok) (hp : p ∈ s.live) : (s.deleteSourceAt p).Ok := by
  unfold AlObjects.deleteSourceAt
  split
  · rename_i hne
    have hkeep : Function.update s.samplesOf p (s.buffer p).mBuffer = s.samplesOf :=
      Function.update_eq_self ..
    show Sound (s.context.deleteSource (s.buffer p).mSource) s.shared s.live
      (s.setBuffer p _).sourceOf (s.setBuffer p _).samplesOf
    rw [sourceOf_setBuffer, samplesOf_setBuffer, hkeep]
    exact Sound.deleteSource h hp hne
  · exact h

@[simp] theorem live_genSourceAt (s : AlObjects) (p : ℕ) (source : AlName) :
    (s.genSourceAt p source).live = s.live := by
  unfold AlObjects.genSourceAt
  split <;> rfl

@[simp] theorem live_deleteSourceAt (s : AlObjects) (p : ℕ) :
    (s.deleteSourceAt p).live = s.live := by
  unfold AlObjects.deleteSourceAt
  split <;> rfl

/-- The source is gone. -/
theorem sourceOf_deleteSourceAt (s : AlObjects) (p : ℕ) : (s.deleteSourceAt p).sourceOf p = 0 := by
  unfold AlObjects.deleteSourceAt
  split
  · show (s.setBuffer p _).sourceOf p = 0
    rw [sourceOf_setBuffer, Function.update_self]
  · rename_i hzero
    exact not_not.mp hzero

/-- A new name is new when a source has been deleted. -/
theorem FreshSource.deleteSourceAt (h : s.FreshSource source) (p : ℕ) :
    (s.deleteSourceAt p).FreshSource source := by
  refine h.imp_right fun hnot ↦ ?_
  unfold AlObjects.deleteSourceAt
  split
  · exact fun hmem ↦ hnot (Finset.mem_of_mem_erase hmem)
  · exact hnot

/-- `setLocation`. -/
theorem Ok.setLocation (h : s.Ok) (want : LocStatus) (hp : p ∈ s.live)
    (hfresh : s.FreshSource env.source) :
    (s.setLocation p want env).2.Ok ∧ (s.setLocation p want env).2.live = s.live := by
  unfold AlObjects.setLocation
  split
  · exact ⟨h, rfl⟩
  split
  · exact ⟨h, rfl⟩
  set s' := if (s.buffer p).mLocStatus ≠ .none then
      let s := s.deleteSourceAt p
      s.setBuffer p { s.buffer p with mLocStatus := .none }
    else s with hs'
  have hleft : s'.Ok ∧ s'.live = s.live ∧ s'.FreshSource env.source := by
    rw [hs']
    split
    · exact ⟨(h.deleteSourceAt hp).keep rfl rfl, live_deleteSourceAt s p, hfresh.deleteSourceAt p⟩
    · exact ⟨h, rfl, hfresh⟩
  obtain ⟨hok, hlive, hfresh'⟩ := hleft
  cases findPool env want with
  | none => exact ⟨hok, hlive⟩
  | some k =>
      refine ⟨(hok.genSourceAt (hlive ▸ hp) hfresh').keep rfl rfl, ?_⟩
      exact (live_genSourceAt s' p env.source).trans hlive

/-! ### Construction and destruction -/

theorem construct_of_none {is8 : Bool} {original : Option ℕ}
    (ho : original.bind s.samplesOf = none) : s.construct p is8 original =
      some { s.setBuffer p { mIs8 := is8, mBuffer := none } with live := insert p s.live } := by
  change (original.bind fun orig ↦ (s.buffer orig).mBuffer) = none at ho
  simp only [AlObjects.construct, ho]

theorem construct_of_some {is8 : Bool} {original : Option ℕ} {a : ℕ}
    (ho : original.bind s.samplesOf = some a) : s.construct p is8 original =
      (s.shared.addRef a).map fun shared ↦
        { s.setBuffer p { mIs8 := is8, mBuffer := some a } with
          live := insert p s.live, shared := shared } := by
  change (original.bind fun orig ↦ (s.buffer orig).mBuffer) = some a at ho
  simp only [AlObjects.construct, ho]
  rfl

/-- The constructor. -/
theorem Ok.construct (h : s.Ok) (hp : p ∉ s.live) {is8 : Bool} {original : Option ℕ}
    (horig : ∀ orig ∈ original, orig ∈ s.live) :
    ∃ s', s.construct p is8 original = some s' ∧ s'.Ok := by
  set o := original.bind s.samplesOf with ho
  have hrefs : ∀ b, refs (insert p s.live) (Function.update s.samplesOf p o) b =
      refs s.live s.samplesOf b + if o = some b then 1 else 0 := by
    intro b
    have hold : refs s.live (Function.update s.samplesOf p o) b = refs s.live s.samplesOf b :=
      refs_congr fun q hq ↦ Function.update_of_ne (ne_of_mem_of_not_mem hq hp) ..
    rw [refs_insert hp, hold, Function.update_self]
  have hresult : ∀ shared : RefHeap ℕ SharedSamples,
      shared.Counted (refs (insert p s.live) (Function.update s.samplesOf p o)) →
      (∀ b, (shared b).map RefCell.value = (s.shared b).map RefCell.value) →
      Ok { s.setBuffer p { mIs8 := is8, mBuffer := o } with
        live := insert p s.live, shared := shared } := by
    intro shared hcounted hvalue
    have hnew := Sound.construct h hp hcounted hvalue
    show Sound s.context shared (insert p s.live) (s.setBuffer p _).sourceOf
      (s.setBuffer p _).samplesOf
    rw [sourceOf_setBuffer, samplesOf_setBuffer]
    exact hnew
  cases hcase : o with
  | none =>
      refine ⟨_, construct_of_none (ho.symm.trans hcase), ?_⟩
      rw [← hcase]
      refine hresult s.shared (h.counted.congr fun b ↦ ?_) fun _ ↦ rfl
      rw [hrefs, hcase]
      rfl
  | some a =>
      obtain ⟨orig, horig', ha⟩ := Option.bind_eq_some_iff.mp (ho.symm.trans hcase)
      have hpos : 0 < refs s.live s.samplesOf a := refs_pos (horig orig horig') ha
      have hone : refs (insert p s.live) (Function.update s.samplesOf p o) a =
          refs s.live s.samplesOf a + 1 := by rw [hrefs, hcase, if_pos rfl]
      have hrest : ∀ b, b ≠ a → refs (insert p s.live) (Function.update s.samplesOf p o) b =
          refs s.live s.samplesOf b := by
        intro b hb
        rw [hrefs, hcase, if_neg fun heq ↦ hb (Option.some.inj heq).symm]
        rfl
      obtain ⟨shared, hadd, hcounted, hvalue⟩ := h.counted.addRef hpos hone hrest
      rw [construct_of_some (ho.symm.trans hcase), hadd, ← hcase]
      exact ⟨_, rfl, hresult shared hcounted hvalue⟩

theorem destroy_of_none (hnone : (s.deleteSourceAt p).samplesOf p = none) : s.destroy p =
    some { s.deleteSourceAt p with live := (s.deleteSourceAt p).live.erase p } := by
  change ((s.deleteSourceAt p).buffer p).mBuffer = none at hnone
  simp only [AlObjects.destroy, hnone]

theorem destroy_of_some {a : ℕ} (hsome : (s.deleteSourceAt p).samplesOf p = some a) :
    s.destroy p =
      releaseShared { s.deleteSourceAt p with live := (s.deleteSourceAt p).live.erase p } a := by
  change ((s.deleteSourceAt p).buffer p).mBuffer = some a at hsome
  simp only [AlObjects.destroy, hsome]

/-- The destructor. -/
theorem Ok.destroy (h : s.Ok) (hp : p ∈ s.live) : ∃ s', s.destroy p = some s' ∧ s'.Ok := by
  have hok := h.deleteSourceAt hp
  have hp' : p ∈ (s.deleteSourceAt p).live := (live_deleteSourceAt s p).symm ▸ hp
  have hsrc := sourceOf_deleteSourceAt s p
  have hof_none := destroy_of_none (s := s) (p := p)
  have hof_some := fun a ↦ destroy_of_some (s := s) (p := p) (a := a)
  set t := s.deleteSourceAt p
  have herase : ∀ b, refs (t.live.erase p) t.samplesOf b +
      (if t.samplesOf p = some b then 1 else 0) = refs t.live t.samplesOf b := fun b ↦
    refs_erase hp'
  cases hcase : t.samplesOf p with
  | none =>
      have hrest : ∀ b, refs (t.live.erase p) t.samplesOf b = refs t.live t.samplesOf b := by
        intro b
        have hb := herase b
        rw [hcase] at hb
        simpa using hb
      exact ⟨_, hof_none hcase, Sound.leave hok hsrc (hok.counted.congr hrest) fun _ ↦ rfl⟩
  | some a =>
      have ha := herase a
      rw [hcase, if_pos rfl] at ha
      have hrest : ∀ b, b ≠ a →
          refs (t.live.erase p) t.samplesOf b = refs t.live t.samplesOf b := by
        intro b hb
        have hb' := herase b
        rw [hcase, if_neg fun heq ↦ hb (Option.some.inj heq).symm] at hb'
        exact hb'
      have hpos : 0 < refs t.live t.samplesOf a := by omega
      obtain ⟨freed, shared, hrel, hcounted, hcell, helse⟩ := hok.counted.release hpos ha hrest
      rw [hof_some a hcase]
      unfold releaseShared
      simp only [hrel, Option.bind_eq_bind, Option.bind_some]
      rcases hcell with ⟨hlast, hgone, cell, hcell, rfl⟩ | ⟨-, rfl, hvalue⟩
      · have hleft := Sound.leaveLast hok hp' hsrc hcounted hlast hcell hgone helse
        dsimp only
        split
        · rename_i hne
          rw [if_pos hne] at hleft
          exact ⟨_, rfl, hleft⟩
        · rename_i hzero
          rw [if_neg hzero] at hleft
          exact ⟨_, rfl, hleft⟩
      · refine ⟨_, rfl, Sound.leave hok hsrc hcounted fun b ↦ ?_⟩
        by_cases hb : b = a
        · rw [hb]
          exact hvalue
        · exact congrArg _ (helse b hb)

/-! ### Initialization -/

/-- Where `Initialize` has its samples from. -/
theorem Ok.obtainShared (h : s.Ok) (hp : p ∈ s.live) (dsBufferDesc : Option BufferDesc)
    (exts : Extensions) {samples : SamplesOutcome} (hfresh : s.FreshSamples samples) :
    (s.obtainShared p dsBufferDesc exts samples).2.Ok ∧
      (s.obtainShared p dsBufferDesc exts samples).2.live = s.live ∧
      (s.obtainShared p dsBufferDesc exts samples).2.context.sources = s.context.sources := by
  unfold AlObjects.obtainShared
  split
  · exact ⟨h, rfl, rfl⟩
  · exact ⟨h, rfl, rfl⟩
  rename_i desc hnone
  split
  · exact ⟨h, rfl, rfl⟩
  split
  · exact ⟨h, rfl, rfl⟩
  unfold createShared
  split
  · exact ⟨h, rfl, rfl⟩
  rename_i sb _
  have hkeep : Function.update s.sourceOf p (s.buffer p).mSource = s.sourceOf :=
    Function.update_eq_self ..
  have hnew := Sound.create h hp hnone (Option.isNone_iff_eq_none.mp hfresh.1)
    { mAlBuffer := samples.alBuffer, mFlags := sb.mFlags } hfresh.2
  refine ⟨?_, rfl, ?_⟩
  · show Sound _ _ s.live (s.setBuffer p _).sourceOf (s.setBuffer p _).samplesOf
    rw [sourceOf_setBuffer, samplesOf_setBuffer, hkeep]
    exact hnew
  · dsimp only
    split <;> rfl

/-- `Initialize`. -/
theorem Ok.initializeBuffer (h : s.Ok) (hp : p ∈ s.live) {dsBufferDesc : Option BufferDesc}
    {exts : Extensions} {samples : SamplesOutcome} (hsamples : s.FreshSamples samples)
    (hfresh : s.FreshSource env.source)
    (hc : s.initializeBuffer p dsBufferDesc exts samples env = some (hr, s')) : s'.Ok := by
  unfold AlObjects.initializeBuffer at hc
  split at hc
  · cases hc
    exact h
  obtain ⟨hok, hlive, hsources⟩ := h.obtainShared hp dsBufferDesc exts hsamples
  generalize s.obtainShared p dsBufferDesc exts samples = obtained at hc hok hlive hsources
  obtain ⟨hr', t⟩ := obtained
  dsimp only at hc hok hlive hsources
  split at hc
  · cases hc
    exact hok
  obtain ⟨mFlags, -, hc⟩ := Option.bind_eq_some_iff.mp hc
  have hfresh' : t.FreshSource env.source := by
    unfold AlObjects.FreshSource
    rw [hsources]
    exact hfresh
  have hlocated : Ok (if hasFlag mFlags Caps.locDefer then ((.ok, t) : HResult × AlObjects)
      else t.setLocation p (Buffer.describedLocation mFlags) env).2 := by
    split
    · exact hok
    · exact (hok.setLocation _ (hlive ▸ hp) hfresh').1
  cases hc
  exact hlocated.keep rfl rfl

/-! ### Playing -/

/-- The states of sources do not matter. -/
theorem Ok.setState (h : s.Ok) (src : AlName) (st : ALState) :
    Ok { s with context := s.context.setState src st } := Sound.setState h src st

/-- `Play`, from the first call of `alSourcei` on. -/
theorem Ok.start (h : s.Ok) (hp : p ∈ s.live) {started : Bool}
    (hc : s.start p started = some (hr, s')) : s'.Ok := by
  obtain ⟨a, ha, hc⟩ := Option.bind_eq_some_iff.mp hc
  obtain ⟨cell, hcell, hc⟩ := Option.bind_eq_some_iff.mp hc
  have hattach : ∀ (st : ALState) (context : AlContext),
      (if st = .initial then s.context.attach (s.buffer p).mSource cell.value.mAlBuffer
        else s.context) = context → Ok { s with context := context } := by
    rintro st context rfl
    split
    · exact Sound.attach h hp ha hcell
    · exact h
  dsimp only at hc
  split at hc
  · cases hc
    exact h
  · cases hc
    exact h
  · split at hc
    · cases hc
      exact (hattach _ _ rfl).setState _ _
    · cases hc
      exact hattach _ _ rfl

/-- `Play`. -/
theorem Ok.play (h : s.Ok) (hp : p ∈ s.live) {priority flags : UInt32} {started : Bool}
    (hfresh : s.FreshSource env.source)
    (hc : s.play p priority flags env started = some (hr, s')) : s'.Ok := by
  obtain ⟨mFlags, -, hc⟩ := Option.bind_eq_some_iff.mp hc
  split at hc
  · split at hc
    · cases hc
      exact h
    · dsimp only at hc
      split at hc
      · cases hc
        exact h
      · obtain ⟨hok, hlive⟩ := h.setLocation (Buffer.wantedLocation flags) hp hfresh
        split at hc
        · cases hc
          exact hok
        · exact hok.start (hlive ▸ hp) hc
  · split at hc
    · cases hc
      exact h
    · exact h.start hp hc

/-- `AcquireResources`. -/
theorem Ok.acquireResources (h : s.Ok) (hp : p ∈ s.live) {flags : UInt32}
    (hfresh : s.FreshSource env.source)
    (hc : s.acquireResources p flags env = some (hr, s')) : s'.Ok := by
  obtain ⟨mFlags, -, hc⟩ := Option.bind_eq_some_iff.mp hc
  split at hc
  · split at hc
    · cases hc
      exact h
    · dsimp only at hc
      split at hc
      · cases hc
        exact h
      · have hok := (h.setLocation (Buffer.wantedLocation flags) hp hfresh).1
        rw [Option.some.inj hc] at hok
        exact hok
  · cases hc
    exact h

/-! ## Every run -/

/-- **Step lemma**. -/
theorem Ok.exec (h : s.Ok) (hlegal : s.Legal op) (hc : s.exec op = some s') : s'.Ok := by
  cases op with
  | construct p is8 original =>
      obtain ⟨t, ht, hok⟩ := h.construct hlegal.1 hlegal.2
      obtain rfl : t = s' := Option.some.inj (ht.symm.trans hc)
      exact hok
  | initializeBuffer p dsBufferDesc exts samples env =>
      obtain ⟨⟨hr, t⟩, hinit, rfl⟩ := Option.map_eq_some_iff.mp hc
      exact h.initializeBuffer hlegal.1 hlegal.2.1 hlegal.2.2 hinit
  | play p priority flags env started =>
      obtain ⟨⟨hr, t⟩, hplay, rfl⟩ := Option.map_eq_some_iff.mp hc
      exact h.play hlegal.1 hlegal.2 hplay
  | acquireResources p flags env =>
      obtain ⟨⟨hr, t⟩, hacquire, rfl⟩ := Option.map_eq_some_iff.mp hc
      exact h.acquireResources hlegal.1 hlegal.2 hacquire
  | stop p =>
      cases hc
      unfold pauseAt
      dsimp only
      split
      · exact h.setState _ _
      · exact h
  | propSet p source =>
      cases hc
      exact h.genSourceAt hlegal.1 hlegal.2
  | ended src =>
      cases hc
      exact h.setState _ _
  | destroy p =>
      obtain ⟨t, ht, hok⟩ := h.destroy hlegal
      obtain rfl : t = s' := Option.some.inj (ht.symm.trans hc)
      exact hok

theorem IsNew.ok (h : s.IsNew) : s.Ok := by
  subst h
  refine ⟨Finset.notMem_empty _, ?_, ?_, ?_, Finset.notMem_empty _, nofun, ?_,
    fun _ ↦ .inl ⟨rfl, rfl⟩, ?_⟩
  · exact fun p hp ↦ absurd hp (Finset.notMem_empty p)
  · exact fun src hsrc ↦ absurd hsrc (Finset.notMem_empty src)
  · exact fun p hp ↦ absurd hp (Finset.notMem_empty p)
  · exact fun b hb ↦ absurd hb (Finset.notMem_empty b)
  · exact fun p hp ↦ absurd hp (Finset.notMem_empty p)

/-- **Run lemma**. -/
theorem ok_of_reachable (h : Reachable AlObjectsStep IsNew s) : s.Ok :=
  h.invariant (fun _ ↦ IsNew.ok) fun _ _ _ hok hs ↦ hok.exec hs.1 hs.2

/-- **OpenAL reads no samples that are gone, and nothing is left behind.**  In every reachable
state an OpenAL buffer that exists reads the samples of a live `SharedBuffer`, which is counted
once by each buffer that has a reference to it, and a source is that of a live buffer and has no
OpenAL buffer or the one of this buffer's samples.  A buffer can always be destroyed; when all
are, there is no source, no OpenAL buffer and no `SharedBuffer`. -/
theorem samples_outlive_readers (h : Reachable AlObjectsStep IsNew s) :
    (∀ b ∈ s.context.buffers, ∃ cell, s.shared (s.context.data b) = some cell ∧
      cell.value.mAlBuffer = b ∧
      cell.count = (s.live.filter fun p ↦ (s.buffer p).mBuffer = some (s.context.data b)).card) ∧
    (∀ src ∈ s.context.sources, ∃ p ∈ s.live, (s.buffer p).mSource = src ∧
      (∀ q ∈ s.live, (s.buffer q).mSource = src → q = p) ∧
      (s.context.attached src = 0 ∨ s.context.attached src ∈ s.context.buffers ∧
        (s.buffer p).mBuffer = some (s.context.data (s.context.attached src)))) ∧
    (∀ p ∈ s.live, (s.destroy p).isSome) ∧
    (s.live = ∅ → s.context.sources = ∅ ∧ s.context.buffers = ∅ ∧ ∀ a, s.shared a = none) := by
  have hok := ok_of_reachable h
  refine ⟨fun b hb ↦ ?_, fun src hsrc ↦ ?_, fun p hp ↦ ?_, fun hlive ↦ ?_⟩
  · obtain ⟨cell, hcell, heq⟩ := hok.buffer_owned b hb
    refine ⟨cell, hcell, heq, ?_⟩
    rw [hok.counted.count_eq hcell, refs, Finset.card_filter]
    rfl
  · obtain ⟨p, hp, rfl⟩ := hok.source_owned src hsrc
    have hne : s.sourceOf p ≠ 0 := ne_of_mem_of_not_mem hsrc hok.sources_ne
    have hunique : ∀ q ∈ s.live, (s.buffer q).mSource = s.sourceOf p → q = p :=
      fun q hq heq ↦ (hok.source_inj p hp q hq hne heq.symm).symm
    refine ⟨p, hp, rfl, hunique, ?_⟩
    by_cases hzero : s.context.attached (s.sourceOf p) = 0
    · exact .inl hzero
    · obtain ⟨hmem, q, hq, hqp, hdata⟩ := hok.exists_of_attached hsrc hzero
      rw [hunique q hq hqp] at hdata
      exact .inr ⟨hmem, hdata⟩
  · obtain ⟨t, ht, -⟩ := hok.destroy hp
    rw [ht]
    rfl
  · have hzero : ∀ a, s.shared a = none := by
      intro a
      rw [hok.counted.eq_none_iff, hlive]
      rfl
    refine ⟨Finset.eq_empty_of_forall_notMem fun src hsrc ↦ ?_,
      Finset.eq_empty_of_forall_notMem fun b hb ↦ ?_, hzero⟩
    · obtain ⟨p, hp, -⟩ := hok.source_owned src hsrc
      rw [hlive] at hp
      exact absurd hp (Finset.notMem_empty p)
    · obtain ⟨cell, hcell, -⟩ := hok.buffer_owned b hb
      rw [hzero] at hcell
      cases hcell

/-- A legal step of a run. -/
theorem step_of (h : Reachable AlObjectsStep IsNew s) (op : AlObjectsOp) (hlegal : s.Legal op)
    (hc : s.exec op = some s') : Reachable AlObjectsStep IsNew s' := h.step ⟨hlegal, hc⟩

/-- An original is destroyed while its duplicate plays. -/
theorem samples_outlive_readers_duplicate : ∃ s, Reachable AlObjectsStep IsNew s ∧
    s.live = {1} ∧ s.context.buffers = {1} ∧ s.context.sources = {2} ∧ s.context.attached 2 = 1 ∧
    ∀ b ∈ s.context.buffers, ∃ cell, s.shared (s.context.data b) = some cell ∧
      cell.value.mAlBuffer = b ∧
      cell.count = (s.live.filter fun p ↦ (s.buffer p).mBuffer = some (s.context.data b)).card := by
  have h : Reachable AlObjectsStep IsNew {} := .init rfl
  have h := step_of h (.construct 0 true none) ⟨by decide, nofun⟩ rfl
  have h := step_of h (.initializeBuffer 0 (some (monoDesc 0)) {} ⟨true, 4096, 1⟩ ⟨true, true, 1⟩)
    ⟨by decide, by decide, by decide⟩ rfl
  have h := step_of h (.construct 1 true (some 0)) ⟨by decide, by decide⟩ rfl
  have h := step_of h (.initializeBuffer 1 none {} ⟨true, 8192, 2⟩ ⟨true, true, 2⟩)
    ⟨by decide, by decide, by decide⟩ rfl
  have h := step_of h (.play 1 0 0 ⟨true, true, 3⟩ true) ⟨by decide, by decide⟩ rfl
  have h := step_of h (.destroy 0) (show 0 ∈ _ by decide) rfl
  exact ⟨_, h, by decide, by decide, by decide, rfl, (samples_outlive_readers h).1⟩

end AlObjects

end Dsoal
