import Mathlib.Tactic
import GasMachine.Proofs.Account
/-
The watermark of the memory bill.

`memoryPaid` follows the memory: between two steps it is the cost of exactly the words there are, and neither of the
two ever falls. Charging and growing are done at different moments of a step, and a run can end in between: a store
that finds its offset but not its value is paid for and then faults. `memory_watermark` says that this is the only way
in which a run ends with more memory paid for than it has.
-/
namespace GasMachine.State

/-- the run from `s` halts in a store that was paid for and found only its offset on the stack, with its range ending
beyond the memory -/
def HaltsUnperformed (s : State) : Prop :=
  ∃ ps t p offset, ∃ h : t.pc < t.code.size, Reaches s ps t ∧ t.prepare h = .ok p ∧
    (p.instruction = .mstore ∨ p.instruction = .mstore8) ∧ p.state.stack.words = [offset] ∧
    p.state.memory.bytes.size < offset.toNat + p.instruction.writes ∧
    p.instruction.perform p.state = .fault .stackUnderflow p.state ∧ s.execute = .fault .stackUnderflow p.state

/-- an end with more memory paid for than there is -/
theorem Ends.unperformed {limit : UInt64} {s : State} {ps : List Paid} {out : Outcome} (he : Ends s ps out)
    (hs : Sound limit s) (hlt : Gas.price out.state.memory.words < out.state.memoryPaid.toNat) :
    HaltsUnperformed s := by
  have hex := he.execute
  cases he with
  | done hr hd => exact absurd (hr.sound hs).1.paid hlt.ne'
  | refused h hr hp => exact absurd ((hr.sound hs).1.refused hp).1.paid hlt.ne'
  | @failed ps p t u e h hr hp hf =>
    have ht := (hr.sound hs).1
    have hb := prepare_bill ht hp
    have hwhole := hb.whole ht.whole
    obtain ⟨rfl, hstore⟩ := Instruction.perform_fault hb.inRange hf
    simp only [Outcome.state, hb.paid, hb.memory] at hlt
    -- what is paid for reaches beyond the memory, so the instruction is a store, and has an offset
    have hgrow : t.memory.words < wordsFor (p.instruction.writeEnd p.state) := by
      by_contra hn
      rw [max_eq_left (by omega)] at hlt
      exact absurd hlt (lt_irrefl _)
    have hst : p.instruction.writes ≠ 0 := by
      intro h0
      rw [Instruction.writeEnd_of_writes_eq_zero h0] at hgrow
      exact absurd hgrow (Nat.not_lt_zero _)
    obtain ⟨rfl, hlen⟩ := hstore hst
    rcases hw : p.state.stack.words with _ | ⟨offset, _ | ⟨value, rest⟩⟩
    · rw [Instruction.writeEnd_nil _ hw] at hgrow
      exact absurd hgrow (Nat.not_lt_zero _)
    · refine ⟨ps, t, p, offset, h, hr, hp, p.instruction.writes_ne_zero_iff.1 hst, hw, ?_, hf, hex⟩
      rw [← hwhole.lt_wordsFor_iff, hb.memory, ← Instruction.writeEnd_cons hst hw]
      exact hgrow
    · rw [hw] at hlen; simp at hlen

/-- and the other way round -/
theorem HaltsUnperformed.paid_lt {limit : UInt64} {s : State} (hs : Sound limit s) (hu : HaltsUnperformed s) :
    Gas.price s.execute.state.memory.words < s.execute.state.memoryPaid.toNat := by
  obtain ⟨ps, t, p, offset, h, hr, hp, hi, hw, hbeyond, -, hex⟩ := hu
  have ht := (hr.sound hs).1
  have hb := prepare_bill ht hp
  have hwhole := hb.whole ht.whole
  have hst := p.instruction.writes_ne_zero_iff.2 hi
  rw [hex, Outcome.state, hb.paid, ← hb.memory]
  apply Gas.price_strictMono
  rw [lt_max_iff, Instruction.writeEnd_cons hst hw, hwhole.lt_wordsFor_iff]
  exact .inr hbeyond

/-! ## In the counts of the machine -/

theorem Sound.watermark {limit : UInt64} {s : State} (h : Sound limit s) :
    s.memoryPaid = Gas.memoryCost s.memory.wordLength := by
  rw [← UInt64.toNat_inj, h.paid, h.whole.memoryCost_toNat]

theorem Halted.cost_le {limit : UInt64} {s : State} (h : Halted limit s) :
    Gas.memoryCost s.memory.wordLength ≤ s.memoryPaid ∧ Gas.memoryCost s.memory.wordLength ≤ s.gasUsed ∧
      s.gasUsed ≤ limit := by
  have h1 := h.paid
  have h2 := h.covered
  have h3 := h.conserved
  simp only [UInt64.le_iff_toNat_le, h.whole.memoryCost_toNat]
  exact ⟨h1, by omega, by omega⟩

/-- a memory with at least as many words is at least as long, and costs at least as much -/
theorem byteLength_le {s t : State} (hs : s.memory.Whole) (ht : t.memory.Whole)
    (h : s.memory.words ≤ t.memory.words) : s.memory.byteLength ≤ t.memory.byteLength := by
  rw [UInt64.le_iff_toNat_le, hs.byteLength_toNat, ht.byteLength_toNat, hs.size_eq, ht.size_eq]
  omega

theorem memoryPaid_le {limit : UInt64} {s t : State} (hs : Sound limit s) (ht : Halted limit t)
    (h : s.memory.words ≤ t.memory.words) : s.memoryPaid ≤ t.memoryPaid := by
  rw [UInt64.le_iff_toNat_le, hs.paid]
  exact (Gas.price_mono h).trans ht.paid

/-- **The watermark follows the memory.** Between two steps of a run the memory is a number of whole words within the
bound, paid for to the word, and neither it nor what is paid for it falls from there on. Where the run ends the bounds
still hold; a run that succeeds has paid for exactly its memory, and a run has paid for more than its memory if and only
if it halts in a store that finds its offset and not its value, with its range ending beyond the memory. -/
theorem memory_watermark (code : Bytes) (gasLimit : UInt64) :
    let final := (run code gasLimit).state
    (∀ ps s, Reaches (start code gasLimit) ps s →
      s.memory.Whole ∧ s.memoryPaid = Gas.memoryCost s.memory.wordLength ∧
      Gas.memoryCost s.memory.wordLength ≤ s.gasUsed ∧ s.gasUsed ≤ gasLimit ∧
      (∀ qs t, Reaches s qs t → s.memory.byteLength ≤ t.memory.byteLength ∧ s.memoryPaid ≤ t.memoryPaid) ∧
      s.memory.byteLength ≤ final.memory.byteLength ∧ s.memoryPaid ≤ final.memoryPaid) ∧
    final.memory.Whole ∧ Gas.memoryCost final.memory.wordLength ≤ final.memoryPaid ∧
    Gas.memoryCost final.memory.wordLength ≤ final.gasUsed ∧ final.gasUsed ≤ gasLimit ∧
    ((run code gasLimit).fault? = none → final.memoryPaid = Gas.memoryCost final.memory.wordLength) ∧
    (Gas.memoryCost final.memory.wordLength < final.memoryPaid ↔ HaltsUnperformed (start code gasLimit)) := by
  intro final
  have hstart := sound_start code gasLimit
  have hends := ends_run code gasLimit
  constructor
  · intro ps s hr
    obtain ⟨hs, -⟩ := hr.sound hstart
    obtain ⟨-, hcost, hused⟩ := hs.halted.cost_le
    refine ⟨hs.whole, hs.watermark, hcost, hused, ?_, ?_⟩
    · intro qs t hq
      obtain ⟨ht, hle⟩ := hq.sound hs
      exact ⟨byteLength_le hs.whole ht.whole hle, memoryPaid_le hs ht.halted hle⟩
    · -- the run goes on from `s` to its end
      have hrest := ends_history s
      rw [history_outcome, ← hr.execute] at hrest
      obtain ⟨hend, hle⟩ := hrest.halted hs
      exact ⟨byteLength_le hs.whole hend.whole hle, memoryPaid_le hs hend hle⟩
  · obtain ⟨hh, -⟩ := hends.halted hstart
    obtain ⟨hpaid, hcost, hused⟩ := hh.cost_le
    have hiff : Gas.memoryCost final.memory.wordLength < final.memoryPaid ↔ HaltsUnperformed (start code gasLimit) := by
      rw [UInt64.lt_iff_toNat_lt, hh.whole.memoryCost_toNat]
      exact ⟨hends.unperformed hstart, fun hu => hu.paid_lt hstart⟩
    refine ⟨hh.whole, hpaid, hcost, hused, ?_, hiff⟩
    intro hok
    cases hout : run code gasLimit with
    | ok t =>
      rw [hout] at hends
      have hs := (hends.reaches.sound hstart).1
      simp only [final, hout, Outcome.state]
      exact hs.watermark
    | fault e t => rw [hout] at hok; cases hok

/-- the shortest run that pays for memory and does not get it: an offset, and a store without a value -/
theorem unperformed_without_value : HaltsUnperformed (start #[0x60, 0x00, 0x52] 100) := by
  obtain ⟨-, -, -, -, -, -, hiff⟩ := memory_watermark #[0x60, 0x00, 0x52] 100
  exact hiff.1 (by decide +kernel)

end GasMachine.State
