import Mathlib.Tactic
import GasMachine.Proofs.Account
/-
What a store is billed for is what it does.

The charge of a store and the store itself look at the offset separately, with checks of their own. On any memory both
refuse exactly the writes that end beyond the bound (`memoryExpansion_refuses_iff`, `perform_refuses_iff`). On a whole
memory a write within it is let through by both, and the cost billed is the cost of the memory that the store leaves, or
nothing if it leaves the size alone (`store_billed`). So once it is paid for, a store can only lack its value
(`paid_store_fault`).

A word is read from code only as what a push reads, and no push in code reads more than 32 bytes: no run ends for a
word that is too long (`step_ne_wordOverflow`).
-/
namespace GasMachine

namespace Instruction

section Store

variable {i : Instruction} {s : State} {offset value : Word} {rest : List Word}

theorem memoryExpansion_refuses_iff (hop : s.opcode = i.opcode) (hi : i.writes ≠ 0)
    (hw : s.stack.words = offset :: value :: rest) :
    Gas.memoryExpansion s = .error .gasOverflow ↔ Memory.maxSize.toNat < offset.toNat + i.writes := by
  have hsize := writeSize_of_opcode hop hi
  rcases Gas.memoryExpansion_outcome s with ⟨hnil, -⟩ | ⟨offset', rest', hw', h⟩
  · rw [hw] at hnil; cases hnil
  · rw [hw] at hw'; cases hw'
    rw [hsize] at h
    rcases h with ⟨hlt, he⟩ | ⟨hle, size, -, -, he⟩
    · exact iff_of_true he hlt
    · exact iff_of_false (by rw [he]; exact nofun) (by omega)

theorem perform_refuses_iff (hi : i.writes ≠ 0) (hw : s.stack.words = offset :: value :: rest) :
    (∃ u, i.perform s = .fault .gasOverflow u) ↔ Memory.maxSize.toNat < offset.toNat + i.writes := by
  rcases perform_kind i with ⟨hz, -⟩ | ⟨-, bytes, hp, hbytes⟩ | ⟨hz, -⟩
  · exact absurd hz hi
  · rw [hp]
    rcases store_outcome i.writes_le hbytes s with ⟨hlen, -⟩ | ⟨offset', value', rest', hw', h⟩
    · rw [hw] at hlen; simp at hlen
    · rw [hw] at hw'; cases hw'
      rcases h with ⟨hlt, he⟩ | ⟨hle, m, he, -⟩
      · exact iff_of_true ⟨_, he⟩ hlt
      · exact iff_of_false (by rw [he]; exact nofun) (by omega)
  · exact absurd hz hi

/-- a store within the bound is let through on both sides, and billed up to the memory it leaves -/
theorem store_billed (hop : s.opcode = i.opcode) (hi : i.writes ≠ 0) (hm : s.memory.Whole)
    (hw : s.stack.words = offset :: value :: rest) (hle : offset.toNat + i.writes ≤ Memory.maxSize.toNat) :
    ∃ t, i.perform s = .ok t ∧ t.memory.Whole ∧
      t.memory.words = max s.memory.words (wordsFor (offset.toNat + i.writes)) ∧
      Gas.memoryExpansion s = .ok (if s.memory.words < t.memory.words then
        ⟨Checked.sub (Gas.memoryCost t.memory.wordLength) s.memoryPaid, some (Gas.memoryCost t.memory.wordLength)⟩
        else Gas.free) := by
  have hend := writeEnd_cons hi hw
  rcases i.perform_cases s with ⟨e, -, hstore, -⟩ | ⟨hlt, -⟩ | ⟨t, ht, hgrown⟩
  · have hlen := (hstore hi).2
    rw [hw] at hlen; simp at hlen
  · omega
  · obtain ⟨hwhole, hwords⟩ := hgrown hm
    rw [hend] at hwords
    refine ⟨t, ht, hwhole, hwords, ?_⟩
    rcases Gas.memoryExpansion_cases s hm with ⟨hnil, -⟩ | ⟨offset', rest', hw', h⟩
    · rw [hw] at hnil; cases hnil
    · rw [hw] at hw'; cases hw'
      rw [writeSize_of_opcode hop hi] at h
      rcases h with ⟨hlt, -⟩ | ⟨-, hfit, he⟩ | ⟨-, hgrow, cost, hcost, he⟩
      · omega
      · rw [he, if_neg (by omega)]
      · have hnew : cost = Gas.memoryCost t.memory.wordLength := by
          rw [← UInt64.toNat_inj, hcost, hwhole.memoryCost_toNat, hwords, max_eq_right hgrow.le]
        rw [he, if_pos (by omega), hnew]

end Store

/-- an instruction that stands in code never finds a word too long -/
theorem perform_ne_wordOverflow {i : Instruction} {s : State} (hop : s.opcode = i.opcode) (u : State) :
    i.perform s ≠ .fault .wordOverflow u := by
  intro hf
  rcases perform_kind i with ⟨-, op, hi⟩ | ⟨-, bytes, hi, hbytes⟩ | ⟨-, hi, hwidth⟩
  · rw [hi] at hf
    rcases binary_cases op s with ⟨-, he⟩ | ⟨a, b, rest, -, he⟩
    · rw [he] at hf; cases hf
    · rw [he] at hf; cases hf
  · rw [hi] at hf
    rcases store_outcome i.writes_le hbytes s with ⟨-, he⟩ | ⟨offset, value, rest, -, ⟨-, he⟩ | ⟨-, m, he, -⟩⟩
    · rw [he] at hf; cases hf
    · rw [he] at hf; cases hf
    · rw [he] at hf; cases hf
  · rw [hi] at hf
    rcases push_cases s (by rw [width, hop]; exact hwidth) with ⟨-, he⟩ | ⟨-, -, he⟩ | ⟨-, -, he⟩
    · rw [he] at hf; cases hf
    · rw [he] at hf; cases hf
    · rw [he] at hf; cases hf

end Instruction

namespace State

/-- from any state, a store that is paid for faults only if the offset is the one word there is -/
theorem paid_store_fault {s u : State} {h : s.pc < s.code.size} {p : Paid} {e : Fault} (hp : s.prepare h = .ok p)
    (hi : p.instruction.writes ≠ 0) (hf : p.instruction.perform p.state = .fault e u) :
    e = .stackUnderflow ∧ p.state.stack.words.length = 1 := by
  obtain ⟨hend, hoffset⟩ := prepare_inRange hp
  obtain ⟨he, hlen⟩ := (Instruction.perform_fault hend hf).2 hi
  have hpos := List.length_pos_iff.2 (hoffset hi)
  exact ⟨he, by omega⟩

theorem step_ne_wordOverflow {s : State} (h : s.pc < s.code.size) (u : State) : s.step h ≠ .fault .wordOverflow u := by
  intro hs
  unfold State.step at hs
  split at hs
  · rename_i e t hp
    cases hs
    rcases prepare_error hp with ⟨-, hc, -⟩ | ⟨i, -, -, hd | ⟨d, -, hc, -⟩⟩
    · cases hc
    · rcases Instruction.dynamicGas_error hd with hc | hc <;> cases hc
    · cases hc
  · rename_i p hp
    obtain ⟨i, d, hb, -, -, rfl⟩ := prepare_ok hp
    exact Instruction.perform_ne_wordOverflow (Instruction.opcode_of_ofByte? hb).symm u hs

/-- **A store is billed for what it does.** On a whole memory and with two words on the stack, the charge of a store is
refused if and only if the store itself is, if and only if the write ends beyond the bound. Otherwise both go through:
the memory is then as long as it was or as the words that the end of the write needs, and the charge reports the cost of
the memory the store leaves if that has grown, and nothing at all if it has not. Hence in a run a store that is paid for
faults only for want of its value, with the offset alone on the stack, and no run ends for a word that is too long. -/
theorem store_billed_as_performed :
    (∀ (i : Instruction) (s : State) (offset value : Word) (rest : List Word), i = .mstore ∨ i = .mstore8 →
      s.opcode = i.opcode → s.memory.Whole → s.stack.words = offset :: value :: rest →
      (Gas.memoryExpansion s = .error .gasOverflow ↔ ∃ u, i.perform s = .fault .gasOverflow u) ∧
      ((∃ u, i.perform s = .fault .gasOverflow u) ↔ 0x1FFFFFFFE0 < offset.toNat + i.writes) ∧
      (offset.toNat + i.writes ≤ 0x1FFFFFFFE0 → ∃ d t, Gas.memoryExpansion s = .ok d ∧ i.perform s = .ok t ∧
        t.memory.bytes.size = max s.memory.bytes.size (32 * wordsFor (offset.toNat + i.writes)) ∧
        (s.memory.bytes.size < t.memory.bytes.size →
          d = ⟨Checked.sub (Gas.memoryCost t.memory.wordLength) s.memoryPaid,
            some (Gas.memoryCost t.memory.wordLength)⟩) ∧
        (t.memory.bytes.size = s.memory.bytes.size → d = ⟨0, none⟩))) ∧
    ∀ (code : Bytes) (gasLimit : UInt64),
      (∀ ps s p e u, ∀ h : s.pc < s.code.size, Reaches (start code gasLimit) ps s → s.prepare h = .ok p →
        p.instruction = .mstore ∨ p.instruction = .mstore8 → p.instruction.perform p.state = .fault e u →
        e = .stackUnderflow ∧ p.state.stack.words.length = 1) ∧
      (run code gasLimit).fault? ≠ some .wordOverflow := by
  constructor
  · intro i s offset value rest hi hop hm hw
    rw [← Instruction.writes_ne_zero_iff] at hi
    have hgas := Instruction.memoryExpansion_refuses_iff hop hi hw
    have hact := Instruction.perform_refuses_iff hi hw
    rw [Memory.maxSize_toNat] at hgas hact
    refine ⟨hgas.trans hact.symm, hact, ?_⟩
    intro hle
    obtain ⟨t, ht, hwhole, hwords, hd⟩ := Instruction.store_billed hop hi hm hw hle
    have hold := hm.size_eq
    have hnew := hwhole.size_eq
    refine ⟨_, t, hd, ht, by omega, ?_, ?_⟩
    · intro hgrown
      rw [if_pos (by omega)]
    · intro hsame
      rw [if_neg (by omega)]
      rfl
  · intro code gasLimit
    constructor
    · intro ps s p e u h _ hp hi hf
      exact paid_store_fault hp ((Instruction.writes_ne_zero_iff _).2 hi) hf
    · intro hout
      have hends := ends_run code gasLimit
      cases hrun : run code gasLimit with
      | ok t => rw [hrun] at hout; cases hout
      | fault e u =>
        rw [hrun] at hout hends
        cases hout
        obtain ⟨qs, t, h, -, hs, -⟩ := hends.faulting_step
        exact step_ne_wordOverflow h u hs

/-- a byte stored at the last place of the largest memory is let through on both sides, and one place further on
neither; a store that finds its offset alone is paid for, and faults -/
theorem store_billed_at_bound :
    let s (o : Word) : State := { start #[] 0 with opcode := 0x53, stack := ⟨[o, 7]⟩ }
    (∃ d t, Gas.memoryExpansion (s 0x1FFFFFFFDF) = .ok d ∧ Instruction.mstore8.perform (s 0x1FFFFFFFDF) = .ok t ∧
      t.memory.bytes.size = 0x1FFFFFFFE0 ∧ d.memoryCost = some (Gas.memoryCost t.memory.wordLength)) ∧
    Gas.memoryExpansion (s 0x1FFFFFFFE0) = .error .gasOverflow ∧
    (∃ u, Instruction.mstore8.perform (s 0x1FFFFFFFE0) = .fault .gasOverflow u) ∧
    ∃ ps t p u, ∃ h : t.pc < t.code.size, Reaches (start #[0x60, 0x00, 0x52] 100) ps t ∧ t.prepare h = .ok p ∧
      p.instruction.perform p.state = .fault .stackUnderflow u ∧ p.state.stack.words.length = 1 := by
  intro s
  obtain ⟨hstates, hruns⟩ := store_billed_as_performed
  refine ⟨?_, ?_, ?_, ?_⟩
  · obtain ⟨-, -, hok⟩ := hstates .mstore8 (s 0x1FFFFFFFDF) 0x1FFFFFFFDF 7 [] (.inr rfl) rfl Memory.whole_empty rfl
    obtain ⟨d, t, hd, ht, hsize, hgrown, -⟩ := hok (by decide)
    have hmax : t.memory.bytes.size = 0x1FFFFFFFE0 := hsize.trans (by decide)
    have hempty : (s 0x1FFFFFFFDF).memory.bytes.size = 0 := rfl
    exact ⟨d, t, hd, ht, hmax, by rw [hgrown (by omega)]⟩
  · obtain ⟨hgas, hact, -⟩ := hstates .mstore8 (s 0x1FFFFFFFE0) 0x1FFFFFFFE0 7 [] (.inr rfl) rfl Memory.whole_empty rfl
    exact hgas.2 (hact.2 (by decide))
  · obtain ⟨-, hact, -⟩ := hstates .mstore8 (s 0x1FFFFFFFE0) 0x1FFFFFFFE0 7 [] (.inr rfl) rfl Memory.whole_empty rfl
    exact hact.2 (by decide)
  · let t : State :=
      { start #[0x60, 0x00, 0x52] 100 with pc := 2, opcode := 0x60, stack := ⟨[0]⟩, gasRemaining := 97, gasUsed := 3 }
    let p : Paid :=
      ⟨2, .mstore, 6, { t with pc := 3, opcode := 0x52, gasRemaining := 91, gasUsed := 9, memoryPaid := 3 }⟩
    have hs : (start #[0x60, 0x00, 0x52] 100).step (by decide) = .ok t := by decide +kernel
    obtain ⟨q, hm⟩ := moves_of_step hs
    have hr := Reaches.start.next hm
    have hp : t.prepare (by decide) = .ok p := by decide +kernel
    have hf : p.instruction.perform p.state = .fault .stackUnderflow p.state := rfl
    exact ⟨_, t, p, _, _, hr, hp, hf, ((hruns _ _).1 _ t p _ _ _ hr hp (.inl rfl) hf).2⟩

end State

end GasMachine
