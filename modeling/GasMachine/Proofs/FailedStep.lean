import Mathlib.Tactic
import GasMachine.Report
import GasMachine.Proofs.Account
/-
What a step leaves behind when it fails.

A step can fail at four places: the byte is no instruction, its charge cannot be computed, the charge is above the gas
left, or the instruction is paid for and cannot act. `step_fault` lists them, for any state, with the state that each
leaves. The first leaves it untouched, the next two have fetched the opcode, and the last has been paid for in full.
None has changed the stack or the memory: a store takes its words off the stack before it looks at its offset, but one
that would then be refused has had its charge refused before.
-/
namespace GasMachine.State

section Step

variable {s u : State} {h : s.pc < s.code.size} {e : Fault}

/-- **How a step fails**, and in which state -/
theorem step_fault (hs : s.step h = .fault e u) :
    (Instruction.ofByte? s.code[s.pc] = none ∧ e = .invalidOpcode s.code[s.pc] ∧ u = s) ∨
    ∃ i, Instruction.ofByte? s.code[s.pc] = some i ∧
      ((i.dynamicGas (s.fetched s.code[s.pc]) = .error e ∧ u = s.fetched s.code[s.pc]) ∨
       (∃ d, i.dynamicGas (s.fetched s.code[s.pc]) = .ok d ∧
          s.gasRemaining.toNat < i.constantGas.toNat + d.gas.toNat ∧ e = .outOfGas ∧ u = s.fetched s.code[s.pc]) ∨
       (∃ d, i.dynamicGas (s.fetched s.code[s.pc]) = .ok d ∧
          i.constantGas.toNat + d.gas.toNat ≤ s.gasRemaining.toNat ∧
          u = (s.fetched s.code[s.pc]).charged (i.constantGas + d.gas) d.memoryCost ∧ i.perform u = .fault e u)) := by
  unfold State.step at hs
  split at hs
  · rename_i f t hp
    cases hs
    rcases prepare_error hp with ⟨hi, he, hu⟩ | ⟨i, hi, hu, hd | ⟨d, hd, he, hg⟩⟩
    · exact .inl ⟨hi, he, hu⟩
    · exact .inr ⟨i, hi, .inl ⟨hd, hu⟩⟩
    · exact .inr ⟨i, hi, .inr (.inl ⟨d, hd, hg, he, hu⟩)⟩
  · rename_i p hp
    obtain ⟨rfl, -⟩ := Instruction.perform_fault (prepare_inRange hp).1 hs
    obtain ⟨i, d, hi, hd, hg, rfl⟩ := prepare_ok hp
    exact .inr ⟨i, hi, .inr (.inr ⟨d, hd, hg, rfl, hs⟩)⟩

theorem step_fault_keeps (hs : s.step h = .fault e u) : u.code = s.code ∧ u.stack = s.stack ∧ u.memory = s.memory := by
  rcases step_fault hs with ⟨-, -, rfl⟩ | ⟨i, -, ⟨-, rfl⟩ | ⟨d, -, -, -, rfl⟩ | ⟨d, -, -, rfl, -⟩⟩
  · exact ⟨rfl, rfl, rfl⟩
  · exact ⟨rfl, rfl, rfl⟩
  · exact ⟨rfl, rfl, rfl⟩
  · exact ⟨rfl, rfl, rfl⟩

/-- a fault that names an invalid opcode comes from nowhere but the byte fetched -/
theorem step_fault_invalidOpcode {b : UInt8} (hs : s.step h = .fault (.invalidOpcode b) u) : u = s := by
  rcases step_fault hs with ⟨-, -, hu⟩ | ⟨i, -, ⟨hd, -⟩ | ⟨d, -, -, he, -⟩ | ⟨d, -, -, -, hf⟩⟩
  · exact hu
  · rcases Instruction.dynamicGas_error hd with hc | hc <;> cases hc
  · cases he
  · rcases i.perform_cases u with ⟨f, hf', -, hkind⟩ | ⟨-, v, hf'⟩ | ⟨t, hf', -⟩
    · rw [hf'] at hf; cases hf
      rcases hkind with hc | hc | hc | hc <;> cases hc
    · rw [hf'] at hf; cases hf
    · rw [hf'] at hf; cases hf

end Step

/-- **A failing step changes neither stack nor memory, and its gas effect depends only on where it failed.** From any
state at a byte of its code, with gas used and gas left fitting in 64 bits together: at a byte that is no instruction
the step leaves the state as it was; where the charge could not be computed or was above the gas left, only the place
and the opcode have moved; where the instruction itself failed, the charge has moved from the gas left to the gas used
besides, and the memory paid is what the charge says. Hence a run that fails reports the digest of the memory it had
after its last successful step. -/
theorem failed_step_effect :
    (∀ (s : State) (h : s.pc < s.code.size), s.gasUsed.toNat + s.gasRemaining.toNat < 2 ^ 64 →
      ∀ e u, s.step h = .fault e u →
      (u.code = s.code ∧ u.stack = s.stack ∧ u.memory = s.memory) ∧
      (∀ b, e = .invalidOpcode b → u = s) ∧
      ((Instruction.ofByte? s.code[s.pc] = none ∧ e = .invalidOpcode s.code[s.pc] ∧ u = s) ∨
       ∃ i, Instruction.ofByte? s.code[s.pc] = some i ∧
        ((i.dynamicGas (s.fetched s.code[s.pc]) = .error e ∧ u = { s with pc := s.pc + 1, opcode := s.code[s.pc] }) ∨
         ∃ d, i.dynamicGas (s.fetched s.code[s.pc]) = .ok d ∧
          ((s.gasRemaining.toNat < i.constantGas.toNat + d.gas.toNat ∧ e = .outOfGas ∧
              u = { s with pc := s.pc + 1, opcode := s.code[s.pc] }) ∨
           (i.constantGas.toNat + d.gas.toNat ≤ s.gasRemaining.toNat ∧ i.perform u = .fault e u ∧
              u = { s with pc := s.pc + 1, opcode := s.code[s.pc], gasUsed := u.gasUsed,
                           gasRemaining := u.gasRemaining, memoryPaid := d.memoryCost.getD s.memoryPaid } ∧
              u.gasUsed.toNat = s.gasUsed.toNat + (i.constantGas.toNat + d.gas.toNat) ∧
              u.gasRemaining.toNat = s.gasRemaining.toNat - (i.constantGas.toNat + d.gas.toNat)))))) ∧
    ∀ (code : Bytes) (gasLimit : UInt64) (e : Fault) (u : State), run code gasLimit = .fault e u →
      ∃ ps t, ∃ h : t.pc < t.code.size, Reaches (start code gasLimit) ps t ∧ t.step h = .fault e u ∧
        (report code gasLimit).memoryHash = Keccak.digest t.memory.bytes := by
  constructor
  · intro s h hsum e u hs
    refine ⟨step_fault_keeps hs, ?_, ?_⟩
    · rintro b rfl
      exact step_fault_invalidOpcode hs
    · rcases step_fault hs with hinvalid | ⟨i, hi, hd | ⟨d, hd, hg, he, hu⟩ | ⟨d, hd, hg, hu, hf⟩⟩
      · exact .inl hinvalid
      · exact .inr ⟨i, hi, .inl hd⟩
      · exact .inr ⟨i, hi, .inr ⟨d, hd, .inl ⟨hg, he, hu⟩⟩⟩
      · have hrem := UInt64.toNat_lt s.gasRemaining
        have hgas : (i.constantGas + d.gas).toNat = i.constantGas.toNat + d.gas.toNat :=
          Checked.toNat_add_of_lt (by omega)
        have haccount := charged_toNat (s := s.fetched s.code[s.pc]) (i.constantGas + d.gas) d.memoryCost hsum
          (by rw [hgas]; exact hg)
        rw [← hu, hgas, fetched_gasUsed, fetched_gasRemaining] at haccount
        obtain ⟨hused, hleft⟩ := haccount
        exact .inr ⟨i, hi, .inr ⟨d, hd, .inr ⟨hg, hf, by rw [hu]; rfl, hused, by omega⟩⟩⟩
  · intro code gasLimit e u hrun
    have hends := ends_run code gasLimit
    rw [hrun] at hends
    obtain ⟨ps, t, h, hr, hs, -⟩ := hends.faulting_step
    refine ⟨ps, t, h, hr, hs, ?_⟩
    rw [← (step_fault_keeps hs).2.2, report, hrun]
    rfl

/-- a store that finds only its offset, on a memory that no run has: it keeps the 6 gas of its charge; and a run that
ends in a sum of one word, after a store -/
theorem failed_store_and_sum :
    let s : State := { start #[0x52] 10 with gasUsed := 5, memory := ⟨#[1, 2, 3]⟩, stack := ⟨[0]⟩ }
    let code := #[0x60, 0x05, 0x60, 0x00, 0x52, 0x60, 0x05, 0x01]
    (∃ h : s.pc < s.code.size, ∃ u, s.step h = .fault .stackUnderflow u ∧ u.gasUsed = 11 ∧ u.gasRemaining = 4 ∧
      u.memoryPaid = 3 ∧ u.code = s.code ∧ u.stack = s.stack ∧ u.memory = s.memory) ∧
    ∃ u, run code 100 = .fault .stackUnderflow u ∧ ∃ ps t, Reaches (start code 100) ps t ∧
      (report code 100).memoryHash = Keccak.digest t.memory.bytes := by
  intro s code
  have hs : s.step (by decide) = .fault .stackUnderflow
      { s with pc := 1, opcode := 0x52, gasUsed := 11, gasRemaining := 4, memoryPaid := 3 } := by
    decide +kernel
  have hrun : run code 100 = .fault .stackUnderflow (run code 100).state := by decide +kernel
  obtain ⟨ps, t, -, hr, -, hhash⟩ := failed_step_effect.2 _ _ _ _ hrun
  exact ⟨⟨_, _, hs, rfl, rfl, rfl, (failed_step_effect.1 s _ (by decide) _ _ hs).1⟩, _, hrun, ps, t, hr, hhash⟩

end GasMachine.State
