import Mathlib.Tactic
import GasMachine.Machine.Run
import GasMachine.Proofs.MemoryGrowth
import GasMachine.Proofs.Words
/-
What an instruction is charged, and what preparing a step can do.

`exponent_cases` and `memoryExpansion_outcome` list every answer of the two state-dependent charges, each with its
condition; `memoryExpansion_cases` gives the second over the naturals, on a whole memory. `prepare_cases` lists the four
ways in which the first half of a step ends: a byte that is no instruction, a charge that cannot be computed, a charge
above the gas left, and a charge that is paid. A sum that does not fit in 64 bits is no fifth way, since it is above the
gas left in any case. `prepare_ok` and `prepare_error` read the list backwards.
-/
namespace GasMachine

namespace State

@[simp] theorem fetched_stack (s : State) (b : UInt8) : (s.fetched b).stack = s.stack := rfl

@[simp] theorem fetched_memory (s : State) (b : UInt8) : (s.fetched b).memory = s.memory := rfl

@[simp] theorem fetched_memoryPaid (s : State) (b : UInt8) : (s.fetched b).memoryPaid = s.memoryPaid := rfl

@[simp] theorem fetched_gasUsed (s : State) (b : UInt8) : (s.fetched b).gasUsed = s.gasUsed := rfl

@[simp] theorem fetched_gasRemaining (s : State) (b : UInt8) : (s.fetched b).gasRemaining = s.gasRemaining := rfl

end State

namespace Instruction

/-- the bytes that a store writes; zero for the other instructions -/
def writes : Instruction → ℕ
  | mstore => 32
  | mstore8 => 1
  | _ => 0

theorem writes_ne_zero_iff (i : Instruction) : i.writes ≠ 0 ↔ i = mstore ∨ i = mstore8 := by
  cases i <;> decide

theorem writes_le (i : Instruction) : i.writes ≤ 32 := by cases i <;> decide

theorem opcode_of_ofByte? {b : UInt8} {i : Instruction} (h : ofByte? b = some i) : i.opcode = b := by
  simpa using List.find?_some h

theorem writeSize_of_opcode {i : Instruction} {s : State} (h : s.opcode = i.opcode) (hi : i.writes ≠ 0) :
    (Gas.writeSize s).toNat = i.writes := by
  unfold Gas.writeSize
  rw [h]
  cases i <;> first | rfl | exact absurd rfl hi

theorem writeSize_toNat {b : UInt8} {i : Instruction} (h : ofByte? b = some i) (hi : i.writes ≠ 0) (s : State) :
    (Gas.writeSize (s.fetched b)).toNat = i.writes :=
  writeSize_of_opcode (opcode_of_ofByte? h).symm hi

end Instruction

namespace Gas

/-- the charge of an exponent does not wrap -/
theorem exponent_toNat (e : Word) : (expByte * e.byteLength.toUInt64).toNat = 50 * e.byteLength := by
  have hk := e.byteLength_le
  have hlen : e.byteLength.toUInt64.toNat = e.byteLength := by simp; omega
  rw [UInt64.toNat_mul, hlen]
  exact Nat.mod_eq_of_lt (by simp [expByte]; omega)

/-- the charge of an exponent, or the lack of one -/
theorem exponent_cases (s : State) :
    (s.stack.words.length < 2 ∧ exponent s = .error .stackUnderflow) ∨
    ∃ a e rest gas, s.stack.words = a :: e :: rest ∧ exponent s = .ok ⟨gas, none⟩ ∧ gas.toNat = 50 * e.byteLength := by
  cases hw : s.stack.words with
  | nil => left; simp [exponent, Stack.peek, hw]
  | cons a tail =>
    cases tail with
    | nil => left; simp [exponent, Stack.peek, hw]
    | cons e rest =>
      right
      exact ⟨a, e, rest, _, rfl, by simp [exponent, Stack.peek, hw], exponent_toNat e⟩

/-- the words of a size within the bound: as many as the bytes take, and few enough for their cost not to wrap -/
theorem words_of_size {size : UInt64} {n : ℕ} (hsize : size.toNat = 32 * wordsFor n) (hn : n ≤ Memory.maxSize.toNat) :
    (size / 32).toNat < 2 ^ 32 ∧ (size / 32).toNat = wordsFor n := by
  have hle : 32 * wordsFor n ≤ Memory.maxSize.toNat := (wordsFor_le_iff (by decide)).2 hn
  have hdiv : (size / 32).toNat = wordsFor n := by
    rw [UInt64.toNat_div, hsize]
    exact Nat.mul_div_cancel_left _ (by decide)
  rw [Memory.maxSize_toNat] at hle
  exact ⟨by omega, hdiv⟩

/-- the charge of a store on any memory: none without an offset or for a write beyond the bound, nothing if the memory
is as long as the write needs, and else the cost of the size needed above what is paid -/
theorem memoryExpansion_outcome (s : State) :
    (s.stack.words = [] ∧ memoryExpansion s = .error .stackUnderflow) ∨
    ∃ offset rest, s.stack.words = offset :: rest ∧
      ((Memory.maxSize.toNat < offset.toNat + (writeSize s).toNat ∧ memoryExpansion s = .error .gasOverflow) ∨
       (offset.toNat + (writeSize s).toNat ≤ Memory.maxSize.toNat ∧
         ∃ size, sizeNeeded offset (writeSize s) = .ok size ∧
           size.toNat = 32 * wordsFor (offset.toNat + (writeSize s).toNat) ∧
           memoryExpansion s = .ok (if size ≤ s.memory.byteLength then free
             else ⟨Checked.sub (memoryCost (size / 32)) s.memoryPaid, some (memoryCost (size / 32))⟩))) := by
  cases hw : s.stack.words with
  | nil => left; simp [memoryExpansion, Stack.peek, hw]
  | cons offset rest =>
    right
    refine ⟨offset, rest, rfl, ?_⟩
    have hpeek : s.stack.peek 0 = .ok offset := by simp [Stack.peek, hw]
    rcases Nat.lt_or_ge Memory.maxSize.toNat (offset.toNat + (writeSize s).toNat) with hlt | hle
    · left
      exact ⟨hlt, by simp [memoryExpansion, hpeek, sizeNeeded_error hlt]⟩
    · right
      obtain ⟨size, hsize, hn⟩ := sizeNeeded_ok hle
      refine ⟨hle, size, hsize, hn, ?_⟩
      simp only [memoryExpansion, hpeek, hsize]
      split_ifs <;> rfl

/-- the charge of a store on a whole memory, over the naturals: the memory is long enough exactly if it has the words,
and the cost of the size needed is the price of its words -/
theorem memoryExpansion_cases (s : State) (hm : s.memory.Whole) :
    (s.stack.words = [] ∧ memoryExpansion s = .error .stackUnderflow) ∨
    ∃ offset rest, s.stack.words = offset :: rest ∧
      ((Memory.maxSize.toNat < offset.toNat + (writeSize s).toNat ∧ memoryExpansion s = .error .gasOverflow) ∨
       (offset.toNat + (writeSize s).toNat ≤ Memory.maxSize.toNat ∧
         wordsFor (offset.toNat + (writeSize s).toNat) ≤ s.memory.words ∧ memoryExpansion s = .ok free) ∨
       (offset.toNat + (writeSize s).toNat ≤ Memory.maxSize.toNat ∧
         s.memory.words < wordsFor (offset.toNat + (writeSize s).toNat) ∧
         ∃ cost, cost.toNat = price (wordsFor (offset.toNat + (writeSize s).toNat)) ∧
           memoryExpansion s = .ok ⟨Checked.sub cost s.memoryPaid, some cost⟩)) := by
  rcases memoryExpansion_outcome s with hnil | ⟨offset, rest, hw, hlt | ⟨hle, size, -, hn, he⟩⟩
  · exact .inl hnil
  · exact .inr ⟨offset, rest, hw, .inl hlt⟩
  · right
    refine ⟨offset, rest, hw, .inr ?_⟩
    have hle_iff : size ≤ s.memory.byteLength ↔ wordsFor (offset.toNat + (writeSize s).toNat) ≤ s.memory.words := by
      rw [UInt64.le_iff_toNat_le, hm.byteLength_toNat, hn, hm.size_eq]; omega
    by_cases hfit : wordsFor (offset.toNat + (writeSize s).toNat) ≤ s.memory.words
    · left
      exact ⟨hle, hfit, by rw [he, if_pos (hle_iff.2 hfit)]⟩
    · right
      obtain ⟨hlt, hwords⟩ := words_of_size hn hle
      exact ⟨hle, by omega, _, by rw [memoryCost_toNat _ hlt, hwords],
        by rw [he, if_neg fun h => hfit (hle_iff.1 h)]⟩

end Gas

namespace State

/-- the state with `gas` taken off, and the memory billed up to `cost` if there is one -/
def charged (s : State) (gas : UInt64) (cost : Option UInt64) : State :=
  { s with gasRemaining := s.gasRemaining - gas, gasUsed := s.gasUsed + gas, memoryPaid := cost.getD s.memoryPaid }

theorem useGas_billMemory {s : State} {gas : UInt64} (h : gas.toNat ≤ s.gasRemaining.toNat) (cost : Option UInt64) :
    ∃ s', s.useGas gas = .ok s' ∧ s'.billMemory cost = s.charged gas cost := by
  have hlt : ¬ s.gasRemaining < gas := by rw [UInt64.lt_iff_toNat_lt]; omega
  refine ⟨{ s with gasRemaining := s.gasRemaining - gas, gasUsed := s.gasUsed + gas }, if_neg hlt, ?_⟩
  cases cost with
  | none => rfl
  | some c => rfl

/-- a charge within the gas left moves it over to the gas used, if the two together fit in 64 bits -/
theorem charged_toNat {s : State} (gas : UInt64) (cost : Option UInt64)
    (hsum : s.gasUsed.toNat + s.gasRemaining.toNat < 2 ^ 64) (hle : gas.toNat ≤ s.gasRemaining.toNat) :
    (s.charged gas cost).gasUsed.toNat = s.gasUsed.toNat + gas.toNat ∧
      (s.charged gas cost).gasRemaining.toNat + gas.toNat = s.gasRemaining.toNat := by
  have hsub := UInt64.toNat_sub_of_le _ _ (UInt64.le_iff_toNat_le.2 hle)
  refine ⟨Checked.toNat_add_of_lt (by omega), ?_⟩
  simp only [charged]
  omega

/-- a charge within the gas left is paid in full -/
theorem pay_paid {s : State} {i : Instruction} {d : DynamicGas} (hd : i.dynamicGas s = .ok d)
    (hg : i.constantGas.toNat + d.gas.toNat ≤ s.gasRemaining.toNat) :
    s.pay i = .ok (i.constantGas + d.gas, s.charged (i.constantGas + d.gas) d.memoryCost) := by
  have hrem := UInt64.toNat_lt s.gasRemaining
  have hsum : i.constantGas.toNat + d.gas.toNat < 2 ^ 64 := by omega
  have hle : (i.constantGas + d.gas).toNat ≤ s.gasRemaining.toNat := by
    rw [Checked.toNat_add_of_lt hsum]; exact hg
  obtain ⟨s', hs', hb⟩ := useGas_billMemory hle d.memoryCost
  simp only [pay, hd, Checked.add_eq_some hsum, hs', hb]

/-- a charge above the gas left is not paid, whether or not it fits in 64 bits -/
theorem pay_short {s : State} {i : Instruction} {d : DynamicGas} (hd : i.dynamicGas s = .ok d)
    (hg : s.gasRemaining.toNat < i.constantGas.toNat + d.gas.toNat) : s.pay i = .error .outOfGas := by
  by_cases hsum : i.constantGas.toNat + d.gas.toNat < 2 ^ 64
  · have hlt : s.gasRemaining < i.constantGas + d.gas := by
      rw [UInt64.lt_iff_toNat_lt, Checked.toNat_add_of_lt hsum]; exact hg
    simp [pay, hd, Checked.add_eq_some hsum, useGas, hlt]
  · have hnone : Checked.add i.constantGas d.gas = none := Checked.add_eq_none.2 (by omega)
    simp [pay, hd, hnone]

section Prepare

variable {s : State} {h : s.pc < s.code.size} {i : Instruction} {d : DynamicGas} {e : Fault}

theorem prepare_invalid (hi : Instruction.ofByte? s.code[s.pc] = none) :
    s.prepare h = .error (.invalidOpcode s.code[s.pc], s) := by
  simp [prepare, prepareByte, hi]

theorem prepare_uncharged (hi : Instruction.ofByte? s.code[s.pc] = some i)
    (hd : i.dynamicGas (s.fetched s.code[s.pc]) = .error e) :
    s.prepare h = .error (e, s.fetched s.code[s.pc]) := by
  simp [prepare, prepareByte, hi, pay, hd]

theorem prepare_short (hi : Instruction.ofByte? s.code[s.pc] = some i)
    (hd : i.dynamicGas (s.fetched s.code[s.pc]) = .ok d)
    (hg : s.gasRemaining.toNat < i.constantGas.toNat + d.gas.toNat) :
    s.prepare h = .error (.outOfGas, s.fetched s.code[s.pc]) := by
  simp [prepare, prepareByte, hi, pay_short hd hg]

theorem prepare_paid (hi : Instruction.ofByte? s.code[s.pc] = some i)
    (hd : i.dynamicGas (s.fetched s.code[s.pc]) = .ok d)
    (hg : i.constantGas.toNat + d.gas.toNat ≤ s.gasRemaining.toNat) :
    s.prepare h = .ok ⟨s.pc, i, i.constantGas + d.gas,
      (s.fetched s.code[s.pc]).charged (i.constantGas + d.gas) d.memoryCost⟩ := by
  simp [prepare, prepareByte, hi, pay_paid hd hg]

end Prepare

/-- **How preparing a step ends.** The byte is no instruction; or its charge cannot be computed; or it is above the gas
left; or it is paid. -/
theorem prepare_cases (s : State) (h : s.pc < s.code.size) :
    (Instruction.ofByte? s.code[s.pc] = none ∧ s.prepare h = .error (.invalidOpcode s.code[s.pc], s)) ∨
    ∃ i, Instruction.ofByte? s.code[s.pc] = some i ∧
      ((∃ e, i.dynamicGas (s.fetched s.code[s.pc]) = .error e ∧
          s.prepare h = .error (e, s.fetched s.code[s.pc])) ∨
       (∃ d, i.dynamicGas (s.fetched s.code[s.pc]) = .ok d ∧
          s.gasRemaining.toNat < i.constantGas.toNat + d.gas.toNat ∧
          s.prepare h = .error (.outOfGas, s.fetched s.code[s.pc])) ∨
       (∃ d, i.dynamicGas (s.fetched s.code[s.pc]) = .ok d ∧
          i.constantGas.toNat + d.gas.toNat ≤ s.gasRemaining.toNat ∧
          s.prepare h = .ok ⟨s.pc, i, i.constantGas + d.gas,
            (s.fetched s.code[s.pc]).charged (i.constantGas + d.gas) d.memoryCost⟩)) := by
  cases hi : Instruction.ofByte? s.code[s.pc] with
  | none => exact .inl ⟨rfl, prepare_invalid hi⟩
  | some i =>
    right
    refine ⟨i, rfl, ?_⟩
    cases hd : i.dynamicGas (s.fetched s.code[s.pc]) with
    | error e => exact .inl ⟨e, rfl, prepare_uncharged hi hd⟩
    | ok d =>
      right
      rcases Nat.lt_or_ge s.gasRemaining.toNat (i.constantGas.toNat + d.gas.toNat) with hg | hg
      · exact .inl ⟨d, rfl, hg, prepare_short hi hd hg⟩
      · exact .inr ⟨d, rfl, hg, prepare_paid hi hd hg⟩

/-- a step that is paid for -/
theorem prepare_ok {s : State} {h : s.pc < s.code.size} {p : Paid} (hp : s.prepare h = .ok p) :
    ∃ i d, Instruction.ofByte? s.code[s.pc] = some i ∧ i.dynamicGas (s.fetched s.code[s.pc]) = .ok d ∧
      i.constantGas.toNat + d.gas.toNat ≤ s.gasRemaining.toNat ∧
      p = ⟨s.pc, i, i.constantGas + d.gas,
        (s.fetched s.code[s.pc]).charged (i.constantGas + d.gas) d.memoryCost⟩ := by
  rcases prepare_cases s h with ⟨-, he⟩ | ⟨i, hi, ⟨e, -, he⟩ | ⟨d, -, -, he⟩ | ⟨d, hd, hg, he⟩⟩
  · rw [he] at hp; cases hp
  · rw [he] at hp; cases hp
  · rw [he] at hp; cases hp
  · rw [he] at hp; cases hp
    exact ⟨i, d, hi, hd, hg, rfl⟩

/-- a step that is not: only a byte that is no instruction leaves the place as it was -/
theorem prepare_error {s u : State} {h : s.pc < s.code.size} {e : Fault} (hp : s.prepare h = .error (e, u)) :
    (Instruction.ofByte? s.code[s.pc] = none ∧ e = .invalidOpcode s.code[s.pc] ∧ u = s) ∨
    ∃ i, Instruction.ofByte? s.code[s.pc] = some i ∧ u = s.fetched s.code[s.pc] ∧
      (i.dynamicGas (s.fetched s.code[s.pc]) = .error e ∨
       ∃ d, i.dynamicGas (s.fetched s.code[s.pc]) = .ok d ∧ e = .outOfGas ∧
          s.gasRemaining.toNat < i.constantGas.toNat + d.gas.toNat) := by
  rcases prepare_cases s h with ⟨hi, he⟩ | ⟨i, hi, ⟨e, hd, he⟩ | ⟨d, hd, hg, he⟩ | ⟨d, -, -, he⟩⟩
  · rw [he] at hp; cases hp
    exact .inl ⟨hi, rfl, rfl⟩
  · rw [he] at hp; cases hp
    exact .inr ⟨i, hi, rfl, .inl hd⟩
  · rw [he] at hp; cases hp
    exact .inr ⟨i, hi, rfl, .inr ⟨d, hd, rfl, hg⟩⟩
  · rw [he] at hp; cases hp

end State

end GasMachine
