import Mathlib.Tactic
import GasMachine.Proofs.Account
import GasMachine.Proofs.Place
/-
The counts of a run are exact.

The machine counts in 64 bits, and most of its sums, products and differences are not checked. Along a run none of them
wraps and none is cut off at zero:

- a size that is let through has at most 2^32 - 1 words, and up to there the cost of a memory is below 2^56
  (`memoryCost_exact`), so that with the constant gas on top it still fits (`charge_fits`);
- between two steps the memory paid is the cost of the memory there is, and the cost of a larger one is strictly higher
  (`memoryCost_strictMono`), so that the difference charged is positive and exact;
- gas used and gas left add up to the limit, and the place stays in the code;
- a store writes inside the memory that it has extended (`store_written`).

`ExactStep` lists what this says of one step, and `run_counts_exact` that it holds of every step of every run.
-/
namespace GasMachine

namespace Gas

/-- the cost of `w` words, with every number on the way to it, is the one of the naturals -/
structure ExactCost (w : UInt64) : Prop where
  words : w.toNat ≤ 2 ^ 32 - 1
  triple : (3 * w).toNat = 3 * w.toNat
  square : (w * w).toNat = w.toNat * w.toNat
  cost : (memoryCost w).toNat = 3 * w.toNat + w.toNat * w.toNat / 512

theorem memoryCost_exact {offset : Word} {n size : UInt64} (h : sizeNeeded offset n = .ok size) :
    ExactCost (size / 32) := by
  obtain ⟨hle, hsize⟩ := sizeNeeded_eq_ok h
  obtain ⟨hlt, -⟩ := words_of_size hsize hle
  exact ⟨by omega, toNat_triple hlt, toNat_square hlt, memoryCost_toNat _ hlt⟩

theorem memoryCost_strictMono {v w : UInt64} (h : v < w) (hw : w.toNat ≤ 2 ^ 32 - 1) : memoryCost v < memoryCost w := by
  rw [UInt64.lt_iff_toNat_lt] at h ⊢
  rw [memoryCost_toNat v (by omega), memoryCost_toNat w (by omega)]
  exact price_strictMono h

end Gas

namespace Instruction

theorem constantGas_le (i : Instruction) : i.constantGas.toNat ≤ 10 := by cases i <;> decide

theorem dynamicGas_lt {i : Instruction} {s : State} {d : DynamicGas} (hd : i.dynamicGas s = .ok d) :
    d.gas.toNat < 2 ^ 56 := by
  rcases dynamicGas_kind i with ⟨-, hi⟩ | ⟨-, -, hi⟩ | ⟨-, -, hi⟩
  · rw [hi] at hd
    rcases Gas.exponent_cases s with ⟨-, he⟩ | ⟨a, e, rest, gas, -, he, hgas⟩
    · rw [he] at hd; cases hd
    · rw [he] at hd; cases hd
      have hk := e.byteLength_le
      simp only
      omega
  · rw [hi] at hd
    rcases Gas.memoryExpansion_outcome s with ⟨-, he⟩ | ⟨offset, rest, -, ⟨-, he⟩ | ⟨hle, size, -, hsize, he⟩⟩
    · rw [he] at hd; cases hd
    · rw [he] at hd; cases hd
    · rw [he] at hd
      obtain ⟨hlt, -⟩ := Gas.words_of_size hsize hle
      have hprice := Gas.price_lt hlt
      split_ifs at hd
      · cases hd
        exact Nat.two_pow_pos 56
      · cases hd
        simp only [Checked.toNat_sub, Gas.memoryCost_toNat _ hlt]
        omega
  · rw [hi] at hd
    cases hd
    exact Nat.two_pow_pos 56

/-- a charge that can be computed fits in 64 bits with the constant gas on top, in any state -/
theorem charge_fits {i : Instruction} {s : State} {d : DynamicGas} (hd : i.dynamicGas s = .ok d) :
    i.constantGas.toNat + d.gas.toNat < 2 ^ 64 := by
  have hc := i.constantGas_le
  have hlt := dynamicGas_lt hd
  omega

/-- a store within the bound extends a whole memory up to its end at least, and writes there -/
theorem store_written {i : Instruction} {s : State} {offset value : Word} {rest : List Word} (hi : i.writes ≠ 0)
    (hm : s.memory.Whole) (hw : s.stack.words = offset :: value :: rest)
    (hle : offset.toNat + i.writes ≤ Memory.maxSize.toNat) :
    ∃ o last m bs, offset.toCount? = some o ∧ bs.length = i.writes ∧ Checked.add o bs.length.toUInt64 = some last ∧
      s.memory.extend last = .ok m ∧ o.toNat + bs.length ≤ m.bytes.size ∧
      i.perform s = .ok { s with stack := ⟨rest⟩, memory := m.overwrite o.toNat bs } := by
  rcases perform_kind i with ⟨hz, -⟩ | ⟨-, bytes, hp, hbytes⟩ | ⟨hz, -⟩
  · exact absurd hz hi
  · have hmax := Memory.maxSize_toNat
    obtain ⟨o, ho, hon⟩ := Word.toCount?_eq_some (w := offset) (by omega)
    have hend : o.toNat + (bytes value).length ≤ Memory.maxSize.toNat := by rw [hon, hbytes]; exact hle
    obtain ⟨last, hadd, hlast⟩ := Memory.writeLast_eq hend
    have hext := Memory.extend_eq hm (hlast.trans_le hend)
    refine ⟨o, last, _, bytes value, ho, hbytes value, hadd, hext, ?_, ?_⟩
    · rw [Memory.grow_size, hlast]
      unfold wordsFor
      omega
    · rw [hp]
      simp only [store_eq, hw, ho, Memory.write, hadd, hext]
  · exact absurd hz hi

end Instruction

namespace State

/-- in the step from `s`, of a run with `limit` gas, no count wraps or is cut off, and nothing is read or written out of
range -/
structure ExactStep (limit : UInt64) (s : State) (h : s.pc < s.code.size) : Prop where
  /-- the cost of the memory that a store needs; where the memory grows, the part of it that is not paid yet -/
  memory : ∀ offset size, s.stack.peek 0 = .ok offset →
    Gas.sizeNeeded offset (Gas.writeSize (s.fetched s.code[s.pc])) = .ok size →
    Gas.ExactCost (size / 32) ∧ (s.memory.byteLength < size →
      0 < (Checked.sub (Gas.memoryCost (size / 32)) s.memoryPaid).toNat ∧
      (Checked.sub (Gas.memoryCost (size / 32)) s.memoryPaid).toNat + s.memoryPaid.toNat =
        (Gas.memoryCost (size / 32)).toNat)
  /-- the charge of an exponent -/
  exponent : ∀ e, s.stack.peek 1 = .ok e → (Gas.expByte * e.byteLength.toUInt64).toNat = 50 * e.byteLength
  /-- the charge as a whole: the branch for a sum that does not fit is not taken -/
  charge : ∀ i d, Instruction.ofByte? s.code[s.pc] = some i → i.dynamicGas (s.fetched s.code[s.pc]) = .ok d →
    Checked.add i.constantGas d.gas = some (i.constantGas + d.gas) ∧
      (i.constantGas + d.gas).toNat = i.constantGas.toNat + d.gas.toNat
  /-- the gas used and the gas left, once the charge is paid -/
  account : ∀ p, s.prepare h = .ok p → p.state.gasUsed.toNat = s.gasUsed.toNat + p.gas.toNat ∧
    p.state.gasRemaining.toNat + p.gas.toNat = s.gasRemaining.toNat ∧ p.state.gasUsed ≤ limit
  /-- the bytes that a store writes, in the memory as it has extended it -/
  written : ∀ p offset value rest, s.prepare h = .ok p → p.instruction.writes ≠ 0 →
    p.state.stack.words = offset :: value :: rest →
    ∃ o last m bs, offset.toCount? = some o ∧ bs.length = p.instruction.writes ∧
      Checked.add o bs.length.toUInt64 = some last ∧ p.state.memory.extend last = .ok m ∧
      o.toNat + bs.length ≤ m.bytes.size ∧
      p.instruction.perform p.state = .ok { p.state with stack := ⟨rest⟩, memory := m.overwrite o.toNat bs }
  /-- the place after the step, failed or not, and the one up to which a push looks -/
  place : (s.step h).state.pc ≤ s.code.size
  reach : ∀ p, s.prepare h = .ok p → p.state.pc + Instruction.width p.state < 2 ^ 64

/-- a step from a sound state, in code that a machine can hold, is exact -/
theorem Sound.exactStep {limit : UInt64} {s : State} (hs : Sound limit s) (hcode : s.code.size < 2 ^ 63)
    (h : s.pc < s.code.size) : ExactStep limit s h where
  memory := by
    intro offset size _ hneed
    obtain ⟨hle, hsize⟩ := Gas.sizeNeeded_eq_ok hneed
    obtain ⟨hlt, hwords⟩ := Gas.words_of_size hsize hle
    refine ⟨Gas.memoryCost_exact hneed, ?_⟩
    intro hgrow
    rw [UInt64.lt_iff_toNat_lt, hs.whole.byteLength_toNat, hs.whole.size_eq, hsize] at hgrow
    have hprice := Gas.price_strictMono (v := s.memory.words) (w := (size / 32).toNat) (by omega)
    have hpaid := hs.paid
    rw [Checked.toNat_sub, Gas.memoryCost_toNat _ hlt]
    omega
  exponent e _ := Gas.exponent_toNat e
  charge := by
    intro i d _ hd
    have hfits := Instruction.charge_fits hd
    exact ⟨Checked.add_eq_some hfits, Checked.toNat_add_of_lt hfits⟩
  account := by
    intro p hp
    have hb := prepare_bill hs hp
    have hcons := (hs.prepared hp).conserved
    exact ⟨hb.used, hb.remaining, by rw [UInt64.le_iff_toNat_le]; omega⟩
  written := by
    intro p offset value rest hp hi hw
    have hb := prepare_bill hs hp
    have hend := hb.inRange
    rw [Instruction.writeEnd_cons hi hw] at hend
    exact Instruction.store_written hi (hb.whole hs.whole) hw hend
  place := (step_place h).2
  reach := by
    intro p hp
    have hpc := (prepare_keeps hp).2
    have hbyte := UInt8.toNat_lt p.state.opcode
    unfold Instruction.width
    omega

/-- **No count of a run wraps or saturates, and no index is out of range.** In every state that a run reaches the place
is in the code; if the code is not used up, there is a byte at it, and the step from there is exact. The cost of a memory
rises strictly up to the largest number of words it is asked for. -/
theorem run_counts_exact (code : Bytes) (hcode : code.size < 2 ^ 63) (gasLimit : UInt64) :
    (∀ v w : UInt64, v < w → w.toNat ≤ 2 ^ 32 - 1 → Gas.memoryCost v < Gas.memoryCost w) ∧
    (∀ ps s, Reaches (start code gasLimit) ps s → s.code = code ∧ s.pc ≤ code.size ∧
      (s.isDone = true ∨ ∃ h : s.pc < s.code.size, ExactStep gasLimit s h)) ∧
    (run code gasLimit).state.pc ≤ code.size ∧ (run code gasLimit).state.gasUsed ≤ gasLimit := by
  have hstart := sound_start code gasLimit
  have hends := ends_run code gasLimit
  refine ⟨fun v w => Gas.memoryCost_strictMono, ?_, ?_, ?_⟩
  · intro ps s hr
    obtain ⟨hkept, hle⟩ := hr.place (Nat.zero_le _)
    change s.code = code at hkept
    refine ⟨hkept, hle, ?_⟩
    rcases Nat.lt_or_ge s.pc s.code.size with h | h
    · exact .inr ⟨h, (hr.sound hstart).1.exactStep (by rw [hkept]; exact hcode) h⟩
    · exact .inl (decide_eq_true h)
  · exact (hends.place (Nat.zero_le _)).2
  · have hcons := (hends.halted hstart).1.conserved
    rw [UInt64.le_iff_toNat_le]
    omega

/-- the store of a word behind the first: two words are billed, and the bytes written end with the memory -/
theorem exact_store_of_second_word :
    let code := #[0x60, 0x07, 0x60, 0x20, 0x52]
    code.size < 2 ^ 63 ∧ ∃ ps s, Reaches (start code 100) ps s ∧
      ((Checked.sub (Gas.memoryCost (64 / 32)) s.memoryPaid).toNat + s.memoryPaid.toNat =
        (Gas.memoryCost (64 / 32)).toNat) ∧
      ∃ h p, s.prepare h = .ok p ∧ p.state.gasUsed ≤ 100 ∧
        ∃ (o : UInt64) (m : Memory) (bs : List UInt8), bs.length = 32 ∧ o.toNat + bs.length ≤ m.bytes.size ∧
          p.instruction.perform p.state = .ok { p.state with stack := .empty, memory := m.overwrite o.toNat bs } := by
  intro code
  let s : State :=
    { start code 100 with pc := 4, opcode := 0x60, stack := ⟨[0x20, 7]⟩, gasRemaining := 94, gasUsed := 6 }
  let p : Paid :=
    ⟨4, .mstore, 9, { s with pc := 5, opcode := 0x52, gasRemaining := 85, gasUsed := 15, memoryPaid := 6 }⟩
  have h₁ : (start code 100).step (by decide) =
      .ok { s with pc := 2, stack := ⟨[7]⟩, gasRemaining := 97, gasUsed := 3 } := by decide +kernel
  have h₂ : State.step { s with pc := 2, stack := ⟨[7]⟩, gasRemaining := 97, gasUsed := 3 } (by decide) = .ok s := by
    decide +kernel
  obtain ⟨p₁, hm₁⟩ := moves_of_step h₁
  obtain ⟨p₂, hm₂⟩ := moves_of_step h₂
  have hr := (Reaches.start.next hm₁).next hm₂
  have hp : s.prepare (by decide) = .ok p := by decide +kernel
  have hsize : Gas.sizeNeeded 0x20 (Gas.writeSize (s.fetched 0x52)) = .ok 64 := by decide +kernel
  have hcode : code.size < 2 ^ 63 := by decide
  obtain ⟨-, -, hdone | ⟨_, hexact⟩⟩ := (run_counts_exact code hcode 100).2.1 _ s hr
  · exact absurd hdone (by decide)
  · obtain ⟨o, last, m, bs, -, hlen, -, -, hin, hact⟩ := hexact.written p 0x20 7 [] hp (by decide) rfl
    exact ⟨hcode, _, s, hr, ((hexact.memory 0x20 64 rfl hsize).2 (by decide)).2, _, p, hp, (hexact.account p hp).2.2,
      o, m, bs, hlen, hin, hact⟩

end State

end GasMachine
