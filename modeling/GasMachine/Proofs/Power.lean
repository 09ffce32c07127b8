import Mathlib.Tactic
import GasMachine.Proofs.Effects
/-
An exponentiation is billed on the operand it uses.

The charge is computed from the word second from the top, before anything is taken off the stack. The instruction then
takes the top word as the base and the one below it as the exponent, so that the two read the same word at different
depths. `step_exp` says what the step does in any state that has both words and the gas for the charge, reachable or
not; what the power itself is stands in `Word.exp_after` and `Word.toNat_exp`.
-/
namespace GasMachine

/-- the byte length is the least number of bytes that hold the word, as a least element -/
theorem Word.isLeast_byteLength (w : Word) : IsLeast {k | w.toNat < 256 ^ k} w.byteLength :=
  ⟨(w.byteLength_le_iff _).1 le_rfl, fun k hk => (w.byteLength_le_iff k).2 hk⟩

namespace State

variable {s : State} {h : s.pc < s.code.size} {a e : Word} {rest : List Word}

/-- with both words and the gas for its charge, an exponentiation is paid for and leaves the power -/
theorem step_exp (hb : s.code[s.pc] = 0x0a) (hw : s.stack.words = a :: e :: rest)
    (hgas : 10 + 50 * e.byteLength ≤ s.gasRemaining.toNat) :
    ∃ p, s.prepare h = .ok p ∧ p.instruction = .exp ∧ p.gas.toNat = 10 + 50 * e.byteLength ∧
      s.step h = .ok { s with
        pc := s.pc + 1
        opcode := 0x0a
        stack := ⟨.ofNat 256 (a.toNat ^ e.toNat) :: rest⟩
        gasRemaining := s.gasRemaining - p.gas
        gasUsed := s.gasUsed + p.gas } := by
  have hof : Instruction.ofByte? s.code[s.pc] = some .exp := by rw [hb]; rfl
  rcases Gas.exponent_cases (s.fetched s.code[s.pc]) with ⟨hlen, -⟩ | ⟨a', e', rest', gas, hw', hd, hcharge⟩
  · rw [fetched_stack, hw] at hlen
    simp at hlen
  · rw [fetched_stack, hw] at hw'
    cases hw'
    have hconst : Instruction.exp.constantGas.toNat = 10 := rfl
    have hpays : Instruction.exp.constantGas.toNat + gas.toNat ≤ s.gasRemaining.toNat := by omega
    have hp := prepare_paid (h := h) hof hd hpays
    have hsum : (Instruction.exp.constantGas + gas).toNat = 10 + 50 * e.byteLength := by
      have hlt := UInt64.toNat_lt s.gasRemaining
      rw [Checked.toNat_add_of_lt (by omega), hconst, hcharge]
    refine ⟨_, hp, rfl, hsum, ?_⟩
    simp only [State.step, hp, Instruction.perform, Instruction.binary_eq, charged, fetched, hw, hb, Word.exp_eq,
      Option.getD_none]

/-- **An exponentiation is billed on the operand it uses.** The power of two words is that of the naturals modulo 2^256,
and 1 for a zero exponent, found by square and multiply over the bits of the exponent. In any state at an
exponentiation, with `a` on top, `e` below it and enough gas, the step takes 10 gas and 50 for each byte of `e`, no less
and no more, and replaces the two words by the power of `a` to the `e`, with all else as it was. -/
theorem exp_billed_on_its_exponent :
    (∀ a e : Word, (Word.exp a e).toNat = a.toNat ^ e.toNat % 2 ^ 256 ∧ Word.exp a 0 = 1 ∧
      ∀ n ≤ 256, Word.exp a e = Word.expBits (256 - n) (.ofNat 256 (a.toNat ^ 2 ^ n)) (e.toNat / 2 ^ n)
        (.ofNat 256 (a.toNat ^ (e.toNat % 2 ^ n)))) ∧
    ∀ (s : State) (h : s.pc < s.code.size) (a e : Word) (rest : List Word) (k : ℕ),
      s.code[s.pc] = 0x0a → s.stack.words = a :: e :: rest → IsLeast {n | e.toNat < 256 ^ n} k →
      10 + 50 * k ≤ s.gasRemaining.toNat →
      s.stack.peek 1 = .ok e ∧
      ∃ p t, s.prepare h = .ok p ∧ p.instruction = .exp ∧ p.gas.toNat = 10 + 50 * k ∧ s.step h = .ok t ∧
        t = { s with
          pc := s.pc + 1
          opcode := 0x0a
          stack := ⟨.ofNat 256 (a.toNat ^ e.toNat) :: rest⟩
          gasRemaining := s.gasRemaining - p.gas
          gasUsed := s.gasUsed + p.gas } ∧
        t.gasRemaining.toNat + (10 + 50 * k) = s.gasRemaining.toNat ∧
        (s.gasUsed.toNat + s.gasRemaining.toNat < 2 ^ 64 → t.gasUsed.toNat = s.gasUsed.toNat + (10 + 50 * k)) := by
  constructor
  · intro a e
    refine ⟨Word.toNat_exp a e, ?_, fun n hn => Word.exp_after a e hn⟩
    rw [Word.exp_eq]
    simp
  · intro s h a e rest k hb hw hk hgas
    obtain rfl : k = e.byteLength := hk.unique e.isLeast_byteLength
    obtain ⟨p, hp, hi, hcharge, hs⟩ := step_exp (h := h) hb hw hgas
    refine ⟨by simp [Stack.peek, hw], p, _, hp, hi, hcharge, hs, rfl, ?_, ?_⟩
    · have hle : p.gas ≤ s.gasRemaining := UInt64.le_iff_toNat_le.2 (hcharge.trans_le hgas)
      rw [UInt64.toNat_sub_of_le _ _ hle, hcharge]
      omega
    · intro hsum
      rw [← hcharge]
      exact Checked.toNat_add_of_lt (by omega)

/-- an exponent of two bytes over a power that wraps, with the gas for it and none to spare -/
theorem exp_billed_on_two_bytes :
    let s : State := { start #[0x0a] 110 with stack := ⟨[3, 0x100, 7]⟩ }
    ∃ t, s.step (by decide) = .ok t ∧ t.stack.words = [.ofNat 256 (3 ^ 256), 7] ∧ t.gasRemaining.toNat = 0 ∧
      t.gasUsed.toNat = 110 := by
  intro s
  have hk : IsLeast {n | (0x100 : Word).toNat < 256 ^ n} 2 := by
    refine ⟨by decide, fun n hn => ?_⟩
    by_contra hlt
    have hsmall : n = 0 ∨ n = 1 := by omega
    rcases hsmall with rfl | rfl <;> exact absurd hn (by decide)
  obtain ⟨-, p, t, -, -, -, hs, ht, hleft, hused⟩ :=
    exp_billed_on_its_exponent.2 s (by decide) 3 0x100 [7] 2 rfl rfl hk (by decide)
  refine ⟨t, hs, by rw [ht]; rfl, ?_, hused (by decide)⟩
  have hstart : s.gasRemaining.toNat = 110 := rfl
  omega

end State

end GasMachine
