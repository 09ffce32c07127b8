import Mathlib.Tactic
import GasMachine.Proofs.Account
/-
The gas bill of a run in closed form.

Each step charges for memory only what is above the cost paid so far, so that along a run the memory charges add up to
the cost paid last: whatever the order and number of the stores, the bill is the constant gas of the instructions paid
for, 50 for each byte of an exponent, and the memory paid. `gas_bill` states this for every state a run reaches and for
the state in which it ends, with the instructions of its history.
-/
namespace GasMachine

/-- the constant gas of the instructions paid for -/
def constantGasOf (ps : List Paid) : ℕ := (ps.map fun p => p.instruction.constantGas.toNat).sum

/-- the bytes of the exponents of the exponentiations paid for -/
def exponentBytesOf (ps : List Paid) : ℕ := (ps.map fun p => p.instruction.exponentBytes p.state).sum

theorem constantGasOf_snoc (ps : List Paid) (p : Paid) :
    constantGasOf (ps ++ [p]) = constantGasOf ps + p.instruction.constantGas.toNat := by
  simp [constantGasOf]

theorem exponentBytesOf_snoc (ps : List Paid) (p : Paid) :
    exponentBytesOf (ps ++ [p]) = exponentBytesOf ps + p.instruction.exponentBytes p.state := by
  simp [exponentBytesOf]

/-- no instruction is had for less than 3 gas -/
theorem length_le_constantGasOf (ps : List Paid) : 3 * ps.length ≤ constantGasOf ps := by
  induction ps with
  | nil => exact le_rfl
  | cons p ps ih =>
    have hp : 3 ≤ p.instruction.constantGas.toNat := by cases p.instruction <;> decide
    rw [constantGasOf] at ih ⊢
    rw [List.length_cons, List.map_cons, List.sum_cons]
    omega

namespace State

/-- the gas used, split into what each instruction takes in every state, the exponents, and the memory -/
def Itemised (ps : List Paid) (s : State) : Prop :=
  s.gasUsed.toNat = constantGasOf ps + 50 * exponentBytesOf ps + s.memoryPaid.toNat

/-- paying for one more instruction adds its items: the rest of the charge is what the memory paid rises by -/
theorem Itemised.pay {limit : UInt64} {s : State} {ps : List Paid} (hi : Itemised ps s) (hs : Sound limit s)
    {h : s.pc < s.code.size} {p : Paid} (hp : s.prepare h = .ok p) : Itemised (ps ++ [p]) p.state := by
  have hb := prepare_bill hs hp
  have hgas := hb.gas
  have hpaid := hb.paid
  have hused := hb.used
  have hspaid := hs.paid
  unfold Itemised at hi ⊢
  rw [constantGasOf_snoc, exponentBytesOf_snoc]
  omega

theorem Reaches.itemised {limit : UInt64} {s t : State} {ps : List Paid} (hr : Reaches s ps t) (hs : Sound limit s)
    (hi : Itemised [] s) : Itemised ps t := by
  induction hr with
  | start => exact hi
  | @next ps p t u hr hm ih =>
    obtain ⟨h, hp, hf⟩ := hm
    have hpay := ih.pay (hr.sound hs).1 hp
    have ha := Instruction.perform_ok_account hf
    unfold Itemised at hpay ⊢
    rw [ha.used, ha.paid]
    exact hpay

theorem Ends.itemised {limit : UInt64} {s : State} {ps : List Paid} {out : Outcome} (he : Ends s ps out)
    (hs : Sound limit s) (hi : Itemised [] s) : Itemised ps out.state := by
  cases he with
  | done hr hd => exact hr.itemised hs hi
  | refused h hr hp =>
    have ht := hr.itemised hs hi
    rcases prepare_error_keeps hp with rfl | rfl
    · exact ht
    · exact ht
  | failed h hr hp hf =>
    have ht := (hr.sound hs).1
    obtain ⟨rfl, -⟩ := ht.failed hp hf
    exact (hr.itemised hs hi).pay ht hp

/-- **The gas bill.** In every state that a run reaches, and in the one in which it ends, gas used and gas left add up
to the limit, and the gas used is the constant gas of the instructions paid for, 50 for each byte of their exponents,
and the memory paid. If the run succeeds the last is the cost of the memory it leaves. -/
theorem gas_bill (code : Bytes) (gasLimit : UInt64) :
    (∀ ps s, Reaches (start code gasLimit) ps s →
      ps <+: (start code gasLimit).history.1 ∧
      s.gasUsed.toNat + s.gasRemaining.toNat = gasLimit.toNat ∧
      s.gasUsed.toNat = constantGasOf ps + 50 * exponentBytesOf ps + s.memoryPaid.toNat) ∧
    ∃ ps, (start code gasLimit).history = (ps, run code gasLimit) ∧
      (run code gasLimit).state.gasUsed.toNat + (run code gasLimit).state.gasRemaining.toNat = gasLimit.toNat ∧
      (run code gasLimit).state.gasUsed.toNat =
        constantGasOf ps + 50 * exponentBytesOf ps + (run code gasLimit).state.memoryPaid.toNat ∧
      ((run code gasLimit).fault? = none → (run code gasLimit).state.gasUsed.toNat =
        constantGasOf ps + 50 * exponentBytesOf ps +
          (Gas.memoryCost (run code gasLimit).state.memory.wordLength).toNat) := by
  have hstart := sound_start code gasLimit
  have hzero : Itemised [] (start code gasLimit) := rfl
  constructor
  · intro ps s hr
    refine ⟨?_, (hr.sound hstart).1.conserved, hr.itemised hstart hzero⟩
    rw [hr.history]
    exact List.prefix_append _ _
  · have hends := ends_run code gasLimit
    have hitem := hends.itemised hstart hzero
    refine ⟨(start code gasLimit).history.1, Prod.ext rfl (history_outcome _), (hends.halted hstart).1.conserved,
      hitem, ?_⟩
    intro hok
    -- a run that succeeds ends in a state that it reaches, where the memory is paid for to the word
    cases hout : run code gasLimit with
    | ok t =>
      rw [hout] at hends hitem
      have hs := (hends.reaches.sound hstart).1
      rw [Outcome.state, hs.whole.memoryCost_toNat, ← hs.paid]
      exact hitem
    | fault e t => rw [hout] at hok; cases hok

/-- the bill of a power with an exponent of two bytes, and of a store of the first word -/
theorem bill_of_power_and_store :
    let code := #[0x61, 0x01, 0x00, 0x60, 0x02, 0x0a, 0x60, 0x00, 0x52]
    (run code 200).fault? = none ∧ ∃ ps, (start code 200).history = (ps, run code 200) ∧ ps.length = 5 ∧
      125 = constantGasOf ps + 50 * exponentBytesOf ps + (Gas.memoryCost 1).toNat := by
  intro code
  have hok : (run code 200).fault? = none := by decide +kernel
  have hused : (run code 200).state.gasUsed.toNat = 125 := by decide +kernel
  have hwords : (run code 200).state.memory.wordLength = 1 := by decide +kernel
  have hlen : (start code 200).history.1.length = 5 := by decide +kernel
  obtain ⟨-, ps, hps, -, -, hbill⟩ := gas_bill code 200
  refine ⟨hok, ps, hps, by rw [hps] at hlen; exact hlen, ?_⟩
  rw [← hused, ← hwords]
  exact hbill hok

end State

end GasMachine
