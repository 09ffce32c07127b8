import Mathlib.Tactic
import GasMachine.Report
import GasMachine.Proofs.Reference
import GasMachine.Proofs.Account
/-
The machine and the reference evaluator do the same.

`State.view` forgets what the reference does not keep: the words and counts are read as naturals, and the opcode and
the memory paid for are dropped. On sound states a charge is the reference's charge (`charge_view`), what an
instruction does is what its operation does (`act_view`), hence a step is a step (`step_view`) and a run a run
(`eval_view`). The memory paid for is recovered in `charge_view` alone: between two steps it is the price of the words
there are.
-/
namespace GasMachine

open Reference (Config Operation)

/-- what the reference keeps of a state -/
def State.view (s : State) : Config :=
  { pc := s.pc, stack := s.stack.words.map BitVec.toNat, memory := s.memory.bytes.toList, used := s.gasUsed.toNat,
    left := s.gasRemaining.toNat }

/-- the outcome of an instruction as the reference has it: a fault leaves the configuration to the step -/
def Outcome.action : Outcome → Except Fault Config
  | ok s => .ok s.view
  | fault e _ => .error e

/-- the outcome of a step as the reference has it -/
def Outcome.view : Outcome → Except (Fault × Config) Config
  | ok s => .ok s.view
  | fault e s => .error (e, s.view)

namespace Instruction

/-- the operation an instruction is -/
def operation : Instruction → Operation
  | add => .add
  | mul => .mul
  | sdiv => .sdiv
  | exp => .exp
  | mstore => .store 32
  | mstore8 => .store 1
  | push1 => .push 1
  | push2 => .push 2
  | push3 => .push 3
  | push32 => .push 32

theorem decode_eq (b : UInt8) : Reference.decode b = (ofByte? b).map operation := by
  have table : ∀ n : Fin 256, Reference.decode (.ofFin n) = (ofByte? (.ofFin n)).map operation := by decide +kernel
  exact table b.toFin

theorem operation_of_writes {i : Instruction} (hi : i.writes ≠ 0) :
    i.operation = .store i.writes ∧ i.constantGas.toNat = 3 := by
  cases i with
  | mstore => exact ⟨rfl, rfl⟩
  | mstore8 => exact ⟨rfl, rfl⟩
  | _ => exact absurd rfl hi

end Instruction

/-! ## Charges -/

theorem Word.byteCount_toNat (w : Word) : Reference.byteCount w.toNat = w.byteLength := by
  unfold Reference.byteCount
  rw [Nat.find_eq_iff]
  exact ⟨(w.byteLength_le_iff _).1 le_rfl, fun k hk h => absurd ((w.byteLength_le_iff k).2 h) (by omega)⟩

/-- **Charges agree** where the memory is paid for to the word. -/
theorem State.charge_view {limit : UInt64} {s : State} (hs : Sound limit s) {b : UInt8} {i : Instruction}
    (hb : Instruction.ofByte? b = some i) :
    Reference.charge s.view i.operation =
      (i.dynamicGas (s.fetched b)).map fun d => i.constantGas.toNat + d.gas.toNat := by
  rcases i.dynamicGas_kind with ⟨rfl, hi⟩ | ⟨hst, -, hi⟩ | ⟨hst, hne, hi⟩
  · rw [hi]
    rcases Gas.exponent_cases (s.fetched b) with ⟨hlen, he⟩ | ⟨a, e, rest, gas, hw, he, hgas⟩
    · rw [he]
      simp only [fetched_stack] at hlen
      rcases hw : s.stack.words with _ | ⟨a, _ | ⟨e, rest⟩⟩
      · simp [Reference.charge, Instruction.operation, view, hw, Except.map]
      · simp [Reference.charge, Instruction.operation, view, hw, Except.map]
      · rw [hw] at hlen; simp at hlen
    · rw [he]
      simp only [fetched_stack] at hw
      simp [Reference.charge, Instruction.operation, view, hw, Except.map, Word.byteCount_toNat, hgas,
        Instruction.constantGas]
  · obtain ⟨hop, hconst⟩ := Instruction.operation_of_writes hst
    rw [hi, hop, hconst]
    rcases Gas.memoryExpansion_cases (s.fetched b) hs.whole with ⟨hw, he⟩ | ⟨offset, rest, hw, h⟩
    · rw [he]
      simp only [fetched_stack] at hw
      simp [Reference.charge, view, hw, Except.map]
    · simp only [fetched_stack] at hw
      simp only [fetched_memory, fetched_memoryPaid, Instruction.writeSize_toNat hb hst, Memory.maxSize_toNat] at h
      have hview : s.view.stack = offset.toNat :: rest.map BitVec.toNat := by simp [view, hw]
      have hwords : s.view.memory.length / 32 = s.memory.words := by simp [view, Memory.words]
      simp only [Reference.charge, hview, hwords]
      rcases h with ⟨hlt, he⟩ | ⟨hle, hfit, he⟩ | ⟨hle, hgrow, cost, hcost, he⟩
      · rw [he, if_pos hlt]; rfl
      · rw [he, if_neg (by omega), max_eq_left hfit]
        simp [Except.map, Gas.free]
      · have hprice := Gas.price_strictMono hgrow
        rw [he, if_neg (by omega), max_eq_right hgrow.le]
        simp only [Except.map, Checked.toNat_sub, hcost, hs.paid]
        congr 1
        omega
  · rw [hi]
    cases i with
    | exp => exact absurd rfl hne
    | mstore => exact absurd hst (by decide)
    | mstore8 => exact absurd hst (by decide)
    | _ => rfl

/-! ## Actions -/

theorem Word.signed_toNat (w : Word) : Reference.signed w.toNat = w.toInt := w.toInt_eq.symm

theorem Word.quotient_toNat (a b : Word) : Reference.quotient a.toNat b.toNat = (Word.sdiv a b).toNat := by
  rw [Word.toNat_sdiv, Reference.quotient, signed_toNat, signed_toNat]
  split_ifs with hb
  · have : b = 0 := BitVec.eq_of_toNat_eq hb
    subst this; simp
  · rfl

/-- a write to the memory, byte for byte -/
theorem Memory.written_toList {m : Memory} (offset : ℕ) (bs : List UInt8) :
    ((m.grow (32 * wordsFor (offset + bs.length))).overwrite offset bs).bytes.toList =
      Reference.written m.bytes.toList offset bs := by
  have hle : offset + bs.length ≤ 32 * wordsFor (offset + bs.length) := by unfold wordsFor; omega
  rw [overwrite_toList _ _ _ (by rw [grow_size]; omega)]
  simp [Reference.written, grow]

namespace Instruction

section Actions

variable {t : State}

theorem binary_view {op : Word → Word → Word} {f : ℕ → ℕ → ℕ} (hf : ∀ a b, (op a b).toNat = f a.toNat b.toNat) :
    Reference.binary f t.view = (binary op t).action := by
  rcases hw : t.stack.words with _ | ⟨a, _ | ⟨b, rest⟩⟩
  · simp [Reference.binary, binary_eq, State.view, Outcome.action, hw]
  · simp [Reference.binary, binary_eq, State.view, Outcome.action, hw]
  · simp [Reference.binary, binary_eq, State.view, Outcome.action, hw, hf]

theorem store_view {bytes : Word → List UInt8} {size : ℕ} (hsize : size ≤ 32)
    (hbytes : ∀ w, bytes w = Reference.digits size w.toNat) (hm : t.memory.Whole)
    (hend : ∀ offset rest, t.stack.words = offset :: rest → offset.toNat + size ≤ Memory.maxSize.toNat) :
    Reference.store size t.view = (store bytes t).action := by
  have hlen (w : Word) : (bytes w).length = size := by simp [hbytes, Reference.digits]
  rcases store_cases hsize hlen t hm with ⟨hshort, he⟩ | ⟨offset, value, rest, hw, ⟨hlt, -⟩ | ⟨-, he⟩⟩
  · rw [he]
    rcases hw : t.stack.words with _ | ⟨a, _ | ⟨b, rest⟩⟩
    · simp [Reference.store, State.view, Outcome.action, hw]
    · simp [Reference.store, State.view, Outcome.action, hw]
    · rw [hw] at hshort; simp at hshort
  · have := hend offset (value :: rest) hw
    omega
  · rw [he]
    have hwritten := Memory.written_toList (m := t.memory) offset.toNat (bytes value)
    rw [hlen, hbytes value] at hwritten
    simp [Reference.store, State.view, Outcome.action, hw, hwritten, hbytes value]

theorem push_view {n : ℕ} (hn : width t = n) (hle : n ≤ 32) :
    Reference.push t.code.toList t.opcode n t.view = (push t).action := by
  have hcases := push_cases t (by omega)
  have hlimit : Stack.limit = 1024 := rfl
  have hlength : t.code.toList.length = t.code.size := rfl
  have hdepth : t.view.stack.length = t.stack.words.length := by simp [State.view]
  have hpc : t.view.pc = t.pc := rfl
  rw [hn, hlimit] at hcases
  simp only [Reference.push, hlength, hdepth, hpc]
  rcases hcases with ⟨hlt, he⟩ | ⟨hcode, hfull, he⟩ | ⟨hcode, hroom, he⟩
  · rw [he, if_pos hlt]; rfl
  · rw [he, if_neg (by omega), if_pos hfull]; rfl
  · rw [he, if_neg (by omega), if_neg (by omega)]
    -- up to 32 bytes are below 2^256, so that the word keeps their value
    have hread : (t.code.extract t.pc (t.pc + n)).toList = (t.code.toList.drop t.pc).take n := by
      simp [Array.toList_extract, List.extract_eq_take_drop]
    have hlt : bigEndian ((t.code.toList.drop t.pc).take n) < 2 ^ 256 := by
      refine (bigEndian_lt _).trans_le ?_
      rw [show (2 : ℕ) ^ 256 = 256 ^ 32 by norm_num]
      exact Nat.pow_le_pow_right (by decide) (by simp; omega)
    simp only [hread, Outcome.action, State.view, List.map_cons, BitVec.toNat_ofNat]
    rw [Nat.mod_eq_of_lt hlt, bigEndian_eq_ofDigits]

end Actions

/-- **Actions agree**, for a paid instruction whose range is within the bound. -/
theorem act_view (i : Instruction) {t : State} (hop : i.opcode = t.opcode) (hm : t.memory.Whole)
    (hend : i.writeEnd t ≤ Memory.maxSize.toNat) :
    Reference.act t.code.toList t.opcode i.operation t.view = (i.perform t).action := by
  have hwidth : width t = i.opcode.toNat - 0x5f := by rw [hop]; rfl
  cases i with
  | add => exact binary_view fun a b => BitVec.toNat_add a b
  | mul => exact binary_view fun a b => BitVec.toNat_mul a b
  | sdiv => exact binary_view fun a b => (Word.quotient_toNat a b).symm
  | exp => exact binary_view Word.toNat_exp
  | mstore =>
    exact store_view le_rfl Word.toBytes_eq hm fun offset rest hw => by rwa [writeEnd_cons (by decide) hw] at hend
  | mstore8 =>
    refine store_view (by decide) (fun w => ?_) hm fun offset rest hw => by rwa [writeEnd_cons (by decide) hw] at hend
    simp [Reference.digits, Word.lowByte]
  | push1 => exact push_view hwidth (by decide)
  | push2 => exact push_view hwidth (by decide)
  | push3 => exact push_view hwidth (by decide)
  | push32 => exact push_view hwidth (by decide)

end Instruction

/-! ## Steps and runs -/

namespace State

/-- paying, as the reference has it -/
theorem prepare_view {limit : UInt64} {s : State} (hs : Sound limit s) {h : s.pc < s.code.size} {p : Paid}
    (hp : s.prepare h = .ok p) : p.state.view = s.view.paid p.gas.toNat := by
  have hb := prepare_bill hs hp
  have hpc := (prepare_keeps hp).2
  have hleft : p.state.gasRemaining.toNat = s.gasRemaining.toNat - p.gas.toNat := by
    have := hb.remaining
    omega
  simp only [view, Config.paid, Config.fetched, hb.stack, hb.memory, hb.used, hpc, hleft]

/-- **Steps agree**, with their faults and where they leave off. -/
theorem step_view {limit : UInt64} {s : State} (hs : Sound limit s) (h : s.pc < s.code.size) :
    Reference.step s.code.toList s.code[s.pc] s.view = (s.step h).view := by
  unfold Reference.step State.step
  rw [Instruction.decode_eq]
  rcases prepare_cases s h with ⟨hi, he⟩ | ⟨i, hi, ⟨e, hd, he⟩ | ⟨d, hd, hg, he⟩ | ⟨d, hd, hg, he⟩⟩
  · rw [hi, he]; rfl
  · simp only [hi, he, Option.map_some, charge_view hs hi, hd, Except.map]
    rfl
  · simp only [hi, he, Option.map_some, charge_view hs hi, hd, Except.map]
    exact if_pos hg
  · have hlim := UInt64.toNat_lt s.gasRemaining
    have hsum : (i.constantGas + d.gas).toNat = i.constantGas.toNat + d.gas.toNat :=
      Checked.toNat_add_of_lt (by omega)
    have hb := prepare_bill hs he
    have hpaid := prepare_view hs he
    have hact : Reference.act s.code.toList s.code[s.pc] i.operation (s.view.paid (i.constantGas + d.gas).toNat) =
        (i.perform ((s.fetched s.code[s.pc]).charged (i.constantGas + d.gas) d.memoryCost)).action := by
      rw [← hpaid]
      exact i.act_view (Instruction.opcode_of_ofByte? hi) (hb.whole hs.whole) hb.inRange
    have hleft : ¬ s.view.left < i.constantGas.toNat + d.gas.toNat := Nat.not_lt.2 hg
    rw [hsum] at hact hpaid
    simp only [hi, he, Option.map_some, charge_view hs hi, hd, Except.map, if_neg hleft, hact]
    cases hf : i.perform ((s.fetched s.code[s.pc]).charged (i.constantGas + d.gas) d.memoryCost) with
    | ok t => rfl
    | fault e u =>
      -- a fault leaves off in the state paid for
      obtain ⟨rfl, -⟩ := hs.failed he hf
      rw [Outcome.view, hpaid]
      rfl

/-- **Runs agree**, from any sound state on. -/
theorem eval_view {limit : UInt64} {s : State} (hs : Sound limit s) :
    Reference.eval s.code.toList s.view = (s.execute.fault?, s.execute.state.view) := by
  fun_induction execute s with
  | case1 s h t hst ih =>
    obtain ⟨p, hm⟩ := moves_of_step hst
    have hcode := (step_advances hst).1
    have hstep := step_view hs h
    rw [hst] at hstep
    rw [← ih (hm.sound hs).1, hcode]
    exact Reference.eval_of_ok hstep
  | case2 s h e t hst =>
    have hstep := step_view hs h
    rw [hst] at hstep
    exact Reference.eval_of_error hstep
  | case3 s h => exact Reference.eval_of_done (Nat.not_lt.1 h)

/-- **The machine refines the reference.** On every code and every gas limit, the run and the report of it agree with
the reference evaluator, which counts without a bound and keeps no record of what is paid for: the same fault or none,
and the same place, stack, memory, gas used and gas left. -/
theorem run_refines_reference (code : Bytes) (gasLimit : UInt64) :
    let (fault, final) := Reference.run code.toList gasLimit.toNat
    let out := run code gasLimit
    (out.fault? = fault ∧ out.state.pc = final.pc ∧ out.state.stack.words.map BitVec.toNat = final.stack ∧
      out.state.memory.bytes.toList = final.memory ∧ out.state.gasUsed.toNat = final.used ∧
      out.state.gasRemaining.toNat = final.left) ∧
    ((report code gasLimit).fault = fault ∧ (report code gasLimit).gasUsed.toNat = final.used ∧
      (report code gasLimit).gasRefund.toNat = final.left ∧
      (report code gasLimit).memoryHash = Keccak.digest final.memory.toArray) := by
  have hrun : Reference.run code.toList gasLimit.toNat = ((run code gasLimit).fault?, (run code gasLimit).state.view) :=
    eval_view (sound_start code gasLimit)
  rw [hrun]
  simp [view, report, Report.ofOutcome, Report.ofState]

end State

end GasMachine
