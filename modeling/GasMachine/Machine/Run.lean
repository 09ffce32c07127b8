import GasMachine.Machine.Instruction
/-
Runs: one step, and steps until the code is used up or a step faults.

A step fetches the byte at `pc`, pays for the instruction it stands for, and performs it. A byte that stands for no
instruction faults with the state untouched; from there on the place is one past the opcode, whatever fails. Gas is
paid in full before anything else happens, and is not paid back if the instruction then faults.

`step_advances` is why a run ends: a step that does not fault moves forward in the same code.
-/
namespace GasMachine

/-- an instruction whose gas has been paid, about to act on `state` -/
structure Paid where
  /-- the offset of its opcode -/
  offset : Nat
  instruction : Instruction
  /-- the gas it took -/
  gas : UInt64
  state : State
deriving DecidableEq, Repr

namespace State

/-- the state with the memory cost billed so far moved up to `cost`, if there is one -/
def billMemory (s : State) : Option UInt64 → State
  | some cost => { s with memoryPaid := cost }
  | none => s

/-- the gas of `i`, and the state after paying it -/
def pay (s : State) (i : Instruction) : Except Fault (UInt64 × State) :=
  match i.dynamicGas s with
  | .error e => .error e
  | .ok d =>
    match Checked.add i.constantGas d.gas with
    | none => .error .outOfGas
    | some gas =>
      match s.useGas gas with
      | .error e => .error e
      | .ok s' => .ok (gas, s'.billMemory d.memoryCost)

/-- the state with the opcode `b` fetched -/
def fetched (s : State) (b : UInt8) : State := { s with pc := s.pc + 1, opcode := b }

/-- the instruction that the byte `b` at the place reached stands for, fetched and paid for -/
def prepareByte (s : State) (b : UInt8) : Except (Fault × State) Paid :=
  match Instruction.ofByte? b with
  | none => .error (.invalidOpcode b, s)
  | some i =>
    match (s.fetched b).pay i with
    | .error e => .error (e, s.fetched b)
    | .ok (gas, s') => .ok ⟨s.pc, i, gas, s'⟩

/-- the next instruction fetched and paid for -/
def prepare (s : State) (h : s.pc < s.code.size) : Except (Fault × State) Paid := s.prepareByte s.code[s.pc]

/-- one step -/
def step (s : State) (h : s.pc < s.code.size) : Outcome :=
  match s.prepare h with
  | .error (e, s') => .fault e s'
  | .ok p => p.instruction.perform p.state

/-- paying gas keeps the code and the place -/
theorem useGas_keeps {s s' : State} {gas : UInt64} (h : s.useGas gas = .ok s') : s'.code = s.code ∧ s'.pc = s.pc := by
  unfold useGas at h
  split at h
  · cases h
  · cases h; exact ⟨rfl, rfl⟩

/-- billing memory keeps the code and the place -/
theorem billMemory_keeps (s : State) (cost : Option UInt64) :
    (s.billMemory cost).code = s.code ∧ (s.billMemory cost).pc = s.pc := by
  cases cost with
  | none => exact ⟨rfl, rfl⟩
  | some c => exact ⟨rfl, rfl⟩

/-- paying for an instruction keeps the code and the place -/
theorem pay_keeps {s s' : State} {i : Instruction} {gas : UInt64} (h : s.pay i = .ok (gas, s')) :
    s'.code = s.code ∧ s'.pc = s.pc := by
  unfold pay at h
  split at h
  · cases h
  · split at h
    · cases h
    · split at h
      · cases h
      · rename_i ht
        cases h
        have hu := useGas_keeps ht
        have hb := billMemory_keeps
        exact ⟨(hb _ _).1.trans hu.1, (hb _ _).2.trans hu.2⟩

/-- an instruction that does not fault keeps the code and does not move back -/
theorem perform_keeps {i : Instruction} {s s' : State} (h : i.perform s = .ok s') :
    s'.code = s.code ∧ s.pc ≤ s'.pc := by
  have binary {op : Word → Word → Word} (h : Instruction.binary op s = .ok s') : s'.code = s.code ∧ s.pc ≤ s'.pc := by
    rw [Instruction.binary_eq] at h
    split at h
    · cases h; exact ⟨rfl, Nat.le_refl _⟩
    · cases h
  have store {bs : Word → List UInt8} (h : Instruction.store bs s = .ok s') : s'.code = s.code ∧ s.pc ≤ s'.pc := by
    rw [Instruction.store_eq] at h
    split at h
    · split at h
      · cases h
      · split at h
        · cases h; exact ⟨rfl, Nat.le_refl _⟩
        · cases h
    · cases h
  have push (h : Instruction.push s = .ok s') : s'.code = s.code ∧ s.pc ≤ s'.pc := by
    unfold Instruction.push at h
    split at h
    · cases h
    · split at h
      · cases h
      · split at h
        · cases h
        · cases h; exact ⟨rfl, Nat.le_add_right _ _⟩
  cases i with
  | add => exact binary h
  | mul => exact binary h
  | sdiv => exact binary h
  | exp => exact binary h
  | mstore => exact store h
  | mstore8 => exact store h
  | push1 => exact push h
  | push2 => exact push h
  | push3 => exact push h
  | push32 => exact push h

/-- what is prepared has its opcode just behind it -/
theorem prepare_keeps {s : State} {h : s.pc < s.code.size} {p : Paid} (hp : s.prepare h = .ok p) :
    p.state.code = s.code ∧ p.state.pc = s.pc + 1 := by
  unfold prepare prepareByte at hp
  split at hp
  · cases hp
  · split at hp
    · cases hp
    · rename_i hpay
      cases hp
      exact pay_keeps hpay

/-- a step that does not fault moves forward in the same code -/
theorem step_advances {s s' : State} {h : s.pc < s.code.size} (hs : s.step h = .ok s') :
    s'.code = s.code ∧ s.pc < s'.pc := by
  unfold step at hs
  split at hs
  · cases hs
  · rename_i p hp
    have h1 := prepare_keeps hp
    have h2 := perform_keeps hs
    exact ⟨h2.1.trans h1.1, by omega⟩

/-- steps until the code is used up or one faults -/
def execute (s : State) : Outcome :=
  if h : s.pc < s.code.size then
    match _hs : s.step h with
    | .ok s' => execute s'
    | .fault e s' => .fault e s'
  else .ok s
termination_by s.code.size - s.pc
decreasing_by
  have := step_advances _hs
  rw [this.1]
  omega

end State

/-- the whole run of `code` with `gasLimit` gas -/
def run (code : Bytes) (gasLimit : UInt64) : Outcome := (State.start code gasLimit).execute

end GasMachine
