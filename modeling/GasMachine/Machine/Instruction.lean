import GasMachine.Machine.Gas
/-
The instruction set: opcodes, names, gas, and what each instruction does to the state.

`perform` runs an instruction whose gas has been paid. A binary operation takes the top word off and replaces the one
below it; a store takes its offset and its value off. Both look for the second word first, so that nothing is taken off
if it is not there, and all that is done to the stack after that succeeds (`binary_eq`, `store_eq`). A store looks at its
offset with the words off, so one that faults on the offset leaves them off. A push reads as many bytes of code as its
opcode byte says, and moves past them only if the push succeeds.
-/
namespace GasMachine

/-- the instructions -/
inductive Instruction where
  | add
  | mul
  | sdiv
  | exp
  | mstore
  | mstore8
  | push1
  | push2
  | push3
  | push32
deriving DecidableEq, Repr

namespace Instruction

/-- every instruction, by opcode -/
def all : List Instruction := [add, mul, sdiv, exp, mstore, mstore8, push1, push2, push3, push32]

/-- the byte that stands for an instruction in code -/
def opcode : Instruction → UInt8
  | add => 0x01
  | mul => 0x02
  | sdiv => 0x05
  | exp => 0x0a
  | mstore => 0x52
  | mstore8 => 0x53
  | push1 => 0x60
  | push2 => 0x61
  | push3 => 0x62
  | push32 => 0x7f

/-- the instruction a byte stands for -/
def ofByte? (b : UInt8) : Option Instruction := all.find? (fun i => i.opcode == b)

/-- the name of an instruction -/
def name : Instruction → String
  | add => "ADD"
  | mul => "MUL"
  | sdiv => "SDIV"
  | exp => "EXP"
  | mstore => "MSTORE"
  | mstore8 => "MSTORE8"
  | push1 => "PUSH1"
  | push2 => "PUSH2"
  | push3 => "PUSH3"
  | push32 => "PUSH32"

/-- the gas an instruction takes in every state -/
def constantGas : Instruction → UInt64
  | mul | sdiv => 5
  | exp => 10
  | _ => 3

/-- the state-dependent part of the gas, for the instructions that have one -/
def dynamicGas? : Instruction → Option (State → Except Fault DynamicGas)
  | exp => some Gas.exponent
  | mstore | mstore8 => some Gas.memoryExpansion
  | _ => none

/-- the state-dependent part of the gas -/
def dynamicGas (i : Instruction) (s : State) : Except Fault DynamicGas :=
  match i.dynamicGas? with
  | some f => f s
  | none => .ok Gas.free

/-- the two top words replaced by `op` of them -/
def binary (op : Word → Word → Word) (s : State) : Outcome :=
  match s.stack.peek 1 with
  | .error e => .fault e s
  | .ok b =>
    match s.stack.pop with
    | .error e => .fault e s
    | .ok (a, below) =>
      match below.set 0 (op a b) with
      | .error e => .fault e { s with stack := below }
      | .ok stack => .ok { s with stack }

/-- the offset and the value of a store taken off the stack, in that order, and the offset as a count -/
def takeOperands (s : State) : Except (Fault × State) (UInt64 × Word × State) :=
  match s.stack.peek 1 with
  | .error e => .error (e, s)
  | .ok _ =>
    match s.stack.pop with
    | .error e => .error (e, s)
    | .ok (offset, below) =>
      match below.pop with
      | .error e => .error (e, { s with stack := below })
      | .ok (value, rest) =>
        match offset.toCount? with
        | none => .error (.gasOverflow, { s with stack := rest })
        | some o => .ok (o, value, { s with stack := rest })

/-- the operands of a store taken off the stack, and the value written at the offset -/
def store (bytes : Word → List UInt8) (s : State) : Outcome :=
  match takeOperands s with
  | .error (e, s') => .fault e s'
  | .ok (o, value, s') =>
    match s'.memory.write o (bytes value) with
    | .ok memory => .ok { s' with memory }
    | .error e => .fault e s'

/-- a binary operation fails only for want of a word, before it takes one off -/
theorem binary_eq (op : Word → Word → Word) (s : State) :
    binary op s = match s.stack.words with
      | a :: b :: rest => .ok { s with stack := ⟨op a b :: rest⟩ }
      | _ => .fault .stackUnderflow s := by
  unfold binary
  cases hpeek : s.stack.peek 1 with
  | error e =>
    obtain ⟨hshort, rfl⟩ := Stack.peek_error hpeek
    dsimp only
    split
    · rename_i hw
      simp [hw] at hshort
    · rfl
  | ok b =>
    obtain ⟨a, rest, hw, hpop, -, hset⟩ := Stack.pop_of_peek_one hpeek
    simp only [hw, hpop, hset]

/-- a store fails for want of a word before it takes one off, and otherwise without both of them -/
theorem store_eq (bytes : Word → List UInt8) (s : State) :
    store bytes s = match s.stack.words with
      | offset :: value :: rest =>
        match offset.toCount? with
        | none => .fault .gasOverflow { s with stack := ⟨rest⟩ }
        | some o =>
          match s.memory.write o (bytes value) with
          | .ok m => .ok { s with stack := ⟨rest⟩, memory := m }
          | .error e => .fault e { s with stack := ⟨rest⟩ }
      | _ => .fault .stackUnderflow s := by
  unfold store takeOperands
  cases hpeek : s.stack.peek 1 with
  | error e =>
    obtain ⟨hshort, rfl⟩ := Stack.peek_error hpeek
    dsimp only
    split
    · rename_i hw
      simp [hw] at hshort
    · rfl
  | ok value =>
    obtain ⟨offset, rest, hw, hpop, hpop', -⟩ := Stack.pop_of_peek_one hpeek
    simp only [hw, hpop, hpop']
    cases offset.toCount? with
    | none => rfl
    | some o => rfl

/-- the number of bytes that the opcode fetched last pushes -/
def width (s : State) : Nat := s.opcode.toNat - 0x5f

/-- the bytes after the opcode pushed as a word -/
def push (s : State) : Outcome :=
  match s.nextBytes (width s) with
  | .error e => .fault e s
  | .ok bs =>
    match Word.ofBytes bs with
    | .error e => .fault e s
    | .ok w =>
      match s.stack.push w with
      | .error e => .fault e s
      | .ok stack => .ok { s with stack, pc := s.pc + width s }

/-- what an instruction does -/
def perform : Instruction → State → Outcome
  | add => binary Word.add
  | mul => binary Word.mul
  | sdiv => binary Word.sdiv
  | exp => binary Word.exp
  | mstore => store Word.toBytes
  | mstore8 => store fun w => [w.lowByte]
  | push1 | push2 | push3 | push32 => push

end Instruction

end GasMachine
