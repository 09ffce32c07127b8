import GasMachine.Machine.Stack
import GasMachine.Machine.Memory
/-
The state of a run: the code, the place in it, the stack, the memory, and the gas account.

`opcode` is the opcode byte fetched last (zero before the first), and `memoryPaid` the cost of the largest memory billed
so far, which may run ahead of the memory when the store that was billed then faults.
-/
namespace GasMachine

/-- the state of a run -/
structure State where
  code : Bytes
  /-- the offset of the next byte to fetch -/
  pc : Nat
  /-- the opcode fetched last -/
  opcode : UInt8
  stack : Stack
  memory : Memory
  gasRemaining : UInt64
  gasUsed : UInt64
  /-- the highest memory cost billed so far -/
  memoryPaid : UInt64
deriving DecidableEq, Repr

/-- where an action on a state leads: on with a new state, or to a fault in the state it left behind -/
inductive Outcome where
  | ok (s : State)
  | fault (f : Fault) (s : State)
deriving DecidableEq, Repr

namespace Outcome

/-- the state an outcome leaves -/
def state : Outcome → State
  | ok s => s
  | fault _ s => s

/-- the fault, if there is one -/
def fault? : Outcome → Option Fault
  | ok _ => none
  | fault f _ => some f

end Outcome

namespace State

/-- the state before the first step -/
def start (code : Bytes) (gasLimit : UInt64) : State :=
  { code, pc := 0, opcode := 0, stack := .empty, memory := .empty, gasRemaining := gasLimit, gasUsed := 0,
    memoryPaid := 0 }

/-- whether the code is used up -/
def isDone (s : State) : Bool := s.code.size ≤ s.pc

/-- the state after paying `gas`, all or nothing -/
def useGas (s : State) (gas : UInt64) : Except Fault State :=
  if s.gasRemaining < gas then .error .outOfGas
  else .ok { s with gasRemaining := s.gasRemaining - gas, gasUsed := s.gasUsed + gas }

/-- the `n` bytes of code after the place reached -/
def nextBytes (s : State) (n : Nat) : Except Fault (List UInt8) :=
  if s.pc + n ≤ s.code.size then .ok (s.code.extract s.pc (s.pc + n)).toList else .error (.truncated s.opcode)

end State

end GasMachine
