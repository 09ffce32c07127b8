import GasMachine.Machine.State
/-
The part of an instruction's gas that depends on the state.

Memory of `w` words costs 3 w + w^2 / 512 in all. A store is billed the cost of the memory it needs above the highest
cost billed so far, and nothing if the memory reaches that far already. An exponentiation is billed by the bytes of its
exponent. These functions only read the state, as it is before the instruction acts.
-/
namespace GasMachine

/-- a state-dependent charge -/
structure DynamicGas where
  gas : UInt64
  /-- the memory cost billed so far, once this is paid; `none` if the memory does not grow -/
  memoryCost : Option UInt64
deriving DecidableEq, Repr

namespace Gas

/-- gas per byte of an exponent -/
def expByte : UInt64 := 50

/-- the gas limit of a run that is given none -/
def defaultLimit : UInt64 := 1000000000

/-- the opcode of the one-byte store -/
def byteStore : UInt8 := 0x53

/-- the whole cost of `words` words of memory -/
def memoryCost (words : UInt64) : UInt64 := 3 * words + words * words / 512

/-- no charge -/
def free : DynamicGas := ⟨0, none⟩

/-- the bytes that the store under way writes -/
def writeSize (s : State) : UInt64 := if s.opcode = byteStore then 1 else 32

/-- the size of the memory that a write of `size` bytes at the word `offset` needs -/
def sizeNeeded (offset : Word) (size : UInt64) : Except Fault UInt64 :=
  match offset.toCount? with
  | none => .error .gasOverflow
  | some o =>
    match Checked.add o size with
    | none => .error .gasOverflow
    | some last => Memory.sizeFor last

/-- the charge for the memory that the store under way needs -/
def memoryExpansion (s : State) : Except Fault DynamicGas :=
  match s.stack.peek 0 with
  | .error e => .error e
  | .ok offset =>
    match sizeNeeded offset (writeSize s) with
    | .error e => .error e
    | .ok size =>
      if size ≤ s.memory.byteLength then .ok free
      else
        let cost := memoryCost (size / 32)
        .ok ⟨Checked.sub cost s.memoryPaid, some cost⟩

/-- the charge for the exponent, second from the top -/
def exponent (s : State) : Except Fault DynamicGas :=
  match s.stack.peek 1 with
  | .error e => .error e
  | .ok e => .ok ⟨expByte * e.byteLength.toUInt64, none⟩

end Gas

end GasMachine
