/-
Faults: the causes for which the machine halts, and the words in which each is reported.

A fault is reported twice: `message` is the sentence in the report of a run, `tag` the name that traces and log lines
carry. Opcodes are written in decimal, with at least two digits in the sentence and as they are in the tag.
-/
namespace GasMachine

/-- why a run halts before the end of its code -/
inductive Fault where
  | stackOverflow
  | stackUnderflow
  | gasOverflow
  | outOfGas
  | invalidOpcode (byte : UInt8)
  | truncated (opcode : UInt8)
  | wordOverflow
deriving DecidableEq, Repr

/-- a natural number in decimal, without leading zeros -/
def decimal (n : Nat) : String := String.ofList (Nat.toDigits 10 n)

/-- a byte in decimal, in at least two digits -/
def decimalByte (b : UInt8) : String :=
  if b.toNat < 10 then "0" ++ decimal b.toNat else decimal b.toNat

namespace Fault

/-- the sentence that reports a fault -/
def message : Fault → String
  | stackOverflow => "stack overflow"
  | stackUnderflow => "stack underflow"
  | gasOverflow => "gas uint64 overflow"
  | outOfGas => "out of gas"
  | invalidOpcode b => "invalid opcode " ++ decimalByte b
  | truncated b => "not enough bytes to read for opcode " ++ decimalByte b
  | wordOverflow => "hex number > 256 bits"

/-- the name of a fault's kind -/
def kind : Fault → String
  | stackOverflow => "StackOverflow"
  | stackUnderflow => "StackUnderflow"
  | gasOverflow => "GasUintOverflow"
  | outOfGas => "OutOfGas"
  | invalidOpcode _ => "InvalidOpcode"
  | truncated _ => "NotEnoughBytesToRead"
  | wordOverflow => "Overflow"

/-- the kind together with the opcode it is about, as traces write it -/
def tag : Fault → String
  | invalidOpcode b => "InvalidOpcode(" ++ decimal b.toNat ++ ")"
  | truncated b => "NotEnoughBytesToRead(" ++ decimal b.toNat ++ ")"
  | f => f.kind

end Fault

end GasMachine
