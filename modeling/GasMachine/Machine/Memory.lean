import GasMachine.Word
import GasMachine.Checked
/-
Memory: bytes that only grow, in whole words of 32, and start as zero.

`extend` grows to a size rounded up to a whole word; sizes above `maxSize` are refused, and a memory that is large
enough already is kept. A store extends the memory to the end of what it writes and then writes it.
-/
namespace GasMachine

/-- the memory of a run -/
structure Memory where
  bytes : Bytes
deriving DecidableEq, Repr

namespace Memory

/-- the largest size in bytes: above it the quadratic part of the cost does not fit in 64 bits -/
def maxSize : UInt64 := 0x1FFFFFFFE0

/-- the memory without bytes -/
def empty : Memory := ⟨#[]⟩

/-- the size in bytes -/
def byteLength (m : Memory) : UInt64 := m.bytes.size.toUInt64

/-- the size in words -/
def wordLength (m : Memory) : UInt64 := m.byteLength / 32

/-- the size in bytes of a memory that reaches up to `last`, if it may be that large -/
def sizeFor (last : UInt64) : Except Fault UInt64 :=
  match Checked.ceil32 last with
  | some size => if size ≤ maxSize then .ok size else .error .gasOverflow
  | none => .error .gasOverflow

/-- the memory padded with zeros to `size` bytes -/
def grow (m : Memory) (size : Nat) : Memory := ⟨m.bytes ++ Array.replicate (size - m.bytes.size) 0⟩

/-- the memory grown to reach up to `last` -/
def extend (m : Memory) (last : UInt64) : Except Fault Memory :=
  match sizeFor last with
  | .ok size => .ok (if m.byteLength < size then m.grow size.toNat else m)
  | .error e => .error e

/-- the memory with `bs` written from `start` on -/
def overwrite (m : Memory) : Nat → List UInt8 → Memory
  | _, [] => m
  | start, b :: bs => overwrite ⟨m.bytes.setIfInBounds start b⟩ (start + 1) bs

/-- the memory grown by a write of `bs` at `offset`, and written -/
def write (m : Memory) (offset : UInt64) (bs : List UInt8) : Except Fault Memory :=
  match Checked.add offset bs.length.toUInt64 with
  | some last =>
    match m.extend last with
    | .ok m' => .ok (m'.overwrite offset.toNat bs)
    | .error e => .error e
  | none => .error .gasOverflow

/-- the 32 bytes of a word stored at `offset` -/
def storeWord (m : Memory) (offset : UInt64) (w : Word) : Except Fault Memory := m.write offset w.toBytes

/-- one byte stored at `offset` -/
def storeByte (m : Memory) (offset : UInt64) (b : UInt8) : Except Fault Memory := m.write offset [b]

end Memory

end GasMachine
