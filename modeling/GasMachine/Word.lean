import GasMachine.Fault
/-
Machine words: 256-bit values, read as naturals or in two's complement.

`add` and `mul` wrap. `sdiv` rounds towards zero, gives zero for a zero divisor, and wraps the one quotient that does not
fit. `exp` is square and multiply modulo 2^256. `ofBytes` and `toBytes` go between words and big-endian bytes:
leading zero bytes carry no value, so any number of them is read, and 32 bytes are written.
-/
namespace GasMachine

/-- bytes, as they stand in code and in memory -/
abbrev Bytes := Array UInt8

/-- a machine word -/
abbrev Word := BitVec 256

/-- the value of bytes read with the most significant one first -/
def bigEndian (bs : List UInt8) : Nat := bs.foldl (fun n b => 256 * n + b.toNat) 0

namespace Word

/-- the sum modulo 2^256 -/
def add (a b : Word) : Word := a + b

/-- the product modulo 2^256 -/
def mul (a b : Word) : Word := a * b

/-- the two's complement quotient, rounded towards zero; zero if `b` is -/
def sdiv (a b : Word) : Word := if b = 0 then 0 else BitVec.sdiv a b

/-- `acc * b ^ e`, over the low `n` bits of `e` -/
def expBits : Nat → Word → Nat → Word → Word
  | 0, _, _, acc => acc
  | n + 1, b, e, acc => expBits n (b * b) (e / 2) (if e % 2 = 1 then acc * b else acc)

/-- the power modulo 2^256, with `exp 0 0 = 1` -/
def exp (a e : Word) : Word := expBits 256 a e.toNat 1

/-- the position of the highest set bit, counted from one; zero for zero -/
def bitLength (w : Word) : Nat := if w.toNat = 0 then 0 else w.toNat.log2 + 1

/-- the number of bytes up to the highest set bit -/
def byteLength (w : Word) : Nat := (w.bitLength + 7) / 8

/-- the word that big-endian bytes denote, if their value fits -/
def ofBytes (bs : List UInt8) : Except Fault Word :=
  let significant := bs.dropWhile (· == 0)
  if significant.length ≤ 32 then .ok (BitVec.ofNat 256 (bigEndian significant)) else .error .wordOverflow

/-- the 32 bytes of a word, most significant first -/
def toBytes (w : Word) : List UInt8 := (List.range 32).map fun i => (w.toNat >>> (8 * (31 - i))).toUInt8

/-- the least significant byte -/
def lowByte (w : Word) : UInt8 := w.toNat.toUInt8

/-- the word as a 64-bit count, if it fits -/
def toCount? (w : Word) : Option UInt64 := if w.toNat < UInt64.size then some w.toNat.toUInt64 else none

/-- hexadecimal text, `0x` and lower-case digits without leading zeros -/
def toHex (w : Word) : String := "0x" ++ String.ofList (Nat.toDigits 16 w.toNat)

/-- decimal text of the two's complement reading -/
def toSigned (w : Word) : String :=
  match w.toInt with
  | .ofNat n => decimal n
  | .negSucc n => "-" ++ decimal (n + 1)

end Word

end GasMachine
