import GasMachine.Word
import GasMachine.Text.Blank
/-
Bytes as hexadecimal text.

`encode` writes two lower-case digits per byte. `decode` reads digits of either case, after the blanks at both ends and
one leading `0x` are dropped; the number of bytes of what is left is checked before its characters are.
-/
namespace GasMachine.Text.Hex

/-- the digit of a value below 16 -/
def digit (n : Nat) : Char := if n < 10 then Char.ofNat (48 + n) else Char.ofNat (87 + n)

/-- the value of a digit of either case -/
def digitValue? (c : Char) : Option Nat :=
  if '0' ≤ c ∧ c ≤ '9' then some (c.toNat - 48)
  else if 'a' ≤ c ∧ c ≤ 'f' then some (c.toNat - 87)
  else if 'A' ≤ c ∧ c ≤ 'F' then some (c.toNat - 55)
  else none

/-- two digits per byte -/
def encode (bs : List UInt8) : List Char := bs.flatMap fun b => [digit (b.toNat / 16), digit (b.toNat % 16)]

/-- the digits of a byte string as text -/
def toText (bs : Bytes) : String := String.ofList (encode bs.toList)

/-- why a text is not hexadecimal -/
inductive Refusal where
  | oddLength (bytes : Nat)
  | unexpected (c : Char)
deriving DecidableEq, Repr

/-- the sentence that reports a refused text -/
def Refusal.message : Refusal → String
  | oddLength n => "invalid hex string: odd length " ++ decimal n
  | unexpected c => "invalid hex string: unexpected character '" ++ c.toString ++ "'"

/-- the bytes that pairs of digits denote -/
def pairs : List Char → List UInt8
  | a :: b :: rest => (16 * (digitValue? a).getD 0 + (digitValue? b).getD 0).toUInt8 :: pairs rest
  | _ => []

/-- the text without one leading `0x` -/
def dropMark : List Char → List Char
  | '0' :: 'x' :: rest => rest
  | cs => cs

/-- the number of bytes a text takes in UTF-8 -/
def utf8Length (cs : List Char) : Nat := cs.foldr (fun c n => c.utf8Size + n) 0

/-- the digits of a trimmed, unmarked text -/
def decodeDigits (cs : List Char) : Except Refusal (List UInt8) :=
  if utf8Length cs % 2 ≠ 0 then .error (.oddLength (utf8Length cs))
  else match cs.find? (fun c => (digitValue? c).isNone) with
    | some c => .error (.unexpected c)
    | none => .ok (pairs cs)

/-- the bytes that a text denotes -/
def decode (s : String) : Except Refusal (List UInt8) := decodeDigits (dropMark (trim s.toList))

end GasMachine.Text.Hex
