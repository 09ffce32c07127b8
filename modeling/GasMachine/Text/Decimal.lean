import GasMachine.Text.Blank
/-
Unsigned 64-bit numbers as decimal text: one optional plus sign and one or more digits, any number of leading zeros
among them, with a value below 2^64.
-/
namespace GasMachine.Text.Decimal

/-- the value of a decimal digit -/
def digitValue? (c : Char) : Option Nat := if '0' ≤ c ∧ c ≤ '9' then some (c.toNat - 48) else none

/-- one more digit, if it is one and the value still fits -/
def push (n : Nat) (c : Char) : Option Nat := do
  let d ← digitValue? c
  let m := 10 * n + d
  if m < UInt64.size then some m else none

/-- the value of the digits, if they are digits and fit -/
def digits (cs : List Char) : Option Nat := cs.foldlM push 0

/-- the digits after one leading plus sign -/
def dropPlus : List Char → List Char
  | '+' :: rest => rest
  | cs => cs

/-- the number a text denotes, blanks at its ends apart -/
def read? (s : String) : Option UInt64 :=
  match dropPlus (trim s.toList) with
  | [] => none
  | cs => (digits cs).map Nat.toUInt64

end GasMachine.Text.Decimal
