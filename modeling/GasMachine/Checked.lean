/-
Arithmetic on 64-bit counts that says when a result does not fit: `add` and `ceil32` give `none` in place of a wrapped
sum, and `sub` stops at zero.
-/
namespace GasMachine.Checked

/-- the sum, if it fits in 64 bits -/
def add (a b : UInt64) : Option UInt64 := if a.toNat + b.toNat < UInt64.size then some (a + b) else none

/-- the difference, zero where it would be negative -/
def sub (a b : UInt64) : UInt64 := if a < b then 0 else a - b

/-- the next multiple of 32, `n` itself included, if it fits in 64 bits -/
def ceil32 (n : UInt64) : Option UInt64 := if n % 32 = 0 then some n else add n (32 - n % 32)

end GasMachine.Checked
