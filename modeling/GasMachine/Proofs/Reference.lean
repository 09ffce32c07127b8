import Mathlib.Tactic
import GasMachine.Proofs.Counts
/-
A reference evaluator for the machine, over the naturals.

It keeps neither a record of the memory paid for nor the opcode fetched last, counts without a bound, and builds a new
memory for every store. A configuration is the place, the stack as numbers, the memory as a list of bytes, and the gas
used and left. A step has one order: decode, charge, pay, act.

- a byte outside the instruction set stops the run where it stands; every other fault is one past the opcode byte;
- an exponent or an offset that is not there, and a store beyond the bound, stop the run before anything is charged;
- then a charge above the gas left does, and nothing is charged either;
- then the charge is paid, and stays paid if the operation cannot act.

The charge of a store is the cost of the words it needs above the cost of the words there are, so that what was billed
before is read off the size of the memory.
-/
namespace GasMachine.Reference

/-- the operations; a store and a push carry the number of bytes they write and read -/
inductive Operation where
  | add
  | mul
  | sdiv
  | exp
  | store (size : ℕ)
  | push (width : ℕ)
deriving DecidableEq, Repr

/-- the operation a byte stands for -/
def decode (b : UInt8) : Option Operation :=
  match b.toNat with
  | 0x01 => some .add
  | 0x02 => some .mul
  | 0x05 => some .sdiv
  | 0x0a => some .exp
  | 0x52 => some (.store 32)
  | 0x53 => some (.store 1)
  | 0x60 => some (.push 1)
  | 0x61 => some (.push 2)
  | 0x62 => some (.push 3)
  | 0x7f => some (.push 32)
  | _ => none

/-- where an evaluation stands -/
structure Config where
  pc : ℕ
  /-- the numbers on the stack, top first -/
  stack : List ℕ
  memory : List UInt8
  used : ℕ
  left : ℕ
deriving DecidableEq, Repr

namespace Config

/-- the configuration one past the opcode byte -/
def fetched (c : Config) : Config := { c with pc := c.pc + 1 }

/-- the configuration one past the opcode byte, with `gas` paid -/
def paid (c : Config) (gas : ℕ) : Config := { c.fetched with used := c.used + gas, left := c.left - gas }

end Config

/-! ## Charges -/

/-- the least number of bytes that hold `n` -/
def byteCount (n : ℕ) : ℕ := Nat.find (p := fun k => n < 256 ^ k) ⟨n, Nat.lt_pow_self (by decide)⟩

/-- what an operation costs, or why that cannot be said -/
def charge (c : Config) : Operation → Except Fault ℕ
  | .add | .push _ => .ok 3
  | .mul | .sdiv => .ok 5
  | .exp =>
    match c.stack with
    | _ :: e :: _ => .ok (10 + 50 * byteCount e)
    | _ => .error .stackUnderflow
  | .store size =>
    match c.stack with
    | [] => .error .stackUnderflow
    | offset :: _ =>
      if 0x1FFFFFFFE0 < offset + size then .error .gasOverflow
      else
        let words := c.memory.length / 32
        .ok (3 + Gas.price (max words (wordsFor (offset + size))) - Gas.price words)

/-! ## Actions -/

/-- a number read in two's complement -/
def signed (n : ℕ) : ℤ := if n < 2 ^ 255 then n else n - 2 ^ 256

/-- the two's complement quotient, rounded towards zero; zero for a zero divisor -/
def quotient (a b : ℕ) : ℕ := if b = 0 then 0 else ((signed a).tdiv (signed b) % 2 ^ 256).toNat

/-- the two top numbers replaced by `f` of them -/
def binary (f : ℕ → ℕ → ℕ) (c : Config) : Except Fault Config :=
  match c.stack with
  | a :: b :: rest => .ok { c with stack := f a b :: rest }
  | _ => .error .stackUnderflow

/-- the `size` low digits of `n` to the base 256, most significant first -/
def digits (size n : ℕ) : List UInt8 := (List.range size).map fun i => UInt8.ofNat (n / 256 ^ (size - 1 - i))

/-- the memory filled up with zeros to the words that `bs` at `offset` need, and `bs` in place of what stood there -/
def written (memory : List UInt8) (offset : ℕ) (bs : List UInt8) : List UInt8 :=
  let filled := memory ++ List.replicate (32 * wordsFor (offset + bs.length) - memory.length) 0
  filled.take offset ++ bs ++ filled.drop (offset + bs.length)

/-- the two top numbers taken off, and the second written at the offset that the first is -/
def store (size : ℕ) (c : Config) : Except Fault Config :=
  match c.stack with
  | offset :: value :: rest => .ok { c with stack := rest, memory := written c.memory offset (digits size value) }
  | _ => .error .stackUnderflow

/-- the number that the next `width` bytes of code denote, put on the stack; `b` is the opcode byte -/
def push (code : List UInt8) (b : UInt8) (width : ℕ) (c : Config) : Except Fault Config :=
  if code.length < c.pc + width then .error (.truncated b)
  else if 1024 ≤ c.stack.length then .error .stackOverflow
  else
    let read := (code.drop c.pc).take width
    .ok { c with pc := c.pc + width, stack := Nat.ofDigits 256 (read.reverse.map UInt8.toNat) :: c.stack }

/-- what an operation does -/
def act (code : List UInt8) (b : UInt8) : Operation → Config → Except Fault Config
  | .add => binary fun x y => (x + y) % 2 ^ 256
  | .mul => binary fun x y => x * y % 2 ^ 256
  | .sdiv => binary quotient
  | .exp => binary fun x y => x ^ y % 2 ^ 256
  | .store size => store size
  | .push width => push code b width

/-! ## Runs -/

/-- one step on the opcode byte `b`, or the fault and where it leaves off -/
def step (code : List UInt8) (b : UInt8) (c : Config) : Except (Fault × Config) Config :=
  match decode b with
  | none => .error (.invalidOpcode b, c)
  | some op =>
    match charge c op with
    | .error e => .error (e, c.fetched)
    | .ok gas =>
      if c.left < gas then .error (.outOfGas, c.fetched)
      else
        match act code b op (c.paid gas) with
        | .error e => .error (e, c.paid gas)
        | .ok c' => .ok c'

theorem binary_pc {f : ℕ → ℕ → ℕ} {c c' : Config} (h : binary f c = .ok c') : c'.pc = c.pc := by
  unfold binary at h
  split at h
  · cases h; rfl
  · cases h

/-- an operation does not move back -/
theorem act_pc {code : List UInt8} {b : UInt8} {op : Operation} {c c' : Config} (h : act code b op c = .ok c') :
    c.pc ≤ c'.pc := by
  cases op with
  | add => exact (binary_pc h).ge
  | mul => exact (binary_pc h).ge
  | sdiv => exact (binary_pc h).ge
  | exp => exact (binary_pc h).ge
  | store size =>
    simp only [act, store] at h
    split at h
    · cases h; exact le_rfl
    · cases h
  | push width =>
    simp only [act, push] at h
    split_ifs at h
    cases h
    exact Nat.le_add_right _ _

/-- a step moves forward -/
theorem step_pc {code : List UInt8} {b : UInt8} {c c' : Config} (h : step code b c = .ok c') : c.pc < c'.pc := by
  unfold step at h
  split at h
  · cases h
  · split at h
    · cases h
    · split_ifs at h
      split at h
      · cases h
      · rename_i hact
        cases h
        exact act_pc hact

/-- steps until the code is used up or one faults -/
def eval (code : List UInt8) (c : Config) : Option Fault × Config :=
  if h : c.pc < code.length then
    match _hs : step code code[c.pc] c with
    | .ok c' => eval code c'
    | .error (e, c') => (some e, c')
  else (none, c)
termination_by code.length - c.pc
decreasing_by
  have := step_pc _hs
  omega

theorem eval_of_done {code : List UInt8} {c : Config} (h : code.length ≤ c.pc) : eval code c = (none, c) := by
  rw [eval, dif_neg (by omega)]

theorem eval_of_ok {code : List UInt8} {c c' : Config} {h : c.pc < code.length} (hs : step code code[c.pc] c = .ok c') :
    eval code c = eval code c' := by
  rw [eval, dif_pos h]
  split
  · rename_i hs'
    rw [hs] at hs'
    cases hs'; rfl
  · rename_i hs'
    rw [hs] at hs'
    cases hs'

theorem eval_of_error {code : List UInt8} {c c' : Config} {e : Fault} {h : c.pc < code.length}
    (hs : step code code[c.pc] c = .error (e, c')) : eval code c = (some e, c') := by
  rw [eval, dif_pos h]
  split
  · rename_i hs'
    rw [hs] at hs'
    cases hs'
  · rename_i hs'
    rw [hs] at hs'
    cases hs'; rfl

/-- the whole evaluation of `code` with `gasLimit` gas: the fault that ended it, if any, and where it ended -/
def run (code : List UInt8) (gasLimit : ℕ) : Option Fault × Config :=
  eval code { pc := 0, stack := [], memory := [], used := 0, left := gasLimit }

/-- two stores into the first words, and a third that is paid for and finds no number to write -/
example : run [0x60, 0xff, 0x60, 0x01, 0x52, 0x60, 0xaa, 0x60, 0x02, 0x53, 0x60, 0x40, 0x53] 100 =
    (some .stackUnderflow,
      ⟨13, [64], [0, 0, 0xaa] ++ List.replicate 29 0 ++ [0xff] ++ List.replicate 31 0, 33, 67⟩) := by
  decide +kernel

end GasMachine.Reference
