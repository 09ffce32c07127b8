import Mathlib.Tactic
import GasMachine.Proofs.Effects
/-
Instructions on their own, in any state.

An instruction that stands in code is fetched and paid for before it acts, and that rules out much of what it checks for.
Here nothing comes before it: the state is any state, with any opcode, any place, even beyond the code, and any stack and
memory.

- `push_in_any_state`: a push succeeds exactly if the code holds the bytes that the opcode asks for, up to 160 of them, a
  word holds their value, and the stack has a place; the first of these that fails decides the fault, and a value too
  large for a word takes more than 32 bytes. Places and lengths are counted without a bound here; counted in 64 bits, with
  a sum that is checked, the same bytes are read (`nextBytesBy_eq`).
- `fault_in_any_state`: an instruction that faults leaves the state as it was, but for one case. A store that has both
  its words takes them off before it looks at where its write ends (`Overreaches`).
-/
namespace GasMachine

namespace State

/-- the `n` bytes of code after the place `pc`, both counted in 64 bits: the sum is checked, and so is the range -/
def nextBytesBy (s : State) (pc n : UInt64) : Except Fault (List UInt8) :=
  match Checked.add pc n with
  | none => .error (.truncated s.opcode)
  | some last =>
    if pc ≤ last ∧ last.toNat ≤ s.code.size then .ok (s.code.extract pc.toNat last.toNat).toList
    else .error (.truncated s.opcode)

/-- a sum that does not fit in 64 bits ends beyond any code -/
theorem nextBytesBy_eq {s : State} {pc : UInt64} (hpc : pc.toNat = s.pc) (hsize : s.code.size < 2 ^ 64) (n : UInt64) :
    s.nextBytesBy pc n = s.nextBytes n.toNat := by
  unfold nextBytesBy nextBytes
  rcases Nat.lt_or_ge (pc.toNat + n.toNat) (2 ^ 64) with hsum | hwrap
  · have hlast := Checked.toNat_add_of_lt hsum
    have hle : pc ≤ pc + n := by
      rw [UInt64.le_iff_toNat_le, hlast]
      exact Nat.le_add_right _ _
    simp only [Checked.add_eq_some hsum, hle, true_and, hlast, hpc]
  · rw [Checked.add_eq_none.2 hwrap, if_neg (by omega)]

end State

namespace Instruction

/-! ## A push -/

/-- only more than 32 bytes can have a value that no word holds -/
theorem width_of_wordOverflow {s u : State} (h : push s = .fault .wordOverflow u) : 32 < width s := by
  by_contra hle
  have hlt := valueAhead_lt s (Nat.le_of_not_lt hle)
  rcases push_exact s with ⟨-, he⟩ | ⟨-, hge, -⟩ | ⟨-, -, -, he⟩ | ⟨-, -, -, he⟩
  · rw [he] at h; cases h
  · omega
  · rw [he] at h; cases h
  · rw [he] at h; cases h

theorem width_le_of_opcode {i : Instruction} {s : State} (h : s.opcode = i.opcode) : width s ≤ 32 := by
  rw [width, h]
  cases i <;> decide

/-- **A push in any state.** Let `n` be the number of bytes that the opcode asks for, and `v` their big-endian value. The
push succeeds if and only if the code holds them, `v` is below 2^256 and the stack has a place; it then puts `v` on the
stack, moves `n` bytes on, and changes nothing else. Otherwise the state is as it was, and the fault tells the first of
the three that fails. A value is too large for more than 32 bytes only, and so for no opcode that stands for an
instruction. Over 64-bit counts, with a sum that is checked, the bytes read are the same. -/
theorem push_in_any_state (s : State) :
    let n := s.opcode.toNat - 0x5f
    let v := bigEndian (s.code.extract s.pc (s.pc + n)).toList
    ((∃ t, push s = .ok t) ↔ s.pc + n ≤ s.code.size ∧ v < 2 ^ 256 ∧ s.stack.words.length < 1024) ∧
    (∀ t, push s = .ok t →
      ∃ w : Word, w.toNat = v ∧ t = { s with stack := ⟨w :: s.stack.words⟩, pc := s.pc + n }) ∧
    (s.code.size < s.pc + n → push s = .fault (.truncated s.opcode) s) ∧
    (s.pc + n ≤ s.code.size → 2 ^ 256 ≤ v → push s = .fault .wordOverflow s) ∧
    (s.pc + n ≤ s.code.size → v < 2 ^ 256 → 1024 ≤ s.stack.words.length → push s = .fault .stackOverflow s) ∧
    (∀ u, push s = .fault .wordOverflow u → 32 < n) ∧
    (∀ (i : Instruction) (u : State), s.opcode = i.opcode → push s ≠ .fault .wordOverflow u) ∧
    (∀ pc : UInt64, pc.toNat = s.pc → s.code.size < 2 ^ 64 → s.nextBytesBy pc n.toUInt64 = s.nextBytes n) := by
  intro n v
  refine ⟨?_, ?_, push_of_cut, push_of_large, push_of_full, fun u => width_of_wordOverflow, ?_, ?_⟩
  · constructor
    · rintro ⟨t, ht⟩
      rcases push_exact s with ⟨-, he⟩ | ⟨-, -, he⟩ | ⟨-, -, -, he⟩ | ⟨hfits, hlt, hroom, -⟩
      · rw [he] at ht; cases ht
      · rw [he] at ht; cases ht
      · rw [he] at ht; cases ht
      · exact ⟨hfits, hlt, hroom⟩
    · rintro ⟨hfits, hlt, hroom⟩
      exact ⟨_, push_of_room hfits hlt hroom⟩
  · intro t ht
    rcases push_exact s with ⟨-, he⟩ | ⟨-, -, he⟩ | ⟨-, -, -, he⟩ | ⟨-, hlt, -, he⟩
    · rw [he] at ht; cases ht
    · rw [he] at ht; cases ht
    · rw [he] at ht; cases ht
    · rw [he] at ht; cases ht
      exact ⟨_, by rw [BitVec.toNat_ofNat, Nat.mod_eq_of_lt hlt]; rfl, rfl⟩
  · intro i u hop h
    exact absurd (width_of_wordOverflow h) (Nat.not_lt.2 (width_le_of_opcode hop))
  · intro pc hpc hsize
    have hbyte := s.opcode.toNat_lt
    have hcount : n.toUInt64.toNat = n := by simp; omega
    rw [State.nextBytesBy_eq hpc hsize, hcount]

/-- an opcode that asks for 33 bytes: their value fits if the first of them is zero, and does not if it is one; at the
last place of all there is nothing to read -/
theorem push_of_wide_opcode :
    let s (b : UInt8) : State := { State.start (#[b] ++ Array.replicate 32 0xff) 0 with opcode := 0x80 }
    (∃ t, push (s 0) = .ok t ∧ t.stack.words = [BitVec.allOnes 256] ∧ t.pc = 33) ∧
    push (s 1) = .fault .wordOverflow (s 1) ∧
    push { s 0 with pc := 0xFFFFFFFFFFFFFFFF } = .fault (.truncated 0x80) { s 0 with pc := 0xFFFFFFFFFFFFFFFF } := by
  intro s
  refine ⟨?_, ?_, ?_⟩
  · obtain ⟨hiff, hpushed, -⟩ := push_in_any_state (s 0)
    obtain ⟨t, ht⟩ := hiff.2 ⟨by decide, by decide +kernel, by decide⟩
    obtain ⟨w, hw, rfl⟩ := hpushed t ht
    have hones : w = BitVec.allOnes 256 := BitVec.eq_of_toNat_eq (hw.trans (by decide +kernel))
    exact ⟨_, ht, by rw [hones]; rfl, rfl⟩
  · exact (push_in_any_state (s 1)).2.2.2.1 (by decide) (by decide +kernel)
  · exact (push_in_any_state { s 0 with pc := 0xFFFFFFFFFFFFFFFF }).2.2.1 (by decide)

/-! ## Faults -/

/-- a store with both its words on the stack, above `rest`, whose write ends beyond the bound -/
def Overreaches (i : Instruction) (s : State) (rest : List Word) : Prop :=
  (i = .mstore ∨ i = .mstore8) ∧ ∃ offset value, s.stack.words = offset :: value :: rest ∧
    Memory.maxSize.toNat < offset.toNat + i.writes

section Fault

variable {i : Instruction} {s u : State} {e : Fault} {rest : List Word}

/-- such a store faults with its words taken off -/
theorem Overreaches.perform (h : Overreaches i s rest) :
    i.perform s = .fault .gasOverflow { s with stack := ⟨rest⟩ } := by
  obtain ⟨hi, offset, value, hw, hlt⟩ := h
  rw [← writes_ne_zero_iff] at hi
  rcases perform_kind i with ⟨hz, -⟩ | ⟨-, bytes, hp, hbytes⟩ | ⟨hz, -⟩
  · exact absurd hz hi
  · rw [hp]
    rcases store_outcome i.writes_le hbytes s with ⟨hlen, -⟩ | ⟨offset', value', rest', hw', ⟨-, he⟩ | ⟨hle, -⟩⟩
    · rw [hw] at hlen; simp at hlen
    · rw [hw] at hw'; cases hw'
      exact he
    · rw [hw] at hw'; cases hw'
      omega
  · exact absurd hz hi

theorem Overreaches.ne (h : Overreaches i s rest) : { s with stack := ⟨rest⟩ } ≠ s := by
  obtain ⟨-, offset, value, hw, -⟩ := h
  intro hsame
  have hlen := congrArg (fun t : State => t.stack.words.length) hsame
  simp only [hw, List.length_cons] at hlen
  omega

/-- any other instruction that faults leaves the state as it was -/
theorem perform_fault_state (h : i.perform s = .fault e u) : u = s ∨ ∃ rest, Overreaches i s rest := by
  rcases perform_kind i with ⟨-, op, hp⟩ | ⟨hi, bytes, hp, hbytes⟩ | ⟨-, hp, -⟩
  · rw [hp] at h
    rcases binary_cases op s with ⟨-, he⟩ | ⟨a, b, rest, -, he⟩
    · rw [he] at h; cases h
      exact .inl rfl
    · rw [he] at h; cases h
  · rw [hp] at h
    rcases store_outcome i.writes_le hbytes s with ⟨-, he⟩ | ⟨offset, value, rest, hw, ⟨hlt, -⟩ | ⟨-, m, he, -⟩⟩
    · rw [he] at h; cases h
      exact .inl rfl
    · exact .inr ⟨rest, (writes_ne_zero_iff i).1 hi, offset, value, hw, hlt⟩
    · rw [he] at h; cases h
  · rw [hp] at h
    rcases push_outcome s with ⟨e', he, -⟩ | ⟨-, w, he⟩
    · rw [he] at h; cases h
      exact .inl rfl
    · rw [he] at h; cases h

end Fault

/-- **A fault in any state.** An instruction that faults leaves the state exactly as it was, unless it is a store that
has both its words and whose write ends beyond the bound. Such a store always faults, and then its two words are off the
stack and everything else is as it was. -/
theorem fault_in_any_state (i : Instruction) (s : State) :
    (∀ e u, i.perform s = .fault e u → (u ≠ s ↔ ∃ rest, Overreaches i s rest)) ∧
    ∀ rest, Overreaches i s rest → i.perform s = .fault .gasOverflow { s with stack := ⟨rest⟩ } := by
  constructor
  · intro e u hf
    constructor
    · intro hne
      exact (perform_fault_state hf).resolve_left hne
    · rintro ⟨rest, hover⟩
      have hact := hover.perform
      rw [hf] at hact
      cases hact
      exact hover.ne
  · intro rest hover
    exact hover.perform

/-- a byte stored one place beyond the largest memory loses its two words; without its value, it loses nothing -/
theorem fault_of_store_at_bound :
    let s (words : List Word) : State := { State.start #[] 0 with stack := ⟨words⟩ }
    Instruction.mstore8.perform (s [0x1FFFFFFFE0, 7, 5]) = .fault .gasOverflow (s [5]) ∧
    ∃ e u, Instruction.mstore8.perform (s [0x1FFFFFFFE0]) = .fault e u ∧ u = s [0x1FFFFFFFE0] := by
  intro s
  constructor
  · exact (fault_in_any_state .mstore8 (s [0x1FFFFFFFE0, 7, 5])).2 [5] ⟨.inr rfl, 0x1FFFFFFFE0, 7, rfl, by decide⟩
  · have hf : Instruction.mstore8.perform (s [0x1FFFFFFFE0]) = .fault .stackUnderflow (s [0x1FFFFFFFE0]) := rfl
    refine ⟨_, _, hf, ?_⟩
    by_contra hne
    obtain ⟨rest, -, offset, value, hw, -⟩ := ((fault_in_any_state .mstore8 _).1 _ _ hf).1 hne
    cases hw

end Instruction

end GasMachine
