import Mathlib.Tactic
import GasMachine.Proofs.Place
/-
The linear sweep of code, and where a run stands in it.

`sweep` lists code from an offset on: an opcode byte with the bytes that belong to it, then the next one, up to the end
of the code, the first byte that is no instruction, or the first push whose bytes the code does not hold. It knows
nothing of stacks, memory or gas.

A run goes through the listing and leaves nothing out. `Moves.listed` is the step: what is performed is the first line,
and the place it leads to is where the sweep goes on. `Reaches.listed` is the run: the listing of the code is the lines
performed so far, and then the listing from the place reached. The boundaries of a listing are the offsets of its lines
and the one at which it breaks off, and no boundary lies inside a line (`sweep_apart`).
-/
namespace GasMachine

namespace Instruction

/-- the ways in which instructions act -/
inductive Kind where
  | binary
  | store
  | push
deriving DecidableEq, Repr

/-- the way in which an instruction acts -/
def kind : Instruction → Kind
  | add | mul | sdiv | exp => .binary
  | mstore | mstore8 => .store
  | push1 | push2 | push3 | push32 => .push

/-- the bytes of code that belong to an instruction, after its opcode byte -/
def immediate : Instruction → ℕ
  | push1 => 1
  | push2 => 2
  | push3 => 3
  | push32 => 32
  | _ => 0

/-- what the kind of an instruction says of how it acts and of the bytes that belong to it -/
theorem kind_cases (i : Instruction) :
    (i.kind = .binary ∧ i.immediate = 0 ∧ ∃ op, i.perform = binary op) ∨
    (i.kind = .store ∧ i.immediate = 0 ∧ ∃ bytes, i.perform = store bytes ∧ ∀ w, (bytes w).length = i.writes) ∨
    (i.kind = .push ∧ i.perform = push ∧ i.immediate ≤ 32 ∧ ∀ s : State, s.opcode = i.opcode → width s = i.immediate) := by
  have hwidth {s : State} {j : Instruction} (hj : j.opcode.toNat - 0x5f = j.immediate) (h : s.opcode = j.opcode) :
      width s = j.immediate := by rw [width, h, hj]
  cases i with
  | add => exact .inl ⟨rfl, rfl, _, rfl⟩
  | mul => exact .inl ⟨rfl, rfl, _, rfl⟩
  | sdiv => exact .inl ⟨rfl, rfl, _, rfl⟩
  | exp => exact .inl ⟨rfl, rfl, _, rfl⟩
  | mstore => exact .inr (.inl ⟨rfl, rfl, _, rfl, fun w => w.toBytes_length⟩)
  | mstore8 => exact .inr (.inl ⟨rfl, rfl, _, rfl, fun _ => rfl⟩)
  | push1 => exact .inr (.inr ⟨rfl, rfl, by decide, fun s => hwidth rfl⟩)
  | push2 => exact .inr (.inr ⟨rfl, rfl, by decide, fun s => hwidth rfl⟩)
  | push3 => exact .inr (.inr ⟨rfl, rfl, by decide, fun s => hwidth rfl⟩)
  | push32 => exact .inr (.inr ⟨rfl, rfl, by decide, fun s => hwidth rfl⟩)

/-- an instruction that acts moves past the bytes that belong to it, and no further -/
theorem perform_pc {i : Instruction} {s t : State} (hop : s.opcode = i.opcode) (h : i.perform s = .ok t) :
    t.pc = s.pc + i.immediate := by
  rcases i.kind_cases with ⟨-, himm, op, hi⟩ | ⟨-, himm, bytes, hi, hbytes⟩ | ⟨-, hi, -, hwidth⟩
  · rw [hi] at h
    rcases binary_cases op s with ⟨-, he⟩ | ⟨a, b, rest, -, he⟩
    · rw [he] at h; cases h
    · rw [he] at h; cases h
      rw [himm]; rfl
  · rw [hi] at h
    rcases store_outcome i.writes_le hbytes s with ⟨-, he⟩ | ⟨offset, value, rest, -, ⟨-, he⟩ | ⟨-, m, he, -⟩⟩
    · rw [he] at h; cases h
    · rw [he] at h; cases h
    · rw [he] at h; cases h
      rw [himm]; rfl
  · rw [hi] at h
    rcases push_outcome s with ⟨e, he, -⟩ | ⟨-, w, he⟩
    · rw [he] at h; cases h
    · rw [he] at h; cases h
      rw [← hwidth s hop]

end Instruction

/-! ## Listings -/

/-- an instruction at its offset in code -/
structure Line where
  /-- the offset of its opcode byte -/
  offset : ℕ
  instruction : Instruction
deriving DecidableEq, Repr

/-- the offset after the bytes of a line -/
def Line.next (l : Line) : ℕ := l.offset + 1 + l.instruction.immediate

/-- why a sweep stops -/
inductive Stop where
  /-- the code is used up -/
  | finished
  | invalid (byte : UInt8)
  /-- the code ends before the bytes of a push do -/
  | cutOff (i : Instruction)
deriving DecidableEq, Repr

/-- the lines of code, in order, and where and why there are no more -/
structure Listing where
  lines : List Line
  last : ℕ
  stop : Stop
deriving DecidableEq, Repr

namespace Listing

/-- the listing with `ls` before its lines -/
def prepend (ls : List Line) (l : Listing) : Listing := { l with lines := ls ++ l.lines }

theorem prepend_nil (l : Listing) : l.prepend [] = l := rfl

theorem prepend_prepend (ls ms : List Line) (l : Listing) : (l.prepend ms).prepend ls = l.prepend (ls ++ ms) := by
  simp [prepend]

/-- the offset at which the listing breaks off, if that is before the end of the code -/
def breaks (l : Listing) : List ℕ :=
  match l.stop with
  | .finished => []
  | _ => [l.last]

/-- the offsets of the lines, and the one at which the listing breaks off -/
def boundaries (l : Listing) : List ℕ := l.lines.map Line.offset ++ l.breaks

theorem boundaries_prepend (ls : List Line) (l : Listing) :
    (l.prepend ls).boundaries = ls.map Line.offset ++ l.boundaries := by
  have hbreaks : (l.prepend ls).breaks = l.breaks := rfl
  rw [boundaries, boundaries, hbreaks, prepend, List.map_append, List.append_assoc]

theorem boundaries_of_stop {pc : ℕ} {stop : Stop} (h : stop ≠ .finished) :
    (⟨[], pc, stop⟩ : Listing).boundaries = [pc] := by
  cases stop with
  | finished => exact absurd rfl h
  | invalid b => rfl
  | cutOff i => rfl

end Listing

/-- the listing of `code` from `pc` on -/
def sweep (code : Bytes) (pc : ℕ) : Listing :=
  if h : pc < code.size then
    match Instruction.ofByte? code[pc] with
    | none => ⟨[], pc, .invalid code[pc]⟩
    | some i =>
      if pc + 1 + i.immediate ≤ code.size then (sweep code (pc + 1 + i.immediate)).prepend [⟨pc, i⟩]
      else ⟨[], pc, .cutOff i⟩
  else ⟨[], pc, .finished⟩
termination_by code.size - pc

theorem sweep_of_done {code : Bytes} {pc : ℕ} (h : code.size ≤ pc) : sweep code pc = ⟨[], pc, .finished⟩ := by
  rw [sweep, dif_neg (by omega)]

theorem sweep_line {code : Bytes} {pc : ℕ} {h : pc < code.size} {i : Instruction}
    (hi : Instruction.ofByte? code[pc] = some i) (hin : pc + 1 + i.immediate ≤ code.size) :
    sweep code pc = (sweep code (pc + 1 + i.immediate)).prepend [⟨pc, i⟩] := by
  rw [sweep, dif_pos h]
  simp only [hi, if_pos hin]

/-- at a byte of the code, a sweep breaks off there or lists a line -/
theorem sweep_cases {code : Bytes} {pc : ℕ} (h : pc < code.size) :
    (∃ stop, stop ≠ .finished ∧ sweep code pc = ⟨[], pc, stop⟩) ∨
    ∃ i, Instruction.ofByte? code[pc] = some i ∧ pc + 1 + i.immediate ≤ code.size ∧
      sweep code pc = (sweep code (pc + 1 + i.immediate)).prepend [⟨pc, i⟩] := by
  cases hi : Instruction.ofByte? code[pc] with
  | none =>
    left
    refine ⟨.invalid code[pc], nofun, ?_⟩
    rw [sweep, dif_pos h]
    simp only [hi]
  | some i =>
    by_cases hin : pc + 1 + i.immediate ≤ code.size
    · right
      exact ⟨i, rfl, hin, sweep_line hi hin⟩
    · left
      refine ⟨.cutOff i, nofun, ?_⟩
      rw [sweep, dif_pos h]
      simp only [hi, if_neg hin]

/-- the first boundary is where the sweep starts, if there is a byte -/
theorem sweep_boundaries {code : Bytes} {pc : ℕ} (h : pc < code.size) :
    ∃ rest, (sweep code pc).boundaries = pc :: rest := by
  rcases sweep_cases h with ⟨stop, hstop, he⟩ | ⟨i, -, -, he⟩
  · exact ⟨[], by rw [he, Listing.boundaries_of_stop hstop]⟩
  · exact ⟨_, by rw [he, Listing.boundaries_prepend]; rfl⟩

/-- **Lines do not overlap.** The boundaries of a sweep are at or after its start, and none of them lies inside a line:
each is at or before its opcode byte, or after the bytes that belong to it. -/
theorem sweep_apart (code : Bytes) (pc : ℕ) :
    (∀ b ∈ (sweep code pc).boundaries, pc ≤ b) ∧
    ∀ l ∈ (sweep code pc).lines, pc ≤ l.offset ∧ ∀ b ∈ (sweep code pc).boundaries, b ≤ l.offset ∨ l.next ≤ b := by
  fun_induction sweep code pc with
  | case1 pc h hi => simp [Listing.boundaries_of_stop (nofun : Stop.invalid code[pc] ≠ .finished)]
  | case2 pc h i hi hin ih =>
    obtain ⟨hlow, hapart⟩ := ih
    rw [Listing.boundaries_prepend]
    constructor
    · intro b hb
      rcases List.mem_cons.1 hb with hb | hb
      · exact hb.ge
      · have := hlow b hb
        omega
    · intro l hl
      rcases List.mem_cons.1 hl with rfl | hl
      · -- the line itself: the boundaries after it are those of the rest of the sweep
        refine ⟨le_rfl, fun b hb => ?_⟩
        rcases List.mem_cons.1 hb with hb | hb
        · exact .inl hb.le
        · exact .inr (hlow b hb)
      · obtain ⟨hle, hl⟩ := hapart l hl
        refine ⟨by omega, fun b hb => ?_⟩
        rcases List.mem_cons.1 hb with hb | hb
        · exact .inl (hb.trans_le (show pc ≤ l.offset by omega))
        · exact hl b hb
  | case3 pc h i hi hin => simp [Listing.boundaries_of_stop (nofun : Stop.cutOff i ≠ .finished)]
  | case4 pc h => exact ⟨nofun, nofun⟩

/-! ## Runs -/

/-- a paid instruction as a line of its code -/
def Paid.line (p : Paid) : Line := ⟨p.offset, p.instruction⟩

namespace State

/-- what is paid for is the instruction at the place reached, on the stack there is -/
theorem prepare_fetched {s : State} {h : s.pc < s.code.size} {p : Paid} (hp : s.prepare h = .ok p) :
    Instruction.ofByte? s.code[s.pc] = some p.instruction ∧ p.offset = s.pc ∧
      p.state.opcode = p.instruction.opcode ∧ p.state.stack = s.stack := by
  obtain ⟨i, d, hi, -, -, rfl⟩ := prepare_ok hp
  exact ⟨hi, rfl, (Instruction.opcode_of_ofByte? hi).symm, rfl⟩

/-- a step performs the first line of the listing from its place, and the listing goes on from where it leads -/
theorem Moves.listed {s t : State} {p : Paid} (hm : Moves s p t) :
    t.code = s.code ∧ sweep s.code s.pc = (sweep s.code t.pc).prepend [p.line] := by
  obtain ⟨h, hp, hf⟩ := hm
  obtain ⟨hi, hoffset, hop, -⟩ := prepare_fetched hp
  obtain ⟨hcode, hpc⟩ := prepare_keeps hp
  have hnext : t.pc = s.pc + 1 + p.instruction.immediate := by rw [Instruction.perform_pc hop hf, hpc]
  have hplace := step_place h
  rw [show s.step h = .ok t by simp [State.step, hp, hf]] at hplace
  refine ⟨hplace.1, ?_⟩
  rw [sweep_line hi (hnext.ge.trans hplace.2), hnext, Paid.line, hoffset]

/-- **A run goes through the listing of its code**, line by line and from the first on. -/
theorem Reaches.listed {s t : State} {ps : List Paid} (hr : Reaches s ps t) :
    t.code = s.code ∧ sweep s.code s.pc = (sweep s.code t.pc).prepend (ps.map Paid.line) := by
  induction hr with
  | start => exact ⟨rfl, (Listing.prepend_nil _).symm⟩
  | @next ps p t u _ hm ih =>
    obtain ⟨hcode, hlist⟩ := hm.listed
    rw [ih.1] at hcode hlist
    refine ⟨hcode, ?_⟩
    rw [ih.2, hlist, Listing.prepend_prepend, List.map_append]
    rfl

end State

end GasMachine
