import Mathlib.Tactic
import GasMachine.Proofs.Concatenation
import GasMachine.Proofs.Listing
/-
Runs told by the code that is ahead.

`ahead` is the code from the place reached on. A run depends on no other part of its code, so that a step can be told by
the instruction that comes first in what is ahead (`step_ahead`): `step_push_iff` says when a push succeeds and which
state it leaves, and `execute_push_iff` the same of the run; `step_store` and `step_store_ok` say it of a store that finds
its words, in a sound state. After code that succeeds, a run of longer code has the rest of it ahead
(`run_append_ahead`).
-/
namespace GasMachine

namespace Instruction

/-- the bytes that a store writes for a value; none for the other instructions -/
def bytesOf (i : Instruction) (value : Word) : List UInt8 :=
  match i with
  | mstore => value.toBytes
  | mstore8 => [value.lowByte]
  | _ => []

theorem bytesOf_length (i : Instruction) (value : Word) : (i.bytesOf value).length = i.writes := by
  cases i <;> rfl

theorem perform_of_writes {i : Instruction} (hi : i.writes ≠ 0) : i.perform = store i.bytesOf := by
  cases i <;> first | rfl | exact absurd rfl hi

theorem perform_of_push {i : Instruction} (hi : i.kind = .push) :
    i.perform = push ∧ i.immediate ≤ 32 ∧ ∀ s : State, s.opcode = i.opcode → width s = i.immediate := by
  rcases i.kind_cases with ⟨hk, -⟩ | ⟨hk, -⟩ | ⟨-, hp⟩
  · rw [hi] at hk; cases hk
  · rw [hi] at hk; cases hk
  · exact hp

theorem ofByte?_opcode (i : Instruction) : ofByte? i.opcode = some i := by cases i <;> rfl

/-- no bytes of code belong to a store -/
theorem immediate_of_writes {i : Instruction} (hi : i.writes ≠ 0) : i.immediate = 0 := by
  cases i <;> first | rfl | exact absurd rfl hi

/-- a push costs the same in every state -/
theorem charge_of_push {i : Instruction} (hi : i.kind = .push) (s : State) :
    i.constantGas = 3 ∧ i.dynamicGas s = .ok Gas.free := by
  cases i <;> first | exact ⟨rfl, rfl⟩ | exact absurd hi (by decide)

/-- a store costs nothing for an exponent -/
theorem charge_of_writes {i : Instruction} (hi : i.writes ≠ 0) (s : State) :
    i.constantGas.toNat = 3 ∧ i.exponentBytes s = 0 := by
  cases i <;> first | exact ⟨rfl, rfl⟩ | exact absurd rfl hi

end Instruction

namespace State

/-! ## The code ahead -/

/-- the code that a state has ahead of it -/
def ahead (s : State) : List UInt8 := s.code.toList.drop s.pc

theorem ahead_nil {s : State} (h : s.ahead = []) : s.execute = .ok s :=
  execute_of_done (by simpa [ahead] using h)

section Ahead

variable {s t u : State} {b : UInt8} {i : Instruction} {bs rest : List UInt8}

theorem ahead_cons (h : s.ahead = b :: rest) :
    ∃ hlt : s.pc < s.code.size, s.code[s.pc] = b ∧ s.code.toList.drop (s.pc + 1) = rest := by
  have hlt : s.pc < s.code.toList.length := by
    by_contra hge
    rw [ahead, List.drop_eq_nil_of_le (Nat.le_of_not_lt hge)] at h
    cases h
  rw [ahead, List.drop_eq_getElem_cons hlt] at h
  injection h with hbyte hrest
  exact ⟨by simpa using hlt, by simpa using hbyte, hrest⟩

/-- a run that succeeds takes its next step -/
theorem step_of_execute (h : s.pc < s.code.size) (hu : s.execute = .ok u) :
    ∃ t, s.step h = .ok t ∧ t.execute = .ok u := by
  cases hs : s.step h with
  | ok t => exact ⟨t, rfl, by rw [← execute_of_ok hs]; exact hu⟩
  | fault e t =>
    rw [execute_of_fault hs] at hu
    cases hu

/-- a step that succeeds performs the instruction that is ahead, and has what comes after it ahead then -/
theorem step_ahead (ha : s.ahead = i.opcode :: (bs ++ rest)) (hbs : bs.length = i.immediate) {h : s.pc < s.code.size}
    (hstep : s.step h = .ok t) :
    ∃ p : Paid, s.prepare h = .ok p ∧ p.instruction = i ∧ i.perform p.state = .ok t ∧ t.ahead = rest := by
  obtain ⟨_, hbyte, hrest⟩ := ahead_cons ha
  obtain ⟨p, _, hp, hf⟩ := moves_of_step hstep
  obtain ⟨hof, -, hop, -⟩ := prepare_fetched hp
  obtain ⟨hcode, hpc⟩ := prepare_keeps hp
  have hinst : p.instruction = i := by
    rw [hbyte, i.ofByte?_opcode] at hof
    exact (Option.some.inj hof).symm
  have hmoved := Instruction.perform_pc hop hf
  have hsame := (perform_keeps hf).1
  rw [hinst] at hf hmoved
  refine ⟨p, hp, hinst, hf, ?_⟩
  rw [ahead, hsame, hcode, hmoved, hpc, ← hbs, ← List.drop_drop, hrest]
  exact List.drop_left

/-- the bytes ahead, behind an opcode byte, are the ones after it in the code -/
theorem extract_ahead (ha : s.ahead = b :: (bs ++ rest)) :
    s.pc + 1 + bs.length ≤ s.code.size ∧ (s.code.extract (s.pc + 1) (s.pc + 1 + bs.length)).toList = bs := by
  obtain ⟨_, -, hrest⟩ := ahead_cons ha
  constructor
  · have hlen := congrArg List.length hrest
    simp only [List.length_drop, Array.length_toList, List.length_append] at hlen
    omega
  · rw [Array.toList_extract, List.extract_eq_take_drop, hrest]
    simp

/-- the state after a push of `bs` -/
def pushed (s : State) (i : Instruction) (bs : List UInt8) : State :=
  { s with pc := s.pc + 1 + bs.length, opcode := i.opcode, stack := ⟨BitVec.ofNat 256 (bigEndian bs) :: s.stack.words⟩,
           gasRemaining := s.gasRemaining - 3, gasUsed := s.gasUsed + 3 }

/-- the bytes of a word are pushed as the word -/
theorem pushed_words (s : State) (i : Instruction) (w : Word) :
    (s.pushed i w.toBytes).stack.words = w :: s.stack.words := by
  simp only [pushed, w.bigEndian_toBytes, BitVec.ofNat_toNat, BitVec.setWidth_eq]

/-- **A push that is ahead** succeeds if there is gas and a place for it, and puts on the stack what it reads. -/
theorem step_push_iff (hi : i.kind = .push) (hbs : bs.length = i.immediate) (ha : s.ahead = i.opcode :: (bs ++ rest))
    (h : s.pc < s.code.size) :
    s.step h = .ok t ↔ 3 ≤ s.gasRemaining.toNat ∧ s.stack.words.length < Stack.limit ∧ t = s.pushed i bs := by
  obtain ⟨_, hbyte, -⟩ := ahead_cons ha
  obtain ⟨hgas, hdyn⟩ := Instruction.charge_of_push hi (s.fetched s.code[s.pc])
  have hof : Instruction.ofByte? s.code[s.pc] = some i := by rw [hbyte]; exact i.ofByte?_opcode
  have hcharge : i.constantGas.toNat + Gas.free.gas.toNat = 3 := by rw [hgas]; rfl
  rcases Nat.lt_or_ge s.gasRemaining.toNat 3 with hshort | hpays
  · have hp := prepare_short (h := h) hof hdyn (by omega)
    refine iff_of_false ?_ (by omega)
    intro hs
    simp only [State.step, hp] at hs
    cases hs
  · have hp := prepare_paid (h := h) hof hdyn (by omega)
    rw [hgas] at hp
    obtain ⟨hperform, hle, hwidth⟩ := Instruction.perform_of_push hi
    have hw := hwidth ((s.fetched s.code[s.pc]).charged (3 + Gas.free.gas) Gas.free.memoryCost) hbyte
    obtain ⟨hfits, hread⟩ := extract_ahead ha
    rw [hbs] at hfits hread
    simp only [State.step, hp, hperform]
    rcases Instruction.push_cases _ (hw.trans_le hle) with ⟨hcut, -⟩ | ⟨-, hfull, he⟩ | ⟨-, hroom, he⟩
    · rw [hw] at hcut
      exact absurd hfits (Nat.not_le.2 hcut)
    · rw [he]
      refine iff_of_false ?_ fun hc => absurd hc.2.1 (Nat.not_lt.2 hfull)
      intro hs
      cases hs
    · rw [he, hw]
      have hpushed : { (s.fetched s.code[s.pc]).charged (3 + Gas.free.gas) Gas.free.memoryCost with
          stack := ⟨BitVec.ofNat 256 (bigEndian (s.code.extract (s.pc + 1) (s.pc + 1 + i.immediate)).toList) ::
            s.stack.words⟩
          pc := s.pc + 1 + i.immediate } = s.pushed i bs := by
        rw [hread]
        simp only [pushed, hbs, fetched, charged, Gas.free, hbyte]
        rfl
      constructor
      · intro ht
        cases ht
        exact ⟨hpays, hroom, hpushed⟩
      · rintro ⟨-, -, rfl⟩
        rw [← hpushed]
        rfl

/-- a run with a push ahead succeeds if the push and the run after it do -/
theorem execute_push_iff (hi : i.kind = .push) (hbs : bs.length = i.immediate)
    (ha : s.ahead = i.opcode :: (bs ++ rest)) :
    s.execute = .ok u ↔ 3 ≤ s.gasRemaining.toNat ∧ s.stack.words.length < Stack.limit ∧
      (s.pushed i bs).execute = .ok u := by
  obtain ⟨h, -, -⟩ := ahead_cons ha
  have hstep (t : State) := step_push_iff (t := t) hi hbs ha h
  constructor
  · intro hu
    obtain ⟨t, ht, htu⟩ := step_of_execute h hu
    obtain ⟨hgas, hroom, rfl⟩ := (hstep t).1 ht
    exact ⟨hgas, hroom, htu⟩
  · rintro ⟨hgas, hroom, hu⟩
    rw [execute_of_ok ((hstep _).2 ⟨hgas, hroom, rfl⟩)]
    exact hu

/-- what is ahead after a push -/
theorem ahead_pushed (ha : s.ahead = i.opcode :: (bs ++ rest)) : (s.pushed i bs).ahead = rest := by
  obtain ⟨_, -, hrest⟩ := ahead_cons ha
  rw [ahead, pushed, ← List.drop_drop, hrest]
  exact List.drop_left

end Ahead

/-! ## A store that is ahead -/

/-- the words after a store that ends at `last` -/
def wordsAfter (s : State) (last : ℕ) : ℕ := max s.memory.words (wordsFor last)

section Store

variable {limit : UInt64} {s t u : State} {i : Instruction} {value offset : Word} {words : List Word} {rest : List UInt8}

theorem Sound.pushed (hs : Sound limit s) (hgas : 3 ≤ s.gasRemaining.toNat) (bs : List UInt8) :
    Sound limit (s.pushed i bs) ∧ (s.pushed i bs).gasUsed.toNat = s.gasUsed.toNat + 3 ∧
      (s.pushed i bs).gasRemaining.toNat + 3 = s.gasRemaining.toNat := by
  have hlim := UInt64.toNat_lt limit
  have hcons := hs.conserved
  have hcov := hs.covered
  obtain ⟨hused, hleft⟩ : (s.pushed i bs).gasUsed.toNat = s.gasUsed.toNat + 3 ∧
      (s.pushed i bs).gasRemaining.toNat + 3 = s.gasRemaining.toNat :=
    charged_toNat 3 none (by omega) hgas
  have hpaid : (s.pushed i bs).memoryPaid = s.memoryPaid := rfl
  exact ⟨⟨hs.whole, hs.paid, by omega, by rw [hpaid]; omega⟩, hused, hleft⟩

/-- a store that is ahead, with its words on the stack: what it leaves if it succeeds -/
theorem step_store (hs : Sound limit s) (hi : i.writes ≠ 0) (ha : s.ahead = i.opcode :: rest)
    (hw : s.stack.words = offset :: value :: words) {h : s.pc < s.code.size} (hstep : s.step h = .ok t) :
    Sound limit t ∧ t.ahead = rest ∧ t.stack = ⟨words⟩ ∧
    t.memory = (s.memory.grow (32 * wordsFor (offset.toNat + i.writes))).overwrite offset.toNat (i.bytesOf value) ∧
    offset.toNat + i.writes ≤ Memory.maxSize.toNat ∧
    t.gasUsed.toNat + Gas.price s.memory.words =
      s.gasUsed.toNat + 3 + Gas.price (s.wordsAfter (offset.toNat + i.writes)) := by
  have hfirst : s.ahead = i.opcode :: ([] ++ rest) := ha
  obtain ⟨p, hp, rfl, hf, hahead⟩ := step_ahead hfirst (Instruction.immediate_of_writes hi).symm hstep
  have hsound := (Moves.sound ⟨h, hp, hf⟩ hs).1
  have hbill := prepare_bill hs hp
  have hwp : p.state.stack.words = offset :: value :: words := by rw [hbill.stack]; exact hw
  have hend := Instruction.writeEnd_cons hi hwp
  have hgas := hbill.gas
  have hused := hbill.used
  obtain ⟨hconst, hexp⟩ := Instruction.charge_of_writes hi p.state
  rw [hend, hconst, hexp] at hgas
  rw [Instruction.perform_of_writes hi] at hf
  rcases Instruction.store_cases p.instruction.writes_le p.instruction.bytesOf_length p.state (hbill.whole hs.whole) with
    ⟨hlen, -⟩ | ⟨offset', value', words', hw', ⟨-, he⟩ | ⟨hle, he⟩⟩
  · rw [hwp] at hlen; simp at hlen
  · rw [he] at hf; cases hf
  · rw [hwp] at hw'; cases hw'
    rw [he] at hf; cases hf
    refine ⟨hsound, hahead, rfl, by rw [hbill.memory], hle, ?_⟩
    simp only [wordsAfter]
    omega

/-- and it succeeds if its range and its charge are within bounds -/
theorem step_store_ok (hs : Sound limit s) (hi : i.writes ≠ 0) (ha : s.ahead = i.opcode :: rest)
    (hw : s.stack.words = offset :: value :: words) (hle : offset.toNat + i.writes ≤ Memory.maxSize.toNat)
    (hgas : 3 + Gas.price (s.wordsAfter (offset.toNat + i.writes)) ≤ s.gasRemaining.toNat + Gas.price s.memory.words)
    (h : s.pc < s.code.size) : ∃ t, s.step h = .ok t := by
  obtain ⟨_, hbyte, -⟩ := ahead_cons ha
  have hof : Instruction.ofByte? s.code[s.pc] = some i := by rw [hbyte]; exact i.ofByte?_opcode
  have hsize := Instruction.writeSize_toNat hof hi s
  obtain ⟨d, hd⟩ : ∃ d, i.dynamicGas (s.fetched s.code[s.pc]) = .ok d := by
    rw [Instruction.dynamicGas_of_writes hi]
    rcases Gas.memoryExpansion_outcome (s.fetched s.code[s.pc]) with ⟨hnil, -⟩ | ⟨offset', rest', hw', h⟩
    · rw [fetched_stack, hw] at hnil; cases hnil
    · rw [fetched_stack, hw] at hw'; cases hw'
      rw [hsize] at h
      rcases h with ⟨hlt, -⟩ | ⟨-, size, -, -, he⟩
      · omega
      · exact ⟨_, he⟩
  have hbill := (Instruction.dynamicGas_bill hof hs.whole hs.paid hd).1
  obtain ⟨hconst, hexp⟩ := Instruction.charge_of_writes hi s
  rw [Instruction.writeEnd_cons hi hw, hexp] at hbill
  unfold wordsAfter at hgas
  have hp := prepare_paid (h := h) hof hd (by omega)
  simp only [State.step, hp, Instruction.perform_of_writes hi]
  rcases Instruction.store_outcome i.writes_le i.bytesOf_length
      ((s.fetched s.code[s.pc]).charged (i.constantGas + d.gas) d.memoryCost) with
    ⟨hlen, -⟩ | ⟨offset', value', words', hw', ⟨hlt, -⟩ | ⟨-, m, he, -⟩⟩
  · have hlen' : s.stack.words.length < 2 := hlen
    rw [hw] at hlen'; simp at hlen'
  · have hw'' : s.stack.words = offset' :: value' :: words' := hw'
    rw [hw] at hw''; cases hw''
    omega
  · exact ⟨_, he⟩

end Store

/-! ## Code after code -/

/-- after code that succeeds, a run goes on with what is ahead -/
theorem run_append_ahead {c : Bytes} {g : UInt64} {s : State} (h : run c g = .ok s) (d : Bytes) :
    Sound g s ∧ run (c ++ d) g = (s.placed #[] d).execute ∧ (s.placed #[] d).ahead = d.toList ∧
      Sound g (s.placed #[] d) := by
  have hends := ends_run c g
  rw [h] at hends
  obtain ⟨hcode, hpc⟩ := hends.pc_eq (Nat.zero_le _)
  have hs := (hends.reaches.sound (sound_start c g)).1
  have hreach := hends.reaches.placed #[] d
  rw [start_placed] at hreach
  refine ⟨hs, hreach.execute, ?_, ⟨hs.whole, hs.paid, hs.conserved, hs.covered⟩⟩
  have hlen : s.pc = s.code.toList.length := by rw [hpc, hcode]; rfl
  simp [ahead, placed, hlen]

end State

end GasMachine
