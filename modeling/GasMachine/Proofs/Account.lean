import Mathlib.Tactic
import GasMachine.Proofs.Effects
import GasMachine.Proofs.Runs
/-
The gas account and the memory bill along a run.

Two functions of a state say what its next instruction costs: `exponentBytes`, the bytes of the exponent of an
exponentiation, and `writeEnd`, the end of the range that a store writes (both zero for the other instructions).
`prepare_bill` is the one lemma about charges: a paid instruction took its constant gas, 50 per exponent byte, and the
cost of the words that `writeEnd` needs above the words there are; and the memory paid is then the cost of the
greater. `perform_cases` is the one lemma about growth: the instruction brings the memory to exactly those words, or
faults. Between the two a run may stop, so that memory is paid for and not there.

`Sound` is the invariant between two steps that the two lemmas keep: a whole memory, paid for to the word, with gas used
and gas left adding up to the limit.
-/
namespace GasMachine

namespace Instruction

/-- the end of the range that a store writes; zero for the other instructions -/
def writeEnd (i : Instruction) (s : State) : ℕ :=
  match i, s.stack.words with
  | mstore, offset :: _ => offset.toNat + 32
  | mstore8, offset :: _ => offset.toNat + 1
  | _, _ => 0

/-- the bytes of the exponent of an exponentiation; zero for the other instructions -/
def exponentBytes (i : Instruction) (s : State) : ℕ :=
  match i, s.stack.words with
  | exp, _ :: e :: _ => e.byteLength
  | _, _ => 0

theorem writeEnd_cons {i : Instruction} (hi : i.writes ≠ 0) {s : State} {offset : Word} {rest : List Word}
    (hw : s.stack.words = offset :: rest) : i.writeEnd s = offset.toNat + i.writes := by
  cases i with
  | mstore => simp [writeEnd, hw, writes]
  | mstore8 => simp [writeEnd, hw, writes]
  | _ => exact absurd rfl hi

theorem writeEnd_nil (i : Instruction) {s : State} (hw : s.stack.words = []) : i.writeEnd s = 0 := by
  cases i <;> simp [writeEnd, hw]

theorem writeEnd_of_writes_eq_zero {i : Instruction} (hi : i.writes = 0) (s : State) : i.writeEnd s = 0 := by
  cases i <;> first | rfl | exact absurd hi (by decide)

theorem exponentBytes_of_ne {i : Instruction} (hi : i ≠ exp) (s : State) : i.exponentBytes s = 0 := by
  cases i <;> first | rfl | exact absurd rfl hi

/-- the three kinds of state-dependent charge -/
theorem dynamicGas_kind (i : Instruction) :
    (i = exp ∧ i.dynamicGas = Gas.exponent) ∨
    (i.writes ≠ 0 ∧ i ≠ exp ∧ i.dynamicGas = Gas.memoryExpansion) ∨
    (i.writes = 0 ∧ i ≠ exp ∧ ∀ s, i.dynamicGas s = .ok Gas.free) := by
  cases i with
  | exp => exact .inl ⟨rfl, rfl⟩
  | mstore => exact .inr (.inl ⟨by decide, by decide, rfl⟩)
  | mstore8 => exact .inr (.inl ⟨by decide, by decide, rfl⟩)
  | _ => exact .inr (.inr ⟨rfl, by decide, fun _ => rfl⟩)

theorem dynamicGas_of_writes {i : Instruction} (hi : i.writes ≠ 0) : i.dynamicGas = Gas.memoryExpansion := by
  rcases dynamicGas_kind i with ⟨rfl, -⟩ | ⟨-, -, h⟩ | ⟨hz, -, -⟩
  · exact absurd rfl hi
  · exact h
  · exact absurd hz hi

/-- a charge that can be computed is that of a range within the bound, and a store has its offset -/
theorem dynamicGas_inRange {s : State} {b : UInt8} {i : Instruction} {d : DynamicGas} (hb : ofByte? b = some i)
    (hd : i.dynamicGas (s.fetched b) = .ok d) :
    i.writeEnd s ≤ Memory.maxSize.toNat ∧ (i.writes ≠ 0 → s.stack.words ≠ []) := by
  by_cases hst : i.writes = 0
  · rw [writeEnd_of_writes_eq_zero hst]
    exact ⟨Nat.zero_le _, fun hn => absurd hst hn⟩
  · rw [dynamicGas_of_writes hst] at hd
    rcases Gas.memoryExpansion_outcome (s.fetched b) with ⟨-, he⟩ | ⟨offset, rest, hw, ⟨-, he⟩ | ⟨hle, -⟩⟩
    · rw [he] at hd; cases hd
    · rw [he] at hd; cases hd
    · rw [State.fetched_stack] at hw
      rw [writeSize_toNat hb hst] at hle
      rw [writeEnd_cons hst hw]
      exact ⟨hle, fun _ hnil => by rw [hnil] at hw; cases hw⟩

/-- a charge that cannot be computed lacks a word, or is that of a range beyond the bound -/
theorem dynamicGas_error {i : Instruction} {s : State} {e : Fault} (hd : i.dynamicGas s = .error e) :
    e = .stackUnderflow ∨ e = .gasOverflow := by
  rcases dynamicGas_kind i with ⟨-, hi⟩ | ⟨-, -, hi⟩ | ⟨-, -, hi⟩
  · rw [hi] at hd
    rcases Gas.exponent_cases s with ⟨-, he⟩ | ⟨a, x, rest, gas, -, he, -⟩
    · rw [he] at hd; cases hd
      exact .inl rfl
    · rw [he] at hd; cases hd
  · rw [hi] at hd
    rcases Gas.memoryExpansion_outcome s with ⟨-, he⟩ | ⟨offset, rest, -, ⟨-, he⟩ | ⟨-, size, -, -, he⟩⟩
    · rw [he] at hd; cases hd
      exact .inl rfl
    · rw [he] at hd; cases hd
      exact .inr rfl
    · rw [he] at hd; cases hd
  · rw [hi] at hd; cases hd

/-- a state-dependent charge, when the memory is paid for to the word -/
theorem dynamicGas_bill {s : State} {b : UInt8} {i : Instruction} {d : DynamicGas} (hb : ofByte? b = some i)
    (hm : s.memory.Whole) (hp : s.memoryPaid.toNat = Gas.price s.memory.words)
    (hd : i.dynamicGas (s.fetched b) = .ok d) :
    d.gas.toNat + Gas.price s.memory.words =
      50 * i.exponentBytes s + Gas.price (max s.memory.words (wordsFor (i.writeEnd s))) ∧
    (d.memoryCost.getD s.memoryPaid).toNat = Gas.price (max s.memory.words (wordsFor (i.writeEnd s))) := by
  rcases dynamicGas_kind i with ⟨rfl, hi⟩ | ⟨hst, hne, hi⟩ | ⟨hst, hne, hi⟩
  · rw [hi] at hd
    rcases Gas.exponent_cases (s.fetched b) with ⟨-, he⟩ | ⟨a, e, rest, gas, hw, he, hgas⟩
    · rw [he] at hd; cases hd
    · rw [he] at hd; cases hd
      simp only [State.fetched_stack] at hw
      have hexp : exponentBytes exp s = e.byteLength := by simp [exponentBytes, hw]
      rw [writeEnd_of_writes_eq_zero rfl, wordsFor_zero, Nat.max_zero, hexp]
      exact ⟨by simp only; omega, hp⟩
  · rw [hi] at hd
    rw [exponentBytes_of_ne hne]
    rcases Gas.memoryExpansion_cases (s.fetched b) hm with ⟨-, he⟩ | ⟨offset, rest, hw, h⟩
    · rw [he] at hd; cases hd
    · simp only [State.fetched_stack] at hw
      simp only [State.fetched_memory, State.fetched_memoryPaid, writeSize_toNat hb hst, ← writeEnd_cons hst hw] at h
      rcases h with ⟨-, he⟩ | ⟨-, hfit, he⟩ | ⟨-, hgrow, cost, hcost, he⟩
      · rw [he] at hd; cases hd
      · rw [he] at hd; cases hd
        rw [max_eq_left hfit]
        exact ⟨by simp [Gas.free], hp⟩
      · rw [he] at hd; cases hd
        have hlt := Gas.price_strictMono hgrow
        rw [max_eq_right hgrow.le]
        refine ⟨?_, hcost⟩
        simp only [Checked.toNat_sub, hcost, hp]
        omega
  · rw [hi] at hd
    cases hd
    rw [exponentBytes_of_ne hne, writeEnd_of_writes_eq_zero hst, wordsFor_zero, Nat.max_zero]
    exact ⟨by simp [Gas.free], hp⟩

/-- **What an instruction does to the memory.** It faults with the state as it was, a store for want of a word; or it is
a store whose range ends beyond the bound; or it acts, and brings a whole memory to the words it needs. -/
theorem perform_cases (i : Instruction) (s : State) :
    (∃ e, i.perform s = .fault e s ∧
      (i.writes ≠ 0 → e = .stackUnderflow ∧ s.stack.words.length < 2) ∧
      (e = .stackUnderflow ∨ e = .truncated s.opcode ∨ e = .wordOverflow ∨ e = .stackOverflow)) ∨
    (Memory.maxSize.toNat < i.writeEnd s ∧ ∃ u, i.perform s = .fault .gasOverflow u) ∨
    ∃ t, i.perform s = .ok t ∧ (s.memory.Whole → t.memory.Whole ∧
      t.memory.words = max s.memory.words (wordsFor (i.writeEnd s))) := by
  rcases perform_kind i with ⟨hst, op, hi⟩ | ⟨hst, bytes, hi, hbytes⟩ | ⟨hst, hi, -⟩
  · rw [hi, writeEnd_of_writes_eq_zero hst, wordsFor_zero, Nat.max_zero]
    rcases binary_cases op s with ⟨-, he⟩ | ⟨a, b, rest, -, he⟩
    · left
      exact ⟨.stackUnderflow, he, fun hn => absurd hst hn, .inl rfl⟩
    · right; right
      exact ⟨_, he, fun hm => ⟨hm, rfl⟩⟩
  · rw [hi]
    rcases store_outcome i.writes_le hbytes s with
      ⟨hlen, he⟩ | ⟨offset, value, rest, hw, ⟨hlt, he⟩ | ⟨hle, m, he, hgrown⟩⟩
    · left
      exact ⟨.stackUnderflow, he, fun _ => ⟨rfl, hlen⟩, .inl rfl⟩
    · right; left
      rw [writeEnd_cons hst hw]
      exact ⟨hlt, _, he⟩
    · right; right
      rw [writeEnd_cons hst hw]
      refine ⟨_, he, fun hm => ?_⟩
      rw [hgrown hm]
      exact Memory.overwrite_grow_whole hm hle
  · rw [hi, writeEnd_of_writes_eq_zero hst, wordsFor_zero, Nat.max_zero]
    rcases push_outcome s with ⟨e, he, hkind⟩ | ⟨-, w, he⟩
    · left
      exact ⟨e, he, fun hn => absurd hst hn, .inr hkind⟩
    · right; right
      exact ⟨_, he, fun hm => ⟨hm, rfl⟩⟩

/-- an instruction that acts brings the memory to the words it needs -/
theorem perform_words {i : Instruction} {s t : State} (hm : s.memory.Whole) (h : i.perform s = .ok t) :
    t.memory.Whole ∧ t.memory.words = max s.memory.words (wordsFor (i.writeEnd s)) := by
  rcases i.perform_cases s with ⟨e, he, -⟩ | ⟨-, u, he⟩ | ⟨t', he, hgrown⟩
  · rw [he] at h; cases h
  · rw [he] at h; cases h
  · rw [he] at h; cases h
    exact hgrown hm

/-- an instruction whose range is within the bound leaves the state as it was if it faults, and a store faults only for
want of a word -/
theorem perform_fault {i : Instruction} {s u : State} {e : Fault} (hend : i.writeEnd s ≤ Memory.maxSize.toNat)
    (h : i.perform s = .fault e u) : u = s ∧ (i.writes ≠ 0 → e = .stackUnderflow ∧ s.stack.words.length < 2) := by
  rcases i.perform_cases s with ⟨e, he, hstore, -⟩ | ⟨hlt, -⟩ | ⟨t, he, -⟩
  · rw [he] at h; cases h
    exact ⟨rfl, hstore⟩
  · omega
  · rw [he] at h; cases h

end Instruction

namespace State

/-- the invariant between two steps of a run with `limit` gas -/
structure Sound (limit : UInt64) (s : State) : Prop where
  whole : s.memory.Whole
  /-- the memory is paid for to the word -/
  paid : s.memoryPaid.toNat = Gas.price s.memory.words
  conserved : s.gasUsed.toNat + s.gasRemaining.toNat = limit.toNat
  covered : s.memoryPaid.toNat ≤ s.gasUsed.toNat

theorem sound_start (code : Bytes) (limit : UInt64) : Sound limit (start code limit) :=
  ⟨Memory.whole_empty, by simp [start, Memory.words, Memory.empty, Gas.price], Nat.zero_add _, le_rfl⟩

/-- what paying for `p` takes in the state `s` -/
structure Bill (s : State) (p : Paid) : Prop where
  stack : p.state.stack = s.stack
  memory : p.state.memory = s.memory
  inRange : p.instruction.writeEnd p.state ≤ Memory.maxSize.toNat
  gas : p.gas.toNat + Gas.price s.memory.words =
    p.instruction.constantGas.toNat + 50 * p.instruction.exponentBytes p.state +
      Gas.price (max s.memory.words (wordsFor (p.instruction.writeEnd p.state)))
  /-- the memory is paid for as if the instruction had acted -/
  paid : p.state.memoryPaid.toNat = Gas.price (max s.memory.words (wordsFor (p.instruction.writeEnd p.state)))
  used : p.state.gasUsed.toNat = s.gasUsed.toNat + p.gas.toNat
  remaining : p.state.gasRemaining.toNat + p.gas.toNat = s.gasRemaining.toNat

/-- from any state, what is paid for is a range within the bound, and a store has its offset -/
theorem prepare_inRange {s : State} {h : s.pc < s.code.size} {p : Paid} (hp : s.prepare h = .ok p) :
    p.instruction.writeEnd p.state ≤ Memory.maxSize.toNat ∧
      (p.instruction.writes ≠ 0 → p.state.stack.words ≠ []) := by
  obtain ⟨i, d, hi, hd, -, rfl⟩ := prepare_ok hp
  have hrange := Instruction.dynamicGas_inRange hi hd
  exact hrange

theorem prepare_bill {limit : UInt64} {s : State} (hs : Sound limit s) {h : s.pc < s.code.size} {p : Paid}
    (hp : s.prepare h = .ok p) : Bill s p := by
  obtain ⟨hrange, -⟩ := prepare_inRange hp
  obtain ⟨i, d, hi, hd, hg, rfl⟩ := prepare_ok hp
  obtain ⟨hgas, hpaid⟩ := Instruction.dynamicGas_bill hi hs.whole hs.paid hd
  have hlim := UInt64.toNat_lt limit
  have hcons := hs.conserved
  have hsum : (i.constantGas + d.gas).toNat = i.constantGas.toNat + d.gas.toNat :=
    Checked.toNat_add_of_lt (by omega)
  obtain ⟨hused, hrem⟩ := charged_toNat (s := s.fetched s.code[s.pc]) (i.constantGas + d.gas) d.memoryCost
    (by simp only [fetched_gasUsed, fetched_gasRemaining]; omega) (by rw [hsum]; exact hg)
  -- the state paid has the stack it had, so that what the instruction costs is read off either
  refine ⟨rfl, rfl, hrange, ?_, hpaid, hused, hrem⟩
  change (i.constantGas + d.gas).toNat + _ = i.constantGas.toNat + 50 * i.exponentBytes s +
    Gas.price (max s.memory.words (wordsFor (i.writeEnd s)))
  omega

theorem Bill.whole {s : State} {p : Paid} (hb : Bill s p) (hm : s.memory.Whole) : p.state.memory.Whole := by
  rw [hb.memory]; exact hm

/-- what remains of the invariant where an instruction is paid for and has not acted, or where a run ends: more memory
may be paid for than there is -/
structure Halted (limit : UInt64) (s : State) : Prop where
  whole : s.memory.Whole
  paid : Gas.price s.memory.words ≤ s.memoryPaid.toNat
  conserved : s.gasUsed.toNat + s.gasRemaining.toNat = limit.toNat
  covered : s.memoryPaid.toNat ≤ s.gasUsed.toNat

theorem Sound.halted {limit : UInt64} {s : State} (h : Sound limit s) : Halted limit s :=
  ⟨h.whole, h.paid.ge, h.conserved, h.covered⟩

theorem Sound.prepared {limit : UInt64} {s : State} (hs : Sound limit s) {h : s.pc < s.code.size} {p : Paid}
    (hp : s.prepare h = .ok p) : Halted limit p.state := by
  have hb := prepare_bill hs hp
  have hprice := Gas.price_mono (le_max_left s.memory.words (wordsFor (p.instruction.writeEnd p.state)))
  have hgas := hb.gas
  have hused := hb.used
  have hrem := hb.remaining
  have hpaid := hb.paid
  have hcons := hs.conserved
  have hcov := hs.covered
  have hspaid := hs.paid
  refine ⟨hb.whole hs.whole, ?_, ?_, ?_⟩
  · rw [hb.memory]; omega
  · omega
  · omega

/-- one step keeps the invariant, and neither the memory nor what is paid for it shrinks -/
theorem Moves.sound {limit : UInt64} {s t : State} {p : Paid} (hm : Moves s p t) (hs : Sound limit s) :
    Sound limit t ∧ s.memory.words ≤ t.memory.words := by
  obtain ⟨h, hp, hf⟩ := hm
  have hb := prepare_bill hs hp
  have ha := Instruction.perform_ok_account hf
  have hprepared := hs.prepared hp
  obtain ⟨hw, hwords⟩ := Instruction.perform_words (hb.whole hs.whole) hf
  rw [hb.memory] at hwords
  refine ⟨⟨hw, ?_, ?_, ?_⟩, ?_⟩
  · rw [ha.paid, hb.paid, hwords]
  · rw [ha.used, ha.remaining]; exact hprepared.conserved
  · rw [ha.used, ha.paid]; exact hprepared.covered
  · rw [hwords]; exact le_max_left _ _

/-- every state a run reaches is sound -/
theorem Reaches.sound {limit : UInt64} {s t : State} {ps : List Paid} (hr : Reaches s ps t) (hs : Sound limit s) :
    Sound limit t ∧ s.memory.words ≤ t.memory.words := by
  induction hr with
  | start => exact ⟨hs, le_rfl⟩
  | next _ hm ih =>
    obtain ⟨h1, h2⟩ := hm.sound ih.1
    exact ⟨h1, ih.2.trans h2⟩

/-- the gas used only rises -/
theorem Reaches.used_le {limit : UInt64} {s t : State} {ps : List Paid} (hr : Reaches s ps t) (hs : Sound limit s) :
    s.gasUsed.toNat ≤ t.gasUsed.toNat := by
  induction hr with
  | start => exact le_rfl
  | @next ps p t u hr hm ih =>
    obtain ⟨h, hp, hf⟩ := hm
    have hused := (prepare_bill (hr.sound hs).1 hp).used
    rw [(Instruction.perform_ok_account hf).used]
    omega

/-- a step that is not paid for changes at most the place and the opcode -/
theorem prepare_error_keeps {s u : State} {e : Fault} {h : s.pc < s.code.size} (hp : s.prepare h = .error (e, u)) :
    u = s ∨ u = s.fetched s.code[s.pc] := by
  rcases prepare_error hp with ⟨-, -, hu⟩ | ⟨i, -, hu, -⟩
  · exact .inl hu
  · exact .inr hu

theorem Sound.refused {limit : UInt64} {s u : State} {e : Fault} {h : s.pc < s.code.size} (hs : Sound limit s)
    (hp : s.prepare h = .error (e, u)) : Sound limit u ∧ u.memory = s.memory ∧ u.gasUsed = s.gasUsed := by
  rcases prepare_error_keeps hp with rfl | rfl
  · exact ⟨hs, rfl, rfl⟩
  · exact ⟨⟨hs.whole, hs.paid, hs.conserved, hs.covered⟩, rfl, rfl⟩

/-- a paid instruction that faults leaves the state in which it was paid for -/
theorem Sound.failed {limit : UInt64} {s u : State} {e : Fault} {p : Paid} {h : s.pc < s.code.size} (hs : Sound limit s)
    (hp : s.prepare h = .ok p) (hf : p.instruction.perform p.state = .fault e u) : u = p.state ∧ Halted limit u := by
  have hb := prepare_bill hs hp
  obtain ⟨rfl, -⟩ := Instruction.perform_fault hb.inRange hf
  exact ⟨rfl, hs.prepared hp⟩

theorem Ends.used_le {limit : UInt64} {s : State} {ps : List Paid} {out : Outcome} (he : Ends s ps out)
    (hs : Sound limit s) : s.gasUsed.toNat ≤ out.state.gasUsed.toNat := by
  cases he with
  | done hr hd => exact hr.used_le hs
  | refused h hr hp =>
    rw [Outcome.state, ((hr.sound hs).1.refused hp).2.2]
    exact hr.used_le hs
  | failed h hr hp hf =>
    have ht := (hr.sound hs).1
    obtain ⟨rfl, -⟩ := ht.failed hp hf
    have hused := (prepare_bill ht hp).used
    have hle := hr.used_le hs
    rw [Outcome.state]
    omega

/-- what is paid for in the next step is part of the gas used in the end -/
theorem Sound.used_le_execute {limit : UInt64} {s : State} {p : Paid} {h : s.pc < s.code.size} (hs : Sound limit s)
    (hp : s.prepare h = .ok p) : p.state.gasUsed.toNat ≤ s.execute.state.gasUsed.toNat := by
  have ha := p.instruction.perform_account p.state
  cases hf : p.instruction.perform p.state with
  | ok t =>
    rw [hf] at ha
    have hm : Moves s p t := ⟨h, hp, hf⟩
    have hle := (ends_history t).used_le (hm.sound hs).1
    rw [history_outcome] at hle
    rw [(Reaches.start.next hm).execute, ← ha.used]
    exact hle
  | fault e u =>
    rw [hf] at ha
    rw [(Ends.failed h .start hp hf).execute, ← ha.used]

/-- where a run ends the account still adds up, and nothing has shrunk -/
theorem Ends.halted {limit : UInt64} {s : State} {ps : List Paid} {out : Outcome} (he : Ends s ps out)
    (hs : Sound limit s) : Halted limit out.state ∧ s.memory.words ≤ out.state.memory.words := by
  cases he with
  | done hr hd =>
    obtain ⟨h1, h2⟩ := hr.sound hs
    exact ⟨h1.halted, h2⟩
  | refused h hr hp =>
    obtain ⟨h1, h2⟩ := hr.sound hs
    obtain ⟨h3, h4, -⟩ := h1.refused hp
    exact ⟨h3.halted, by rw [Outcome.state, h4]; exact h2⟩
  | failed h hr hp hf =>
    obtain ⟨h1, h2⟩ := hr.sound hs
    obtain ⟨rfl, h3⟩ := h1.failed hp hf
    exact ⟨h3, by rw [Outcome.state, (prepare_bill h1 hp).memory]; exact h2⟩

end State

end GasMachine
