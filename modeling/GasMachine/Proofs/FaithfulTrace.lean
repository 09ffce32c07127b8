import Mathlib.Tactic
import GasMachine.Machine.Trace
import GasMachine.Proofs.Fetches
/-
The account of a run tells what the run did.

An event is written between the payment for an instruction and the instruction itself, so that a run that faults has
three counts that need not agree: the instructions paid for, the ones performed, and the events. `trace_is_faithful`
says how they hang together:

- the gas of the events adds up to the gas used, whether or not the last instruction paid for acted;
- their offsets rise, and each names the instruction whose opcode stands at its offset;
- each tells the sizes that the instruction before it left, and the first finds nothing;
- there is an end exactly if there is no fault; it tells the number of successful steps, which is that of the events;
- a run that faults has one event for each successful step, and one more if it was the instruction that faulted.

What a traced run writes is found by induction over its steps (`Reaches.executeTraced`): each writes one event and adds
one to the count. The count does not wrap, since each of the steps takes gas. `Ends.executeTraced` adds the last step, so
that the events are those of the history of the run, and the rest is read off the history by its places:
`Ends.paid_at` says in which state the instruction at a place of the history was paid for, and that the one after it was
paid for in the state it left.
-/
namespace GasMachine

/-- what the event of an instruction tells -/
structure Entry where
  pc : ℕ
  name : String
  gas : UInt64
  stackSize : ℕ
  memorySize : UInt64
deriving DecidableEq, Repr

/-- what an event tells of an instruction, if it is the event of one -/
def TraceEvent.entry? : TraceEvent → Option Entry
  | executing pc name gas stackSize memorySize => some ⟨pc, name, gas, stackSize, memorySize⟩
  | _ => none

/-- what the event of a paid instruction tells -/
def Paid.entry (p : Paid) : Entry :=
  ⟨p.offset, p.instruction.name, p.gas, p.state.stack.size, p.state.memory.byteLength⟩

theorem Paid.entry?_event (p : Paid) : p.event.entry? = some p.entry := rfl

/-- the event of an end after `n` instructions, if there is no fault -/
def Outcome.ended (n : ℕ) : Outcome → List TraceEvent
  | ok _ => [.ended n]
  | fault _ _ => []

namespace State

/-! ## The traced run -/

section Counting

variable {s t : State} {ps : List Paid} {p : Paid} {out : Outcome}

theorem executeTraced_of_done (h : s.code.size ≤ s.pc) (operations : UInt64) :
    s.executeTraced operations = ([.ended operations.toNat], .ok s) := by
  rw [executeTraced, dif_neg (by omega)]

theorem executeTraced_of_fault {u : State} {e : Fault} {events : List TraceEvent} {h : s.pc < s.code.size}
    (hs : s.stepTraced h = (events, .fault e u)) (operations : UInt64) :
    s.executeTraced operations = (events, .fault e u) := by
  rw [executeTraced, dif_pos h]
  split
  · rename_i hs'
    rw [hs] at hs'
    cases hs'
  · rename_i hs'
    rw [hs] at hs'
    cases hs'; rfl

/-- a step that does not fault writes the event of what it pays for, and is counted -/
theorem Moves.executeTraced (hm : Moves s p t) (operations : UInt64) :
    s.executeTraced operations =
      (p.event :: (t.executeTraced (operations + 1)).1, (t.executeTraced (operations + 1)).2) := by
  obtain ⟨h, hp, hf⟩ := hm
  have hs : s.stepTraced h = ([p.event], .ok t) := by simp only [stepTraced, hp, hf]
  rw [State.executeTraced, dif_pos h]
  split
  · rename_i hs'
    rw [hs] at hs'
    cases hs'; rfl
  · rename_i hs'
    rw [hs] at hs'
    cases hs'

/-- after a number of steps the run has written the event of each, and its count has gone up by that number -/
theorem Reaches.executeTraced (hr : Reaches s ps t) (operations : UInt64) :
    s.executeTraced operations =
      (ps.map Paid.event ++ (t.executeTraced (operations + .ofNat ps.length)).1,
       (t.executeTraced (operations + .ofNat ps.length)).2) := by
  induction hr with
  | start => simp
  | @next ps p t u hr hm ih =>
    have hcount : operations + .ofNat ps.length + 1 = operations + .ofNat (ps ++ [p]).length := by
      rw [List.length_append, List.length_singleton, UInt64.ofNat_add, UInt64.add_assoc]
      rfl
    rw [ih, hm.executeTraced, hcount]
    simp

/-- **A traced run that comes to an end** has written an event for each instruction paid for; and if nothing faulted the
end, with the steps that succeeded added to its count. -/
theorem Ends.executeTraced (he : Ends s ps out) (operations : UInt64) :
    s.executeTraced operations =
      (ps.map Paid.event ++ out.ended (operations + .ofNat ps.length).toNat, out) := by
  cases he with
  | done hr hd => rw [hr.executeTraced, executeTraced_of_done hd]; rfl
  | @refused ps t u e h hr hp =>
    have hs : t.stepTraced h = ([], .fault e u) := by simp only [stepTraced, hp]
    rw [hr.executeTraced, executeTraced_of_fault hs]
    rfl
  | @failed ps p t u e h hr hp hf =>
    have hs : t.stepTraced h = ([p.event], .fault e u) := by simp only [stepTraced, hp, hf]
    rw [hr.executeTraced, executeTraced_of_fault hs]
    simp [Outcome.ended]

end Counting

end State

/-- a trace, by the history and the outcome of the run -/
theorem trace_eq (code : Bytes) (gasLimit : UInt64) :
    trace code gasLimit =
      (.started code.size gasLimit :: (State.start code gasLimit).history.1.map Paid.event ++
        (run code gasLimit).ended (State.start code gasLimit).history.1.length ++ [(run code gasLimit).event],
       run code gasLimit) := by
  -- each of the steps takes gas, so that the count does not wrap
  have hlength := State.history_length code gasLimit
  have hlimit := UInt64.toNat_lt gasLimit
  have hcount : (0 + UInt64.ofNat (State.start code gasLimit).history.1.length).toNat =
      (State.start code gasLimit).history.1.length := by
    rw [UInt64.zero_add, UInt64.toNat_ofNat_of_lt' (by rw [UInt64.size]; omega)]
  rw [trace, (State.ends_run code gasLimit).executeTraced 0, hcount]
  rfl

/-- the entries of a trace are those of the instructions paid for -/
theorem entries_trace (code : Bytes) (gasLimit : UInt64) :
    (trace code gasLimit).1.filterMap TraceEvent.entry? = (State.start code gasLimit).history.1.map Paid.entry := by
  have hpaid (ps : List Paid) : (ps.map Paid.event).filterMap TraceEvent.entry? = ps.map Paid.entry := by
    induction ps with
    | nil => rfl
    | cons p ps ih => rw [List.map_cons, List.filterMap_cons_some p.entry?_event, ih, List.map_cons]
  have hended (n : ℕ) : ((run code gasLimit).ended n).filterMap TraceEvent.entry? = [] := by
    cases run code gasLimit with
    | ok t => rfl
    | fault e u => rfl
  rw [trace_eq]
  simp only [List.filterMap_append, List.cons_append, List.filterMap_cons, hpaid, hended]
  simp [TraceEvent.entry?, Outcome.event]

/-- the trace tells an end exactly if there is no fault, after as many instructions as were paid for -/
theorem ended_mem_trace (code : Bytes) (gasLimit : UInt64) (n : ℕ) :
    .ended n ∈ (trace code gasLimit).1 ↔
      (run code gasLimit).fault? = none ∧ n = (State.start code gasLimit).history.1.length := by
  rw [trace_eq]
  cases run code gasLimit with
  | ok t => simp [Outcome.ended, Outcome.fault?, Outcome.event, Paid.event]
  | fault e u => simp [Outcome.ended, Outcome.fault?, Outcome.event, Paid.event]

namespace State

section History

variable {limit : UInt64} {s : State} {ps : List Paid} {p q : Paid} {out : Outcome} {k : ℕ}

/-- the first instruction paid for on the way to an end is the last and faults, or leads to a state with the same end -/
theorem Ends.uncons (he : Ends s (p :: ps) out) :
    ∃ h : s.pc < s.code.size, s.prepare h = .ok p ∧
      (ps = [] ∨ ∃ t, p.instruction.perform p.state = .ok t ∧ Ends t ps out) := by
  generalize hqs : p :: ps = qs at he
  cases he with
  | done hr hd =>
    subst hqs
    obtain ⟨t, ⟨h, hp, hf⟩, hrest⟩ := hr.uncons
    exact ⟨h, hp, .inr ⟨t, hf, .done hrest hd⟩⟩
  | refused hlt hr hp' =>
    subst hqs
    obtain ⟨t, ⟨h, hp, hf⟩, hrest⟩ := hr.uncons
    exact ⟨h, hp, .inr ⟨t, hf, .refused hlt hrest hp'⟩⟩
  | @failed rs r v u e hlt hr hp' hf' =>
    cases rs with
    | nil =>
      cases hqs
      cases hr.nil
      exact ⟨hlt, hp', .inl rfl⟩
    | cons r' rs =>
      cases hqs
      obtain ⟨t, ⟨h, hp, hf⟩, hrest⟩ := hr.uncons
      exact ⟨h, hp, .inr ⟨t, hf, .failed hlt hrest hp' hf'⟩⟩

/-- **The instruction at a place of the history** was paid for after as many steps as there are before it, and the one
after it in the state that it left. -/
theorem Ends.paid_at (he : Ends s ps out) (hk : ps[k]? = some p) :
    ∃ qs t, ∃ h : t.pc < t.code.size, qs.length = k ∧ Reaches s qs t ∧ t.prepare h = .ok p ∧
      ∀ q, ps[k + 1]? = some q → ∃ u, ∃ h' : u.pc < u.code.size, Moves t p u ∧ u.prepare h' = .ok q := by
  induction k generalizing s ps with
  | zero =>
    cases ps with
    | nil => cases hk
    | cons p' ps =>
      cases hk
      obtain ⟨h, hp, hnext⟩ := he.uncons
      refine ⟨[], s, h, rfl, .start, hp, ?_⟩
      intro q hq
      rw [List.getElem?_cons_succ] at hq
      rcases hnext with rfl | ⟨u, hf, hrest⟩
      · cases hq
      · cases ps with
        | nil => cases hq
        | cons q' ps =>
          cases hq
          obtain ⟨h', hp', -⟩ := hrest.uncons
          exact ⟨u, h', ⟨h, hp, hf⟩, hp'⟩
  | succ k ih =>
    cases ps with
    | nil => cases hk
    | cons p' ps =>
      rw [List.getElem?_cons_succ] at hk
      obtain ⟨h, hp, rfl | ⟨t, hf, hrest⟩⟩ := he.uncons
      · cases hk
      · obtain ⟨qs, v, hv, rfl, hr, hprep, hnext⟩ := ih hrest hk
        exact ⟨p' :: qs, v, hv, rfl, hr.head ⟨h, hp, hf⟩, hprep, hnext⟩

/-! ## Places and sizes -/

/-- the entry of an instruction tells where it stands and the sizes it finds -/
theorem prepare_entry {h : s.pc < s.code.size} (hp : s.prepare h = .ok p) :
    p.entry.pc = s.pc ∧ p.entry.stackSize = s.stack.size ∧ p.entry.memorySize = s.memory.byteLength ∧
      s.code[s.pc]? = some p.instruction.opcode := by
  obtain ⟨i, d, hi, -, -, rfl⟩ := prepare_ok hp
  refine ⟨rfl, rfl, rfl, ?_⟩
  rw [Array.getElem?_eq_getElem h, Instruction.opcode_of_ofByte? hi]

/-- the entry at a place of the history tells the state in which its instruction was paid for, and the one after it tells
the sizes of the state that the instruction led to -/
theorem Ends.entry_at {e : Entry} (he : Ends s ps out) (hk : (ps.map Paid.entry)[k]? = some e) :
    ∃ qs t p, qs.length = k ∧ Reaches s qs t ∧ e = p.entry ∧ t.code[e.pc]? = some p.instruction.opcode ∧
      e.stackSize = t.stack.size ∧ e.memorySize = t.memory.byteLength ∧
      ∀ d, (ps.map Paid.entry)[k + 1]? = some d →
        ∃ u, Moves t p u ∧ d.stackSize = u.stack.size ∧ d.memorySize = u.memory.byteLength := by
  rw [List.getElem?_map] at hk
  obtain ⟨p, hp, rfl⟩ := Option.map_eq_some_iff.1 hk
  obtain ⟨qs, t, h, hqs, hr, hprep, hnext⟩ := he.paid_at hp
  obtain ⟨hpc, hstack, hmemory, hbyte⟩ := prepare_entry hprep
  refine ⟨qs, t, p, hqs, hr, rfl, by rw [hpc, hbyte], hstack, hmemory, ?_⟩
  intro d hd
  rw [List.getElem?_map] at hd
  obtain ⟨q, hq, rfl⟩ := Option.map_eq_some_iff.1 hd
  obtain ⟨u, h', hm, hprep'⟩ := hnext q hq
  obtain ⟨-, hstack', hmemory', -⟩ := prepare_entry hprep'
  exact ⟨u, hm, hstack', hmemory'⟩

/-- each instruction stands further on than the one before -/
theorem Ends.offsets (he : Ends s ps out) :
    (∀ p ∈ ps, s.pc ≤ p.offset) ∧ (ps.map Paid.offset).Pairwise (· < ·) := by
  induction ps generalizing s with
  | nil => exact ⟨nofun, .nil⟩
  | cons p ps ih =>
    obtain ⟨h, hp, hnext⟩ := he.uncons
    have hoffset : p.offset = s.pc := (prepare_entry hp).1
    rcases hnext with rfl | ⟨t, hf, hrest⟩
    · simp [hoffset]
    · have hpc : s.pc < t.pc := (step_advances (h := h) (by simp [State.step, hp, hf])).2
      obtain ⟨hlow, hsorted⟩ := ih hrest
      constructor
      · intro q hq
        rcases List.mem_cons.1 hq with rfl | hq
        · exact hoffset.ge
        · exact hpc.le.trans (hlow q hq)
      · rw [List.map_cons, List.pairwise_cons]
        refine ⟨?_, hsorted⟩
        intro b hb
        obtain ⟨q, hq, rfl⟩ := List.mem_map.1 hb
        rw [hoffset]
        exact hpc.trans_le (hlow q hq)

/-! ## Gas -/

/-- the gas of the instructions paid for -/
def gasOf (ps : List Paid) : ℕ := (ps.map fun p => p.gas.toNat).sum

theorem gasOf_snoc (ps : List Paid) (p : Paid) : gasOf (ps ++ [p]) = gasOf ps + p.gas.toNat := by
  simp [gasOf]

theorem Reaches.used_eq {t : State} (hr : Reaches s ps t) (hs : Sound limit s) :
    t.gasUsed.toNat = s.gasUsed.toNat + gasOf ps := by
  induction hr with
  | start => rfl
  | @next ps p t u hr hm ih =>
    obtain ⟨h, hp, hf⟩ := hm
    have hused := (prepare_bill (hr.sound hs).1 hp).used
    rw [(Instruction.perform_ok_account hf).used, gasOf_snoc]
    omega

/-- the gas used is the gas of the instructions paid for, performed or not -/
theorem Ends.used_eq (he : Ends s ps out) (hs : Sound limit s) :
    out.state.gasUsed.toNat = s.gasUsed.toNat + gasOf ps := by
  cases he with
  | done hr hd => exact hr.used_eq hs
  | refused h hr hp =>
    rw [Outcome.state, ((hr.sound hs).1.refused hp).2.2]
    exact hr.used_eq hs
  | failed h hr hp hf =>
    have ht := (hr.sound hs).1
    have hused := (prepare_bill ht hp).used
    have hsum := hr.used_eq hs
    obtain ⟨rfl, -⟩ := ht.failed hp hf
    rw [Outcome.state, gasOf_snoc]
    omega

end History

/-! ## Traces -/

/-- **The trace is a faithful account of the run.** A run with a trace has the outcome it has without one. The gas of the
entries adds up to the gas used; their offsets rise; each names the instruction whose opcode stands there; the first finds
an empty stack and memory, and each other the sizes that the instruction of the one before left. There is an end exactly
if there is no fault, and its count is the number of entries and of the steps, all successful, by which the run came to
its end. A run that faults does so in a step after some that succeed: there are as many entries as those if that step was
not paid for, because its byte is no instruction, its charge cannot be computed or is above the gas left; and one more if
the instruction was paid for and faulted. -/
theorem trace_is_faithful (code : Bytes) (gasLimit : UInt64) :
    let events := (trace code gasLimit).1
    let entries := events.filterMap TraceEvent.entry?
    (trace code gasLimit).2 = run code gasLimit ∧
    (entries.map fun e => e.gas.toNat).sum = (run code gasLimit).state.gasUsed.toNat ∧
    (entries.map Entry.pc).Pairwise (· < ·) ∧
    (∀ e ∈ entries, ∃ i : Instruction, e.name = i.name ∧ code[e.pc]? = some i.opcode) ∧
    (∀ e, entries[0]? = some e → e.stackSize = 0 ∧ e.memorySize = 0) ∧
    (∀ k d e, entries[k]? = some d → entries[k + 1]? = some e →
      ∃ ps s p t, ps.length = k ∧ Reaches (start code gasLimit) ps s ∧ Moves s p t ∧ d = p.entry ∧
        e.stackSize = t.stack.size ∧ e.memorySize = t.memory.byteLength) ∧
    ((∃ n, .ended n ∈ events) ↔ (run code gasLimit).fault? = none) ∧
    (∀ n, .ended n ∈ events → n = entries.length ∧
      ∃ ps t, ps.length = n ∧ Reaches (start code gasLimit) ps t ∧ run code gasLimit = .ok t) ∧
    ∀ e u, run code gasLimit = .fault e u →
      ∃ ps t, ∃ h : t.pc < t.code.size, Reaches (start code gasLimit) ps t ∧ t.step h = .fault e u ∧
        ((t.prepare h = .error (e, u) ∧ entries.length = ps.length ∧
            (Instruction.ofByte? t.code[t.pc] = none ∨ ∃ i, Instruction.ofByte? t.code[t.pc] = some i ∧
              (i.dynamicGas (t.fetched t.code[t.pc]) = .error e ∨
               ∃ d, i.dynamicGas (t.fetched t.code[t.pc]) = .ok d ∧
                t.gasRemaining.toNat < i.constantGas.toNat + d.gas.toNat))) ∨
         ∃ p, t.prepare h = .ok p ∧ p.instruction.perform p.state = .fault e u ∧ entries.length = ps.length + 1) := by
  intro events entries
  have hends := ends_run code gasLimit
  have hentries : entries = (start code gasLimit).history.1.map Paid.entry := entries_trace code gasLimit
  have hlength : entries.length = (start code gasLimit).history.1.length := by rw [hentries, List.length_map]
  refine ⟨by rw [trace_eq], ?_, ?_, ?_, ?_, ?_, ?_, ?_, ?_⟩
  · have hused := hends.used_eq (sound_start code gasLimit)
    rw [hused, hentries, List.map_map]
    exact (Nat.zero_add _).symm
  · rw [hentries, List.map_map]
    exact hends.offsets.2
  · intro e he
    rw [hentries] at he
    obtain ⟨k, hk⟩ := List.getElem?_of_mem he
    obtain ⟨qs, t, p, -, hr, rfl, hbyte, -⟩ := hends.entry_at hk
    rw [(hr.place (Nat.zero_le _)).1] at hbyte
    exact ⟨p.instruction, rfl, hbyte⟩
  · intro e he
    rw [hentries] at he
    obtain ⟨qs, t, p, hqs, hr, -, -, hstack, hmemory, -⟩ := hends.entry_at he
    rw [List.length_eq_zero_iff.1 hqs] at hr
    rw [hr.nil] at hstack hmemory
    exact ⟨hstack, hmemory⟩
  · intro k d e hd he
    rw [hentries] at hd he
    obtain ⟨qs, s, p, hqs, hr, hentry, -, -, -, hnext⟩ := hends.entry_at hd
    obtain ⟨t, hm, hstack, hmemory⟩ := hnext e he
    exact ⟨qs, s, p, t, hqs, hr, hm, hentry, hstack, hmemory⟩
  · simp only [events, ended_mem_trace, exists_and_left, exists_eq, and_true]
  · intro n hn
    obtain ⟨hok, rfl⟩ := (ended_mem_trace code gasLimit n).1 hn
    have hrun := Outcome.eq_ok hok
    rw [hrun] at hends
    exact ⟨hlength.symm, _, _, rfl, hends.reaches, hrun⟩
  · intro e u hrun
    rw [hrun] at hends
    obtain ⟨qs, t, h, hr, hstep, hcount⟩ := hends.faulting_step
    rw [hlength]
    refine ⟨qs, t, h, hr, hstep, ?_⟩
    rcases hcount with ⟨hp, hlen⟩ | hpaid
    · refine .inl ⟨hp, hlen, ?_⟩
      rcases prepare_error hp with ⟨hi, -, -⟩ | ⟨i, hi, -, hd | ⟨d, hd, -, hg⟩⟩
      · exact .inl hi
      · exact .inr ⟨i, hi, .inl hd⟩
      · exact .inr ⟨i, hi, .inr ⟨d, hd, hg⟩⟩
    · exact .inr hpaid

/-- a store, and then a sum that finds no words: four events for three successful steps, the last of them telling what
the store left; and a push alone, with an end after one step -/
theorem trace_of_store_and_sum :
    let code := #[0x60, 0x05, 0x60, 0x00, 0x52, 0x01]
    let entries := (trace code 100).1.filterMap TraceEvent.entry?
    entries[2]? = some ⟨4, "MSTORE", 6, 2, 0⟩ ∧ entries[3]? = some ⟨5, "ADD", 3, 0, 32⟩ ∧
    (∃ ps s p t, ps.length = 2 ∧ Reaches (start code 100) ps s ∧ Moves s p t ∧ 0 = t.stack.size ∧
      32 = t.memory.byteLength) ∧
    (run code 100).state.gasUsed.toNat = 15 ∧
    (∃ u, run code 100 = .fault .stackUnderflow u ∧ ∃ ps t, ∃ h : t.pc < t.code.size,
      Reaches (start code 100) ps t ∧ t.step h = .fault .stackUnderflow u ∧ (4 = ps.length ∨ 4 = ps.length + 1)) ∧
    .ended 1 ∈ (trace #[0x60, 0x05] 100).1 ∧ (run #[0x60, 0x05] 100).fault? = none ∧
    ∃ ps t, ps.length = 1 ∧ Reaches (start #[0x60, 0x05] 100) ps t ∧ run #[0x60, 0x05] 100 = .ok t := by
  intro code entries
  have hentries : entries = [⟨0, "PUSH1", 3, 0, 0⟩, ⟨2, "PUSH1", 3, 1, 0⟩, ⟨4, "MSTORE", 6, 2, 0⟩, ⟨5, "ADD", 3, 0, 32⟩] := by
    decide +kernel
  have h₂ : entries[2]? = some ⟨4, "MSTORE", 6, 2, 0⟩ := by rw [hentries]; rfl
  have h₃ : entries[3]? = some ⟨5, "ADD", 3, 0, 32⟩ := by rw [hentries]; rfl
  have hended : .ended 1 ∈ (trace #[0x60, 0x05] 100).1 := by decide +kernel
  have hrun : run code 100 = .fault .stackUnderflow (run code 100).state := by decide +kernel
  obtain ⟨-, hgas, -, -, -, hsizes, -, -, hfault⟩ := trace_is_faithful code 100
  obtain ⟨-, -, -, -, -, -, hend, hcount', -⟩ := trace_is_faithful #[0x60, 0x05] 100
  obtain ⟨ps, s, p, t, hps, hr, hm, -, hstack, hmemory⟩ := hsizes 2 _ _ h₂ h₃
  obtain ⟨qs, v, h, hq, hstep, hcount⟩ := hfault _ _ hrun
  have hlen : (List.filterMap TraceEvent.entry? (trace code 100).1).length = 4 := congrArg List.length hentries
  rw [hlen] at hcount
  have hsum : (run code 100).state.gasUsed.toNat = 15 := by
    rw [← hgas]
    exact congrArg (fun l : List Entry => (l.map fun e => e.gas.toNat).sum) hentries
  refine ⟨h₂, h₃, ⟨ps, s, p, t, hps, hr, hm, hstack, hmemory⟩, hsum, ⟨_, hrun, qs, v, h, hq, hstep, ?_⟩, hended,
    hend.1 ⟨1, hended⟩, (hcount' 1 hended).2⟩
  rcases hcount with ⟨-, hlen, -⟩ | ⟨p, -, -, hlen⟩
  · exact .inl hlen
  · exact .inr hlen

end State

end GasMachine
