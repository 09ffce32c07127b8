import Mathlib.Tactic
import GasMachine.Proofs.Charge
/-
What a paid instruction does to the state.

The ten instructions act in three ways (`perform_kind`): four combine the two top words, two store, four push. For each
way there is one lemma that lists every outcome with its condition: `binary_cases`, `store_outcome` (`store_cases` on a
whole memory), and `push_exact` (`push_cases` for the pushes that stand in code). Whatever an instruction does, it leaves
the code and the gas account alone (`perform_account`).
-/
namespace GasMachine

/-- the same code, opcode and gas account -/
structure SameAccount (s t : State) : Prop where
  code : t.code = s.code
  opcode : t.opcode = s.opcode
  remaining : t.gasRemaining = s.gasRemaining
  used : t.gasUsed = s.gasUsed
  paid : t.memoryPaid = s.memoryPaid

theorem SameAccount.refl (s : State) : SameAccount s s := ⟨rfl, rfl, rfl, rfl, rfl⟩

namespace Instruction

/-- the three ways in which instructions act -/
theorem perform_kind (i : Instruction) :
    (i.writes = 0 ∧ ∃ op, i.perform = binary op) ∨
    (i.writes ≠ 0 ∧ ∃ bytes, i.perform = store bytes ∧ ∀ w, (bytes w).length = i.writes) ∨
    (i.writes = 0 ∧ i.perform = push ∧ i.opcode.toNat - 0x5f ≤ 32) := by
  cases i with
  | add => exact .inl ⟨rfl, _, rfl⟩
  | mul => exact .inl ⟨rfl, _, rfl⟩
  | sdiv => exact .inl ⟨rfl, _, rfl⟩
  | exp => exact .inl ⟨rfl, _, rfl⟩
  | mstore => exact .inr (.inl ⟨by decide, _, rfl, fun w => w.toBytes_length⟩)
  | mstore8 => exact .inr (.inl ⟨by decide, _, rfl, fun _ => rfl⟩)
  | push1 => exact .inr (.inr ⟨rfl, rfl, by decide⟩)
  | push2 => exact .inr (.inr ⟨rfl, rfl, by decide⟩)
  | push3 => exact .inr (.inr ⟨rfl, rfl, by decide⟩)
  | push32 => exact .inr (.inr ⟨rfl, rfl, by decide⟩)

/-- a binary operation needs two words -/
theorem binary_cases (op : Word → Word → Word) (s : State) :
    (s.stack.words.length < 2 ∧ binary op s = .fault .stackUnderflow s) ∨
    ∃ a b rest, s.stack.words = a :: b :: rest ∧ binary op s = .ok { s with stack := ⟨op a b :: rest⟩ } := by
  rcases hw : s.stack.words with _ | ⟨a, _ | ⟨b, rest⟩⟩
  · left; simp [binary_eq, hw]
  · left; simp [binary_eq, hw]
  · right; exact ⟨a, b, rest, rfl, by simp [binary_eq, hw]⟩

/-- a store needs two words and an end within the bound; without the second it has taken its words off. A whole memory it
pads to the words that the end needs, and overwrites -/
theorem store_outcome {bytes : Word → List UInt8} {n : ℕ} (hn : n ≤ 32) (hbytes : ∀ w, (bytes w).length = n)
    (s : State) :
    (s.stack.words.length < 2 ∧ store bytes s = .fault .stackUnderflow s) ∨
    ∃ offset value rest, s.stack.words = offset :: value :: rest ∧
      ((Memory.maxSize.toNat < offset.toNat + n ∧ store bytes s = .fault .gasOverflow { s with stack := ⟨rest⟩ }) ∨
       (offset.toNat + n ≤ Memory.maxSize.toNat ∧ ∃ m, store bytes s = .ok { s with stack := ⟨rest⟩, memory := m } ∧
          (s.memory.Whole →
            m = (s.memory.grow (32 * wordsFor (offset.toNat + n))).overwrite offset.toNat (bytes value)))) := by
  have hmax := Memory.maxSize_toNat
  rcases hw : s.stack.words with _ | ⟨offset, _ | ⟨value, rest⟩⟩
  · left; simp [store_eq, hw]
  · left; simp [store_eq, hw]
  · right
    refine ⟨offset, value, rest, rfl, ?_⟩
    have hlen := hbytes value
    rcases Nat.lt_or_ge Memory.maxSize.toNat (offset.toNat + n) with hlt | hle
    · left
      refine ⟨hlt, ?_⟩
      by_cases hfit : offset.toNat < 2 ^ 64
      · obtain ⟨o, ho, hon⟩ := Word.toCount?_eq_some hfit
        have hwrite : s.memory.write o (bytes value) = .error .gasOverflow :=
          Memory.write_error (by omega) (by omega)
        simp [store_eq, hw, ho, hwrite]
      · simp [store_eq, hw, Word.toCount?_eq_none (by omega : 2 ^ 64 ≤ offset.toNat)]
    · right
      obtain ⟨o, ho, hon⟩ := Word.toCount?_eq_some (w := offset) (by omega)
      have hend : o.toNat + (bytes value).length ≤ Memory.maxSize.toNat := by omega
      obtain ⟨m, hwrite⟩ := s.memory.write_ok hend
      refine ⟨hle, m, by simp [store_eq, hw, ho, hwrite], fun hm => ?_⟩
      rw [Memory.write_eq hm hend, hon, hlen] at hwrite
      cases hwrite; rfl

/-- the same on a whole memory -/
theorem store_cases {bytes : Word → List UInt8} {n : ℕ} (hn : n ≤ 32) (hbytes : ∀ w, (bytes w).length = n) (s : State)
    (hm : s.memory.Whole) :
    (s.stack.words.length < 2 ∧ store bytes s = .fault .stackUnderflow s) ∨
    ∃ offset value rest, s.stack.words = offset :: value :: rest ∧
      ((Memory.maxSize.toNat < offset.toNat + n ∧ store bytes s = .fault .gasOverflow { s with stack := ⟨rest⟩ }) ∨
       (offset.toNat + n ≤ Memory.maxSize.toNat ∧ store bytes s = .ok { s with
          stack := ⟨rest⟩
          memory := (s.memory.grow (32 * wordsFor (offset.toNat + n))).overwrite offset.toNat (bytes value) })) := by
  rcases store_outcome hn hbytes s with hshort | ⟨offset, value, rest, hw, hlt | ⟨hle, m, he, hgrown⟩⟩
  · exact .inl hshort
  · exact .inr ⟨offset, value, rest, hw, .inl hlt⟩
  · rw [hgrown hm] at he
    exact .inr ⟨offset, value, rest, hw, .inr ⟨hle, he⟩⟩

/-- the big-endian value of the bytes that a push reads -/
def valueAhead (s : State) : ℕ := bigEndian (s.code.extract s.pc (s.pc + width s)).toList

section Push

variable {s : State}

theorem push_of_cut (hcut : s.code.size < s.pc + width s) : push s = .fault (.truncated s.opcode) s := by
  have hbytes : s.nextBytes (width s) = .error (.truncated s.opcode) := by
    rw [State.nextBytes, if_neg (Nat.not_le.2 hcut)]
  unfold push
  rw [hbytes]

theorem nextBytes_of_fits (hfits : s.pc + width s ≤ s.code.size) :
    s.nextBytes (width s) = .ok (s.code.extract s.pc (s.pc + width s)).toList := by
  rw [State.nextBytes, if_pos hfits]

theorem push_of_large (hfits : s.pc + width s ≤ s.code.size) (hlarge : 2 ^ 256 ≤ valueAhead s) :
    push s = .fault .wordOverflow s := by
  unfold push
  rw [nextBytes_of_fits hfits]
  simp only [Word.ofBytes_of_le hlarge]

theorem push_of_full (hfits : s.pc + width s ≤ s.code.size) (hlt : valueAhead s < 2 ^ 256)
    (hfull : Stack.limit ≤ s.stack.words.length) : push s = .fault .stackOverflow s := by
  have hplace (w : Word) : s.stack.push w = .error .stackOverflow := if_neg (Nat.not_lt.2 hfull)
  unfold push
  rw [nextBytes_of_fits hfits]
  simp only [Word.ofBytes_of_lt hlt, hplace]

theorem push_of_room (hfits : s.pc + width s ≤ s.code.size) (hlt : valueAhead s < 2 ^ 256)
    (hroom : s.stack.words.length < Stack.limit) :
    push s = .ok { s with
      stack := ⟨BitVec.ofNat 256 (valueAhead s) :: s.stack.words⟩
      pc := s.pc + width s } := by
  have hplace (w : Word) : s.stack.push w = .ok ⟨w :: s.stack.words⟩ := if_pos hroom
  unfold push
  rw [nextBytes_of_fits hfits]
  simp only [Word.ofBytes_of_lt hlt, hplace]
  rfl

end Push

/-- a push needs its bytes in the code, a value that a word holds, and a place on the stack, looked at in this order -/
theorem push_exact (s : State) :
    (s.code.size < s.pc + width s ∧ push s = .fault (.truncated s.opcode) s) ∨
    (s.pc + width s ≤ s.code.size ∧ 2 ^ 256 ≤ valueAhead s ∧ push s = .fault .wordOverflow s) ∨
    (s.pc + width s ≤ s.code.size ∧ valueAhead s < 2 ^ 256 ∧ Stack.limit ≤ s.stack.words.length ∧
      push s = .fault .stackOverflow s) ∨
    (s.pc + width s ≤ s.code.size ∧ valueAhead s < 2 ^ 256 ∧ s.stack.words.length < Stack.limit ∧
      push s = .ok { s with
        stack := ⟨BitVec.ofNat 256 (valueAhead s) :: s.stack.words⟩
        pc := s.pc + width s }) := by
  rcases Nat.lt_or_ge s.code.size (s.pc + width s) with hcut | hfits
  · exact .inl ⟨hcut, push_of_cut hcut⟩
  · rcases Nat.lt_or_ge (valueAhead s) (2 ^ 256) with hlt | hlarge
    · rcases Nat.lt_or_ge s.stack.words.length Stack.limit with hroom | hfull
      · exact .inr (.inr (.inr ⟨hfits, hlt, hroom, push_of_room hfits hlt hroom⟩))
      · exact .inr (.inr (.inl ⟨hfits, hlt, hfull, push_of_full hfits hlt hfull⟩))
    · exact .inr (.inl ⟨hfits, hlarge, push_of_large hfits hlarge⟩)

/-- a word holds what a push of up to 32 bytes reads -/
theorem valueAhead_lt (s : State) (hw : width s ≤ 32) : valueAhead s < 2 ^ 256 :=
  Word.bigEndian_lt_of_length (by simp; omega)

/-- a push of up to 32 bytes needs its bytes in the code, and a place on the stack -/
theorem push_cases (s : State) (hw : width s ≤ 32) :
    (s.code.size < s.pc + width s ∧ push s = .fault (.truncated s.opcode) s) ∨
    (s.pc + width s ≤ s.code.size ∧ Stack.limit ≤ s.stack.words.length ∧ push s = .fault .stackOverflow s) ∨
    (s.pc + width s ≤ s.code.size ∧ s.stack.words.length < Stack.limit ∧ push s = .ok { s with
        stack := ⟨BitVec.ofNat 256 (bigEndian (s.code.extract s.pc (s.pc + width s)).toList) :: s.stack.words⟩
        pc := s.pc + width s }) := by
  have hlt := valueAhead_lt s hw
  rcases push_exact s with hcut | ⟨-, hge, -⟩ | ⟨hfits, -, hfull, he⟩ | ⟨hfits, -, hroom, he⟩
  · exact .inl hcut
  · omega
  · exact .inr (.inl ⟨hfits, hfull, he⟩)
  · exact .inr (.inr ⟨hfits, hroom, he⟩)

/-- whatever a push reads, it faults with the state as it was, or adds one word and moves past what it read -/
theorem push_outcome (s : State) :
    (∃ e, push s = .fault e s ∧ (e = .truncated s.opcode ∨ e = .wordOverflow ∨ e = .stackOverflow)) ∨
    (s.pc + width s ≤ s.code.size ∧
      ∃ w, push s = .ok { s with stack := ⟨w :: s.stack.words⟩, pc := s.pc + width s }) := by
  rcases push_exact s with ⟨-, he⟩ | ⟨-, -, he⟩ | ⟨-, -, -, he⟩ | ⟨hfits, -, -, he⟩
  · exact .inl ⟨_, he, .inl rfl⟩
  · exact .inl ⟨_, he, .inr (.inl rfl)⟩
  · exact .inl ⟨_, he, .inr (.inr rfl)⟩
  · exact .inr ⟨hfits, _, he⟩

/-- an instruction leaves the code and the gas account alone, whether or not it faults -/
theorem perform_account (i : Instruction) (s : State) : SameAccount s (i.perform s).state := by
  rcases perform_kind i with ⟨-, op, hi⟩ | ⟨-, bytes, hi, -⟩ | ⟨-, hi, -⟩
  · rw [hi, binary_eq]
    split <;> exact ⟨rfl, rfl, rfl, rfl, rfl⟩
  · rw [hi, store_eq]
    split
    · split
      · exact ⟨rfl, rfl, rfl, rfl, rfl⟩
      · split <;> exact ⟨rfl, rfl, rfl, rfl, rfl⟩
    · exact SameAccount.refl s
  · rw [hi]
    rcases push_outcome s with ⟨e, he, -⟩ | ⟨-, w, he⟩
    · rw [he]; exact SameAccount.refl s
    · rw [he]; exact ⟨rfl, rfl, rfl, rfl, rfl⟩

theorem perform_ok_account {i : Instruction} {s t : State} (h : i.perform s = .ok t) : SameAccount s t := by
  have := perform_account i s
  rw [h] at this; exact this

end Instruction

end GasMachine
