import Mathlib.Tactic
import GasMachine.Proofs.CodeAhead
/-
Words as bytes, from the code to the memory.

A push reads bytes of code as a word, and a store writes a word as bytes of memory. Reading and writing undo each other:

- bytes are read as their big-endian value if it is below 2^256, however many zeros they begin with, and refused if it
  is not;
- the 32 bytes written for a word are read as the word again;
- what is written for the word read from up to 32 bytes is these bytes, behind zeros.

The two ends meet in the machine. What a store wrote stands in the memory, whatever the memory was before
(`write_read_back`), so that bytes pushed and then stored are found at the offset as they stood in the code
(`execute_pushAndStore`).
-/
namespace GasMachine

/-! ## What was written is there -/

namespace Memory

variable {m m' : Memory}

/-- an extension that is let through reaches as far as was asked, on any memory -/
theorem le_size_of_extend {last : UInt64} (h : m.extend last = .ok m') : last.toNat ≤ m'.bytes.size := by
  rcases Nat.lt_or_ge maxSize.toNat last.toNat with hlt | hle
  · simp only [extend, sizeFor_error hlt] at h
    cases h
  · obtain ⟨size, hs, hsize⟩ := sizeFor_ok hle
    have hlast : last.toNat ≤ size.toNat := by
      rw [hsize]
      unfold wordsFor
      omega
    simp only [extend, hs] at h
    cases h
    split_ifs with hshort
    · rw [grow_size]
      exact hlast.trans (le_max_right _ _)
    · -- the count of the bytes is at most their number, even where it wraps
      have hcount : m.byteLength.toNat ≤ m.bytes.size := by
        simp only [byteLength, Nat.toUInt64_eq, UInt64.toNat_ofNat']
        exact Nat.mod_le _ _
      have hfits : size.toNat ≤ m.byteLength.toNat := UInt64.le_iff_toNat_le.1 (UInt64.not_lt.1 hshort)
      exact (hlast.trans hfits).trans hcount

/-- **What was written is there**, on any memory. -/
theorem write_read_back {offset : UInt64} {bs : List UInt8} (hbs : bs.length < 2 ^ 64)
    (h : m.write offset bs = .ok m') :
    (m'.bytes.extract offset.toNat (offset.toNat + bs.length)).toList = bs := by
  have hlen : bs.length.toUInt64.toNat = bs.length := by simpa using hbs
  rcases Nat.lt_or_ge (offset.toNat + bs.length) (2 ^ 64) with hlt | hge
  · have hsum : offset.toNat + bs.length.toUInt64.toNat < 2 ^ 64 := by rw [hlen]; exact hlt
    simp only [write, Checked.add_eq_some hsum] at h
    split at h
    · rename_i grown hgrown
      cases h
      have hfits := le_size_of_extend hgrown
      rw [Checked.toNat_add_of_lt hsum, hlen] at hfits
      have hstart : (grown.bytes.toList.take offset.toNat).length = offset.toNat := by simp; omega
      rw [Array.toList_extract, List.extract_eq_take_drop, overwrite_toList _ _ _ hfits, List.append_assoc,
        List.drop_left' hstart, Nat.add_sub_cancel_left, List.take_left]
    · cases h
  · have hnone : Checked.add offset bs.length.toUInt64 = none := Checked.add_eq_none.2 (by rw [hlen]; exact hge)
    simp only [write, hnone] at h
    cases h

theorem storeWord_read_back {offset : UInt64} {w : Word} (h : m.storeWord offset w = .ok m') :
    (m'.bytes.extract offset.toNat (offset.toNat + 32)).toList = w.toBytes := by
  have hlen := w.toBytes_length
  have hread := write_read_back (by omega) h
  rw [hlen] at hread
  exact hread

end Memory

/-! ## Pushed and stored -/

namespace Instruction

/-- a store that succeeds has its words, and writes to the memory there is -/
theorem store_ok {bytes : Word → List UInt8} {s t : State} {offset value : Word} {rest : List Word}
    (hw : s.stack.words = offset :: value :: rest) (h : store bytes s = .ok t) :
    ∃ o : UInt64, o.toNat = offset.toNat ∧ s.memory.write o (bytes value) = .ok t.memory := by
  by_cases hfit : offset.toNat < 2 ^ 64
  · obtain ⟨o, ho, hon⟩ := Word.toCount?_eq_some hfit
    refine ⟨o, hon, ?_⟩
    simp only [store_eq, hw, ho] at h
    split at h
    · rename_i m hm
      cases h
      exact hm
    · cases h
  · have hnone := Word.toCount?_eq_none (Nat.le_of_not_lt hfit)
    simp only [store_eq, hw, hnone] at h
    cases h

end Instruction

namespace State

variable {s t : State} {i : Instruction} {immediate : List UInt8} {value offset : Word}

/-- a run that has a word store ahead and nothing after it, and succeeds, leaves the word at the offset -/
theorem execute_storeWord {words : List Word} (ha : s.ahead = [Instruction.mstore.opcode])
    (hw : s.stack.words = offset :: value :: words) (ht : s.execute = .ok t) :
    (t.memory.bytes.extract offset.toNat (offset.toNat + 32)).toList = value.toBytes := by
  obtain ⟨h, -, -⟩ := ahead_cons ha
  obtain ⟨u, hu, hend⟩ := step_of_execute h ht
  have hfirst : s.ahead = Instruction.mstore.opcode :: ([] ++ []) := ha
  obtain ⟨p, hp, -, hf, hahead⟩ := step_ahead hfirst rfl hu
  rw [ahead_nil hahead] at hend
  cases hend
  obtain ⟨-, -, -, hstack⟩ := prepare_fetched hp
  obtain ⟨o, hon, hwrite⟩ := Instruction.store_ok (by rw [hstack]; exact hw) hf
  rw [← hon]
  exact Memory.storeWord_read_back hwrite

/-- bytes pushed by `i`, an offset pushed, and the word of the bytes stored there -/
def pushAndStore (i : Instruction) (immediate : List UInt8) (offset : Word) : List UInt8 :=
  i.opcode :: (immediate ++ Instruction.push32.opcode :: (offset.toBytes ++ [Instruction.mstore.opcode]))

/-- bytes pushed and stored stand at the offset as they stood in the code, behind zeros -/
theorem execute_pushAndStore (hi : i.kind = .push) (hlen : immediate.length = i.immediate)
    (ha : s.ahead = pushAndStore i immediate offset) (ht : s.execute = .ok t) :
    (t.memory.bytes.extract offset.toNat (offset.toNat + 32)).toList =
      List.replicate (32 - immediate.length) 0 ++ immediate := by
  obtain ⟨-, hle, -⟩ := Instruction.perform_of_push hi
  obtain ⟨-, -, ht₁⟩ := (execute_push_iff hi hlen ha).1 ht
  have ha₁ := ahead_pushed ha
  obtain ⟨-, -, ht₂⟩ := (execute_push_iff (i := .push32) rfl offset.toBytes_length ha₁).1 ht₁
  have hw : ((s.pushed i immediate).pushed .push32 offset.toBytes).stack.words =
      offset :: BitVec.ofNat 256 (bigEndian immediate) :: s.stack.words := pushed_words _ _ _
  rw [← Word.toBytes_bigEndian (hlen.trans_le hle)]
  exact execute_storeWord (ahead_pushed ha₁) hw ht₂

end State

namespace Word

theorem ofBytes_toBytes (w : Word) : ofBytes w.toBytes = .ok w := by
  have hvalue := w.bigEndian_toBytes
  rw [ofBytes_of_lt (by rw [hvalue]; exact w.isLt), hvalue, BitVec.ofNat_toNat, BitVec.setWidth_eq]

/-- **Words and their bytes**, from the code to the memory. Bytes of any number are read as their big-endian value if it
is below 2^256, and refused if not. The 32 bytes of a word are read as the word; they are what a store of the word, if it
is let through, leaves at the offset of any memory. Up to 32 bytes are read as a word whose bytes are these, behind
zeros. So where code that pushes bytes and an offset and then stores runs from any state to its end, the bytes stand at
the offset as they stood in the code, behind zeros. -/
theorem bytes_round_trip :
    (∀ bs : List UInt8,
      (bigEndian bs < 2 ^ 256 → ∃ w : Word, ofBytes bs = .ok w ∧ w.toNat = bigEndian bs) ∧
      (2 ^ 256 ≤ bigEndian bs → ofBytes bs = .error .wordOverflow)) ∧
    (∀ w : Word, w.toBytes.length = 32 ∧ ofBytes w.toBytes = .ok w ∧
      ∀ (m m' : Memory) (offset : UInt64), m.storeWord offset w = .ok m' →
        (m'.bytes.extract offset.toNat (offset.toNat + 32)).toList = w.toBytes) ∧
    (∀ bs : List UInt8, bs.length ≤ 32 →
      ∃ w : Word, ofBytes bs = .ok w ∧ w.toBytes = List.replicate (32 - bs.length) 0 ++ bs) ∧
    ∀ (i : Instruction) (immediate : List UInt8) (offset : Word) (s t : State),
      i ∈ [Instruction.push1, .push2, .push3, .push32] → immediate.length = i.immediate →
      s.ahead = State.pushAndStore i immediate offset → s.execute = .ok t →
      (t.memory.bytes.extract offset.toNat (offset.toNat + 32)).toList =
        List.replicate (32 - immediate.length) 0 ++ immediate := by
  refine ⟨?_, ?_, ?_, ?_⟩
  · intro bs
    refine ⟨?_, ofBytes_of_le⟩
    intro hlt
    exact ⟨_, ofBytes_of_lt hlt, by rw [BitVec.toNat_ofNat, Nat.mod_eq_of_lt hlt]⟩
  · intro w
    refine ⟨w.toBytes_length, w.ofBytes_toBytes, ?_⟩
    intro m m' offset hstore
    exact Memory.storeWord_read_back hstore
  · intro bs hlen
    exact ⟨_, ofBytes_of_lt (bigEndian_lt_of_length hlen), toBytes_bigEndian hlen⟩
  · intro i immediate offset s t hi hlen ha ht
    have hkind : i.kind = .push := by
      have table : ∀ j ∈ [Instruction.push1, .push2, .push3, .push32], j.kind = .push := by decide
      exact table i hi
    exact State.execute_pushAndStore hkind hlen ha ht

/-- two bytes pushed and stored across the first word boundary, in a run from the start with just enough gas -/
theorem round_trip_of_two_bytes :
    let code := State.pushAndStore .push2 [0x01, 0x02] 31
    ∃ t, run code.toArray 15 = .ok t ∧
      (t.memory.bytes.extract 31 63).toList = List.replicate 30 0 ++ [0x01, 0x02] := by
  intro code
  have ht : run code.toArray 15 = .ok (run code.toArray 15).state := Outcome.eq_ok (by decide +kernel)
  exact ⟨_, ht, bytes_round_trip.2.2.2 .push2 [0x01, 0x02] 31 (.start code.toArray 15) _ (by decide) rfl rfl ht⟩

end Word

end GasMachine
