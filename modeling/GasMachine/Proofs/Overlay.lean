import Mathlib.Tactic
import GasMachine.Proofs.MemoryGrowth
import GasMachine.Proofs.Words
/-
A memory is the overlay of what was written to it.

The operations on a memory are to extend it, to store a word and to store a byte, at any 64-bit size or offset. They are
applied in turn to the empty memory, and one that faults does not stop the ones after it. `overlay_of_successes` says
what they leave:

- an operation faults exactly if it ends beyond the bound, counted over the naturals, and then the memory is kept;
- the size is the furthest end of those that succeed, rounded up to whole words;
- a byte is the one that the last of them to cover it puts there, and zero if none does.

What an operation puts where is said without the memory (`Op.byteAt?`), as digits of the word stored. A successful
operation is one padding with zeros and one overwriting (`Op.apply_eq`), which keeps the overlay (`IsOverlay.apply`).
-/
namespace GasMachine.Memory

/-- an operation on a memory -/
inductive Op where
  | extend (size : UInt64)
  | storeWord (offset : UInt64) (w : Word)
  | storeByte (offset : UInt64) (b : UInt8)
deriving DecidableEq, Repr

namespace Op

/-- the memory an operation leaves, if it does not fault -/
def apply (m : Memory) : Op → Except Fault Memory
  | extend size => m.extend size
  | storeWord offset w => m.storeWord offset w
  | storeByte offset b => m.storeByte offset b

/-- where an operation ends, counted without a bound -/
def last : Op → ℕ
  | extend size => size.toNat
  | storeWord offset _ => offset.toNat + 32
  | storeByte offset _ => offset.toNat + 1

/-- the byte that an operation puts at `i`, if it covers `i`: of a word, the digit to the base 256 at that position -/
def byteAt? (i : ℕ) : Op → Option UInt8
  | extend _ => none
  | storeWord offset w =>
    if offset.toNat ≤ i ∧ i < offset.toNat + 32 then
      some (UInt8.ofNat (w.toNat / 256 ^ (31 - (i - offset.toNat))))
    else none
  | storeByte offset b => if i = offset.toNat then some b else none

end Op

/-- the fault of an operation, if it has one, and the memory it leaves, which then is the one before -/
def attempt (m : Memory) (op : Op) : Option Fault × Memory :=
  match op.apply m with
  | .ok m' => (none, m')
  | .error e => (some e, m)

/-- the memory after operations applied in turn, whether they fault or not -/
def after (m : Memory) (ops : List Op) : Memory := ops.foldl (fun m op => (m.attempt op).2) m

/-- those of the operations applied in turn that do not fault -/
def successes (m : Memory) : List Op → List Op
  | [] => []
  | op :: ops =>
    match m.attempt op with
    | (none, m') => op :: successes m' ops
    | (some _, m') => successes m' ops

/-- the furthest end of operations, zero if there are none -/
def reach (ops : List Op) : ℕ := (ops.map Op.last).foldr max 0

/-- the byte at `i` by the last of the operations that covers it -/
def lastByte? (i : ℕ) (ops : List Op) : Option UInt8 := ops.reverse.findSome? (Op.byteAt? i)

theorem reach_concat (ops : List Op) (op : Op) : reach (ops ++ [op]) = max (reach ops) op.last := by
  induction ops with
  | nil => simp [reach]
  | cons o ops ih =>
    unfold reach at ih ⊢
    simp only [List.cons_append, List.map_cons, List.foldr_cons, ih, max_assoc]

theorem lastByte?_concat (i : ℕ) (ops : List Op) (op : Op) :
    lastByte? i (ops ++ [op]) = (op.byteAt? i).or (lastByte? i ops) := by
  simp only [lastByte?, List.reverse_concat, List.findSome?_cons]
  cases op.byteAt? i <;> rfl

/-! ## Bytes, read as zero beyond the end -/

/-- the byte at `i`, zero beyond the end -/
def byte (m : Memory) (i : ℕ) : UInt8 := m.bytes[i]?.getD 0

/-- padding with zeros changes no byte -/
theorem byte_grow (m : Memory) (n i : ℕ) : (m.grow n).byte i = m.byte i := by
  unfold byte grow
  rw [Array.getElem?_append]
  split_ifs with h
  · rfl
  · rw [Array.getElem?_eq_none (Nat.le_of_not_lt h), Array.getElem?_replicate]
    split_ifs <;> rfl

theorem byte_overwrite (m : Memory) (start : ℕ) (bs : List UInt8) (h : start + bs.length ≤ m.bytes.size) (i : ℕ) :
    (m.overwrite start bs).byte i = (if start ≤ i then bs[i - start]? else none).getD (m.byte i) := by
  induction bs generalizing m start with
  | nil => simp [overwrite]
  | cons b bs ih =>
    simp only [List.length_cons] at h
    rw [overwrite, ih _ _ (by simp; omega)]
    have hother (hne : start ≠ i) : (Memory.mk (m.bytes.setIfInBounds start b)).byte i = m.byte i := by
      unfold byte; rw [Array.getElem?_setIfInBounds_ne hne]
    -- the byte set is the one at `start`, and the rest goes on from the byte after
    rcases Nat.lt_trichotomy i start with hlt | rfl | hgt
    · rw [if_neg (by omega), if_neg (by omega), hother (by omega)]
    · have hset : (Memory.mk (m.bytes.setIfInBounds i b)).byte i = b := by
        unfold byte; rw [Array.getElem?_setIfInBounds_self, if_pos (by omega)]; rfl
      simp [hset]
    · have hidx : i - start = (i - (start + 1)) + 1 := by omega
      rw [if_pos (by omega), if_pos (by omega), hother (by omega), hidx, List.getElem?_cons_succ]

/-! ## One operation -/

namespace Op

/-- where an operation starts to write -/
def start : Op → ℕ
  | extend _ => 0
  | storeWord offset _ | storeByte offset _ => offset.toNat

/-- the bytes an operation writes -/
def bytes : Op → List UInt8
  | extend _ => []
  | storeWord _ w => w.toBytes
  | storeByte _ b => [b]

/-- an operation extends the memory, or writes its bytes up to where it ends -/
theorem apply_kind (op : Op) :
    (∃ size, op = extend size) ∨
    ∃ offset : UInt64, (∀ m, op.apply m = m.write offset op.bytes) ∧ op.start = offset.toNat ∧
      offset.toNat + op.bytes.length = op.last ∧ op.bytes.length ≤ 32 := by
  cases op with
  | extend size => exact .inl ⟨size, rfl⟩
  | storeWord offset w =>
    have hlen : (storeWord offset w).bytes.length = 32 := w.toBytes_length
    exact .inr ⟨offset, fun _ => rfl, rfl, by rw [hlen]; rfl, hlen.le⟩
  | storeByte offset b => exact .inr ⟨offset, fun _ => rfl, rfl, rfl, Nat.le_add_left 1 31⟩

theorem start_add_length_le (op : Op) : op.start + op.bytes.length ≤ op.last := by
  rcases op.apply_kind with ⟨size, rfl⟩ | ⟨offset, -, hstart, hlast, -⟩
  · exact Nat.zero_le _
  · rw [hstart]; exact hlast.le

/-- the byte at a position, among the bytes written -/
theorem byteAt?_eq (op : Op) (i : ℕ) : op.byteAt? i = if op.start ≤ i then op.bytes[i - op.start]? else none := by
  cases op with
  | extend size => simp [byteAt?, bytes]
  | storeWord offset w =>
    simp only [byteAt?, start, bytes, Word.toBytes_eq, List.getElem?_map]
    by_cases hle : offset.toNat ≤ i
    · by_cases hlt : i < offset.toNat + 32
      · simp [hle, hlt, List.getElem?_range (show i - offset.toNat < 32 by omega)]
      · simp [hle, hlt]; omega
    · simp [hle]
  | storeByte offset b =>
    simp only [byteAt?, start, bytes]
    by_cases heq : i = offset.toNat
    · simp [heq]
    · by_cases hle : offset.toNat ≤ i
      · simp [heq, hle]; omega
      · simp [heq, hle]

/-- on a whole memory, an operation within the bound pads to the words it needs, and writes its bytes -/
theorem apply_eq {m : Memory} (hm : Whole m) {op : Op} (h : op.last ≤ maxSize.toNat) :
    op.apply m = .ok ((m.grow (32 * wordsFor op.last)).overwrite op.start op.bytes) := by
  rcases op.apply_kind with ⟨size, rfl⟩ | ⟨offset, hwrite, hstart, hlast, -⟩
  · exact extend_eq hm h
  · rw [hwrite, write_eq hm (hlast.trans_le h), hlast, hstart]

/-- on any memory, an operation within the bound succeeds -/
theorem apply_ok (m : Memory) {op : Op} (h : op.last ≤ maxSize.toNat) : ∃ m', op.apply m = .ok m' := by
  rcases op.apply_kind with ⟨size, rfl⟩ | ⟨offset, hwrite, -, hlast, -⟩
  · exact m.extend_ok h
  · rw [hwrite]
    exact m.write_ok (hlast.trans_le h)

/-- on any memory, an operation beyond the bound is refused -/
theorem apply_error (m : Memory) {op : Op} (h : maxSize.toNat < op.last) : op.apply m = .error .gasOverflow := by
  rcases op.apply_kind with ⟨size, rfl⟩ | ⟨offset, hwrite, -, hlast, hlen⟩
  · simp only [apply, Memory.extend, sizeFor_error h]
  · rw [hwrite]
    exact write_error (by omega) (by omega)

end Op

/-! ## Operations in turn -/

theorem attempt_of_le (m : Memory) {op : Op} (h : op.last ≤ maxSize.toNat) :
    ∃ m', op.apply m = .ok m' ∧ m.attempt op = (none, m') := by
  obtain ⟨m', happly⟩ := op.apply_ok m h
  exact ⟨m', happly, by simp only [attempt, happly]⟩

theorem attempt_of_lt (m : Memory) {op : Op} (h : maxSize.toNat < op.last) : m.attempt op = (some .gasOverflow, m) := by
  simp only [attempt, op.apply_error m h]

/-- `m` holds the bytes of `done`, each where the last of them to cover it puts it, in whole words up to their reach -/
structure IsOverlay (m : Memory) (done : List Op) : Prop where
  size : m.bytes.size = 32 * wordsFor (reach done)
  bounded : reach done ≤ maxSize.toNat
  byte : ∀ i, m.byte i = (lastByte? i done).getD 0

theorem isOverlay_empty : IsOverlay empty [] := ⟨rfl, Nat.zero_le _, fun _ => rfl⟩

theorem IsOverlay.whole {m : Memory} {done : List Op} (h : IsOverlay m done) : Whole m :=
  ⟨by rw [h.size]; exact Nat.mul_mod_right _ _, by rw [h.size]; exact (wordsFor_le_iff (by decide)).2 h.bounded⟩

/-- one more operation that succeeds lies on top -/
theorem IsOverlay.apply {m m' : Memory} {done : List Op} (h : IsOverlay m done) {op : Op}
    (hle : op.last ≤ maxSize.toNat) (happly : op.apply m = .ok m') : IsOverlay m' (done ++ [op]) := by
  rw [Op.apply_eq h.whole hle] at happly
  cases happly
  have hsize : (m.grow (32 * wordsFor op.last)).bytes.size = 32 * wordsFor (reach (done ++ [op])) := by
    rw [grow_size, h.size, reach_concat]
    unfold wordsFor; omega
  have hfits : op.start + op.bytes.length ≤ (m.grow (32 * wordsFor op.last)).bytes.size := by
    have hend := op.start_add_length_le
    rw [hsize, reach_concat]
    unfold wordsFor; omega
  refine ⟨by rw [overwrite_size, hsize], by rw [reach_concat]; exact max_le h.bounded hle, fun i => ?_⟩
  rw [byte_overwrite _ _ _ hfits, byte_grow, h.byte, lastByte?_concat, ← op.byteAt?_eq]
  cases op.byteAt? i <;> rfl

/-- operations in turn keep the overlay, with those on top that succeed -/
theorem IsOverlay.after {m : Memory} {done : List Op} (h : IsOverlay m done) (ops : List Op) :
    IsOverlay (m.after ops) (done ++ m.successes ops) := by
  induction ops generalizing m done with
  | nil => simpa [Memory.after, successes] using h
  | cons op ops ih =>
    rcases Nat.lt_or_ge maxSize.toNat op.last with hlt | hle
    · have hkeep := m.attempt_of_lt hlt
      simpa [Memory.after, successes, hkeep] using ih h
    · obtain ⟨m', happly, hmove⟩ := m.attempt_of_le hle
      simpa [Memory.after, successes, hmove] using ih (h.apply hle happly)

/-- **A memory is the overlay of its successful operations.** On any memory an operation faults, always with the same
fault, exactly if it ends beyond the bound, and a fault keeps the memory. After any operations on the empty memory, the
size is the furthest end of those that succeeded, rounded up to whole words; and the byte at a position below it is the
one that the last success to cover it puts there, zero if there is none. -/
theorem overlay_of_successes (ops : List Op) :
    (∀ (m : Memory) (op : Op),
      (m.attempt op).1 = (if maxSize.toNat < op.last then some .gasOverflow else none) ∧
        ((m.attempt op).1 = none ∨ (m.attempt op).2 = m)) ∧
    (empty.after ops).byteLength.toNat = 32 * wordsFor (reach (empty.successes ops)) ∧
    ∀ i, (empty.after ops).bytes[i]? =
      if i < 32 * wordsFor (reach (empty.successes ops)) then some ((lastByte? i (empty.successes ops)).getD 0)
      else none := by
  have hover : IsOverlay (empty.after ops) (empty.successes ops) := isOverlay_empty.after ops
  refine ⟨fun m op => ?_, ?_, fun i => ?_⟩
  · split_ifs with hlt
    · rw [m.attempt_of_lt hlt]; exact ⟨rfl, .inr rfl⟩
    · obtain ⟨m', -, hmove⟩ := m.attempt_of_le (Nat.le_of_not_lt hlt)
      rw [hmove]; exact ⟨rfl, .inl rfl⟩
  · rw [hover.whole.byteLength_toNat, hover.size]
  · rw [← hover.size, ← hover.byte]
    split_ifs with hlt
    · simp [byte, hlt]
    · exact Array.getElem?_eq_none (Nat.le_of_not_lt hlt)

/-- a word across a word boundary, an extension that is refused, and a byte over the end of the word -/
example : (empty.after [.storeWord 31 0x0102, .extend 0xFFFFFFFFFFFFFFFF, .storeByte 62 9]).bytes.toList.drop 60 =
    [0, 1, 9, 0] := by
  decide +kernel

end GasMachine.Memory
