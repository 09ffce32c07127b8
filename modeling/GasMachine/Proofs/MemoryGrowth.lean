import Mathlib.Tactic
import GasMachine.Proofs.Counts
/-
What a write does to the memory.

A memory is whole if its size is a number of whole words within the bound; every memory a run meets is. On a whole
memory, `write_eq` and `write_error` say what a write does: one that ends beyond the bound is refused, any other pads
the memory with zeros to the words that its end needs, and then overwrites. `overwrite_toList` gives the bytes as a
list cut around the ones written.
-/
namespace GasMachine.Memory

/-- the size is a number of whole words, within the bound -/
structure Whole (m : Memory) : Prop where
  aligned : m.bytes.size % 32 = 0
  bounded : m.bytes.size ≤ maxSize.toNat

theorem whole_empty : Whole empty := ⟨rfl, Nat.zero_le _⟩

/-- the words of a memory, as a natural -/
def words (m : Memory) : ℕ := m.bytes.size / 32

theorem Whole.size_eq {m : Memory} (h : Whole m) : m.bytes.size = 32 * m.words := by
  have := h.aligned
  unfold words; omega

theorem Whole.words_lt {m : Memory} (h : Whole m) : m.words < 2 ^ 32 := by
  have := h.bounded
  rw [maxSize_toNat] at this
  unfold words; omega

/-- a range ends beyond a whole memory exactly if it needs more words -/
theorem Whole.lt_wordsFor_iff {m : Memory} (h : Whole m) (n : ℕ) : m.words < wordsFor n ↔ m.bytes.size < n := by
  have hle := wordsFor_le_iff (n := n) h.aligned
  have hsize := h.size_eq
  omega

theorem Whole.byteLength_toNat {m : Memory} (h : Whole m) : m.byteLength.toNat = m.bytes.size := by
  have := h.bounded
  rw [maxSize_toNat] at this
  unfold byteLength
  simp; omega

theorem Whole.wordLength_toNat {m : Memory} (h : Whole m) : m.wordLength.toNat = m.words := by
  unfold wordLength
  rw [UInt64.toNat_div, h.byteLength_toNat]; rfl

/-- the cost of a whole memory, as the machine counts it -/
theorem Whole.memoryCost_toNat {m : Memory} (h : Whole m) :
    (Gas.memoryCost m.wordLength).toNat = Gas.price m.words := by
  rw [Gas.memoryCost_toNat _ (by rw [h.wordLength_toNat]; exact h.words_lt), h.wordLength_toNat]

/-! ## Growing and overwriting -/

theorem grow_size (m : Memory) (n : ℕ) : (m.grow n).bytes.size = max m.bytes.size n := by
  simp [grow]; omega

theorem grow_of_le {m : Memory} {n : ℕ} (h : n ≤ m.bytes.size) : m.grow n = m := by
  have : n - m.bytes.size = 0 := by omega
  simp [grow, this]

theorem overwrite_size (m : Memory) (start : ℕ) (bs : List UInt8) :
    (m.overwrite start bs).bytes.size = m.bytes.size := by
  induction bs generalizing m start with
  | nil => rfl
  | cons b bs ih => rw [overwrite, ih]; simp

theorem overwrite_toList (m : Memory) (start : ℕ) (bs : List UInt8) (h : start + bs.length ≤ m.bytes.size) :
    (m.overwrite start bs).bytes.toList =
      m.bytes.toList.take start ++ bs ++ m.bytes.toList.drop (start + bs.length) := by
  induction bs generalizing m start with
  | nil => simp [overwrite]
  | cons b bs ih =>
    simp only [List.length_cons] at h
    have hlen : (m.bytes.toList.take start).length = start := by simp; omega
    -- one byte set splits the list around it, and the rest goes on from the byte after
    have hset : (m.bytes.setIfInBounds start b).toList =
        m.bytes.toList.take start ++ b :: m.bytes.toList.drop (start + 1) := by
      rw [Array.toList_setIfInBounds, List.set_eq_take_append_cons_drop, if_pos (by simp; omega)]
    rw [overwrite, ih _ _ (by simp; omega), hset]
    rw [List.take_append, List.drop_append, hlen, List.take_take, List.drop_take]
    have h1 : start + 1 - start = 1 := by omega
    have h2 : start + 1 + bs.length - start = bs.length + 1 := by omega
    have h3 : start + 1 + bs.length = start + (bs.length + 1) := by omega
    simp only [h1, h2, List.drop_succ_cons, List.drop_drop, List.length_cons]
    simp [h3]

/-! ## Writing -/

theorem extend_eq {m : Memory} (hm : Whole m) {last : UInt64} (h : last.toNat ≤ maxSize.toNat) :
    m.extend last = .ok (m.grow (32 * wordsFor last.toNat)) := by
  obtain ⟨size, hs, hsize⟩ := sizeFor_ok h
  unfold extend
  rw [hs]
  simp only [UInt64.lt_iff_toNat_lt, hm.byteLength_toNat, hsize]
  split_ifs with hlt
  · rfl
  · rw [grow_of_le (by omega)]

/-- on any memory, an extension up to the bound is let through -/
theorem extend_ok (m : Memory) {last : UInt64} (h : last.toNat ≤ maxSize.toNat) : ∃ m', m.extend last = .ok m' := by
  obtain ⟨size, hs, -⟩ := sizeFor_ok h
  exact ⟨if m.byteLength < size then m.grow size.toNat else m, by simp only [extend, hs]⟩

/-- the end of a write within the bound is computed without a wrap -/
theorem writeLast_eq {offset : UInt64} {n : ℕ} (h : offset.toNat + n ≤ maxSize.toNat) :
    ∃ last, Checked.add offset n.toUInt64 = some last ∧ last.toNat = offset.toNat + n := by
  have hmax := maxSize_toNat
  have hlen : n.toUInt64.toNat = n := by simp; omega
  have hsum : offset.toNat + n.toUInt64.toNat < 2 ^ 64 := by omega
  exact ⟨_, Checked.add_eq_some hsum, by rw [Checked.toNat_add_of_lt hsum, hlen]⟩

/-- on any memory, a write within the bound is let through -/
theorem write_ok (m : Memory) {offset : UInt64} {bs : List UInt8} (h : offset.toNat + bs.length ≤ maxSize.toNat) :
    ∃ m', m.write offset bs = .ok m' := by
  obtain ⟨last, hadd, hlast⟩ := writeLast_eq h
  obtain ⟨m', hm'⟩ := m.extend_ok (hlast.trans_le h)
  exact ⟨m'.overwrite offset.toNat bs, by simp only [write, hadd, hm']⟩

/-- a write within the bound pads the memory to the words its end needs, and overwrites -/
theorem write_eq {m : Memory} (hm : Whole m) {offset : UInt64} {bs : List UInt8}
    (h : offset.toNat + bs.length ≤ maxSize.toNat) :
    m.write offset bs = .ok ((m.grow (32 * wordsFor (offset.toNat + bs.length))).overwrite offset.toNat bs) := by
  obtain ⟨last, hadd, hlast⟩ := writeLast_eq h
  simp only [write, hadd, extend_eq hm (hlast.trans_le h), hlast]

/-- a write beyond the bound is refused -/
theorem write_error {m : Memory} {offset : UInt64} {bs : List UInt8} (hbs : bs.length < 2 ^ 64)
    (h : maxSize.toNat < offset.toNat + bs.length) : m.write offset bs = .error .gasOverflow := by
  have hlen : bs.length.toUInt64.toNat = bs.length := by simpa using hbs
  unfold write
  by_cases hsum : offset.toNat + bs.length.toUInt64.toNat < 2 ^ 64
  · have hlast : maxSize.toNat < (offset + bs.length.toUInt64).toNat := by
      rw [Checked.toNat_add_of_lt hsum, hlen]; exact h
    simp [Checked.add_eq_some hsum, extend, sizeFor_error hlast]
  · rw [Checked.add_eq_none.2 (by omega)]

/-- what such a write leaves is whole, with the words there were or the words the write needs -/
theorem overwrite_grow_whole {m : Memory} (hm : Whole m) {last : ℕ} (h : last ≤ maxSize.toNat) {start : ℕ}
    {bs : List UInt8} :
    Whole ((m.grow (32 * wordsFor last)).overwrite start bs) ∧
      ((m.grow (32 * wordsFor last)).overwrite start bs).words = max m.words (wordsFor last) := by
  have hsize : ((m.grow (32 * wordsFor last)).overwrite start bs).bytes.size =
      max m.bytes.size (32 * wordsFor last) := by
    rw [overwrite_size, grow_size]
  have hle : 32 * wordsFor last ≤ maxSize.toNat := (wordsFor_le_iff (by decide)).2 h
  have hb := hm.bounded
  have he := hm.size_eq
  refine ⟨⟨by omega, by omega⟩, ?_⟩
  unfold words at he ⊢
  omega

end GasMachine.Memory
