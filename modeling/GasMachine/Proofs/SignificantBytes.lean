import Mathlib.Tactic
import GasMachine.Proofs.Power
import GasMachine.Proofs.WordRoundTrip
/-
The size of a word in bytes, measured in bits and in bytes.

The charge of an exponentiation counts the bits of its exponent, and rounds up to bytes (`byteLength`). A reader of bytes
drops the zeros in front and keeps what is left (`significant`). The two measures are one number: both are the least `k`
with the word below 256^k, the first by what a bit is worth, the second because the first byte that is kept is not zero.

- `length_significant`: of bytes that are read as a word, as many are kept as the word is long, whatever stood in front;
- `toBytes_eq_zeros_append`: of the 32 bytes of a word only zeros are dropped, and what is kept is read as the word again.
-/
namespace GasMachine

/-- bytes without the zeros in front -/
def significant (bs : List UInt8) : List UInt8 := bs.dropWhile (· == 0)

namespace Word

variable {w : Word} {bs : List UInt8}

/-! ## Bits -/

/-- the bit length is the least number of bits that hold the word -/
theorem isLeast_bitLength (w : Word) : IsLeast {n | w.toNat < 2 ^ n} w.bitLength :=
  ⟨(w.bitLength_le_iff _).1 le_rfl, fun n hn => (w.bitLength_le_iff n).2 hn⟩

/-- the byte length is the bit length over 8, rounded up -/
theorem isLeast_byteLength_bits (w : Word) : IsLeast {k | w.bitLength ≤ 8 * k} w.byteLength := by
  have hup : w.byteLength = (w.bitLength + 7) / 8 := rfl
  constructor
  · change w.bitLength ≤ 8 * w.byteLength
    omega
  · intro k hk
    have hk : w.bitLength ≤ 8 * k := hk
    omega

/-- a larger word is no shorter -/
theorem byteLength_mono {v w : Word} (h : v.toNat ≤ w.toNat) : v.byteLength ≤ w.byteLength := by
  rw [byteLength_le_iff]
  exact h.trans_lt ((byteLength_le_iff w _).1 le_rfl)

/-! ## Bytes -/

/-- bytes are read as a word if and only if they have its value -/
theorem ofBytes_eq_ok_iff : ofBytes bs = .ok w ↔ bigEndian bs = w.toNat := by
  constructor
  · intro h
    rcases Nat.lt_or_ge (bigEndian bs) (2 ^ 256) with hlt | hge
    · rw [ofBytes_of_lt hlt] at h
      cases h
      rw [BitVec.toNat_ofNat, Nat.mod_eq_of_lt hlt]
    · rw [ofBytes_of_le hge] at h
      cases h
  · intro h
    rw [ofBytes_of_lt (by rw [h]; exact w.isLt), h, BitVec.ofNat_toNat, BitVec.setWidth_eq]

/-- **What is kept of bytes** is as long as the word they are read as: it fits into as many bytes as the word does, for
every number of bytes. -/
theorem length_significant (h : ofBytes bs = .ok w) : (significant bs).length = w.byteLength := by
  -- two numbers are the same if they are at most the same numbers
  refine eq_of_forall_ge_iff fun k => ?_
  rw [significant, significant_le_iff, ofBytes_eq_ok_iff.1 h, byteLength_le_iff]

/-- what is dropped are zeros, and nothing else is -/
theorem eq_zeros_append_significant (bs : List UInt8) :
    bs = List.replicate (bs.length - (significant bs).length) 0 ++ significant bs := by
  have hsplit : bs.takeWhile (· == 0) ++ significant bs = bs := List.takeWhile_append_dropWhile
  have hlen : (bs.takeWhile (· == 0)).length = bs.length - (significant bs).length := by
    have hsum := congrArg List.length hsplit
    rw [List.length_append] at hsum
    omega
  have hzeros : bs.takeWhile (· == 0) = List.replicate (bs.takeWhile (· == 0)).length 0 := by
    refine List.eq_replicate_of_mem fun b hb => ?_
    simpa using List.all_eq_true.1 List.all_takeWhile b hb
  rw [← hlen, ← hzeros, hsplit]

theorem toBytes_eq_zeros_append (w : Word) :
    w.toBytes = List.replicate (32 - w.byteLength) 0 ++ significant w.toBytes := by
  have h := eq_zeros_append_significant w.toBytes
  rwa [length_significant w.ofBytes_toBytes, w.toBytes_length] at h

/-- what is kept is read as the same word -/
theorem ofBytes_significant (h : ofBytes bs = .ok w) : ofBytes (significant bs) = .ok w := by
  rw [ofBytes_eq_ok_iff, significant, bigEndian_dropWhile]
  exact ofBytes_eq_ok_iff.1 h

/-- **The size of a word in bytes.** The byte length of a word is its bit length over 8, rounded up, where the bit length
is the least number of bits that hold it. It is the least number of bytes that hold it, at most 32, and no smaller for a
larger word. Of the 32 bytes of the word, as many are left when the zeros in front are dropped, and so they are of any
bytes that are read as the word, which are read as it without those zeros too. -/
theorem byteLength_is_size_in_bytes :
    (∀ w : Word,
      IsLeast {n | w.toNat < 2 ^ n} w.bitLength ∧ IsLeast {k | w.bitLength ≤ 8 * k} w.byteLength ∧
      IsLeast {k | w.toNat < 256 ^ k} w.byteLength ∧ w.byteLength ≤ 32 ∧
      (significant w.toBytes).length = w.byteLength ∧
      w.toBytes = List.replicate (32 - w.byteLength) 0 ++ significant w.toBytes ∧
      ∀ bs, ofBytes bs = .ok w → (significant bs).length = w.byteLength ∧ ofBytes (significant bs) = .ok w) ∧
    ∀ v w : Word, v.toNat ≤ w.toNat → v.byteLength ≤ w.byteLength := by
  constructor
  · intro w
    refine ⟨w.isLeast_bitLength, w.isLeast_byteLength_bits, w.isLeast_byteLength, w.byteLength_le,
      length_significant w.ofBytes_toBytes, w.toBytes_eq_zeros_append, ?_⟩
    intro bs h
    exact ⟨length_significant h, ofBytes_significant h⟩
  · intro v w h
    exact byteLength_mono h

/-- the least word of two bytes, read from forty, and the greatest of one byte below it -/
theorem size_of_padded_word :
    let bs : List UInt8 := List.replicate 38 0 ++ [1, 0]
    ofBytes bs = .ok 0x100 ∧ (significant bs).length = byteLength 0x100 ∧ byteLength 0xff ≤ byteLength 0x100 := by
  intro bs
  have h : ofBytes bs = .ok 0x100 := by decide
  have hlen := ((byteLength_is_size_in_bytes.1 0x100).2.2.2.2.2.2 bs h).1
  exact ⟨h, hlen, byteLength_is_size_in_bytes.2 0xff 0x100 (by decide)⟩

end Word

end GasMachine
