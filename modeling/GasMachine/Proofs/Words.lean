import Mathlib.Tactic
import GasMachine.Word
/-
What the operations on machine words compute, over the naturals and the integers.

- `byteLength_le_iff`: the byte length of a word is the least `k` with the word below 256^k;
- `exp_after`: what square and multiply holds after some bits of the exponent, and `toNat_exp`: after all 256 of them
  that is the power modulo 2^256;
- `toNat_sdiv`: the quotient is the one of the two's complement readings, rounded towards zero, modulo 2^256;
- `ofBytes_of_lt`, `ofBytes_of_le`: bytes are read as their big-endian value if a word holds it, and refused if not,
  whatever their leading zeros;
- `toBytes_eq`: a word is written as its 32 digits to the base 256, most significant first;
- `bigEndian_toBytes`: what is written for a word has its value, and `toBytes_bigEndian`: what is written for the value
  of up to 32 bytes is these bytes, behind as many zeros as there is room for.
-/
namespace GasMachine

/-! ## Big-endian values -/

theorem bigEndian_append (bs cs : List UInt8) :
    bigEndian (bs ++ cs) = bigEndian bs * 256 ^ cs.length + bigEndian cs := by
  have fold (n : ℕ) : cs.foldl (fun n b => 256 * n + b.toNat) n =
      n * 256 ^ cs.length + cs.foldl (fun n b => 256 * n + b.toNat) 0 := by
    induction cs generalizing n with
    | nil => simp
    | cons c cs ih =>
      rw [List.foldl_cons, List.foldl_cons, ih, ih (256 * 0 + c.toNat), List.length_cons, pow_succ]
      ring
  unfold bigEndian
  rw [List.foldl_append, fold]

theorem bigEndian_cons (b : UInt8) (bs : List UInt8) :
    bigEndian (b :: bs) = b.toNat * 256 ^ bs.length + bigEndian bs := by
  have hb : bigEndian [b] = b.toNat := by simp [bigEndian]
  have h := bigEndian_append [b] bs
  rw [hb] at h
  exact h

theorem bigEndian_lt (bs : List UInt8) : bigEndian bs < 256 ^ bs.length := by
  induction bs with
  | nil => simp [bigEndian]
  | cons b bs ih =>
    have hb := UInt8.toNat_lt b
    rw [bigEndian_cons, List.length_cons, pow_succ]
    nlinarith

/-- the big-endian value is the one of the digits to the base 256, last byte first -/
theorem bigEndian_eq_ofDigits (bs : List UInt8) : bigEndian bs = Nat.ofDigits 256 (bs.reverse.map UInt8.toNat) := by
  induction bs with
  | nil => rfl
  | cons b bs ih =>
    rw [bigEndian_cons, ih, List.reverse_cons, List.map_append, Nat.ofDigits_append]
    simp [Nat.ofDigits_cons]
    ring

/-- bytes of one length are told apart by their value -/
theorem bigEndian_injective {bs cs : List UInt8} (hlen : bs.length = cs.length) (h : bigEndian bs = bigEndian cs) :
    bs = cs := by
  have hlt (ds : List UInt8) : ∀ n ∈ ds.reverse.map UInt8.toNat, n < 256 := by
    intro n hn
    obtain ⟨b, -, rfl⟩ := List.mem_map.1 hn
    exact b.toNat_lt
  rw [bigEndian_eq_ofDigits, bigEndian_eq_ofDigits] at h
  have hdigits := Nat.ofDigits_inj_of_len_eq (by norm_num) (by simpa using hlen) (hlt bs) (hlt cs) h
  exact List.reverse_injective (List.map_injective_iff.2 (fun _ _ => UInt8.toNat_inj.1) hdigits)

theorem bigEndian_zeros_append (n : ℕ) (bs : List UInt8) : bigEndian (List.replicate n 0 ++ bs) = bigEndian bs := by
  induction n with
  | zero => rfl
  | succ n ih => simpa [List.replicate_succ, bigEndian_cons] using ih

/-- leading zero bytes carry no value -/
theorem bigEndian_dropWhile (bs : List UInt8) : bigEndian (bs.dropWhile (· == 0)) = bigEndian bs := by
  induction bs with
  | nil => rfl
  | cons b bs ih =>
    rw [List.dropWhile_cons]
    split_ifs with hb
    · rw [ih, bigEndian_cons, beq_iff_eq.1 hb]; simp
    · rfl

/-- the bytes after the leading zeros are as many as the value needs -/
theorem significant_le_iff (bs : List UInt8) (k : ℕ) :
    (bs.dropWhile (· == 0)).length ≤ k ↔ bigEndian bs < 256 ^ k := by
  have hhead := List.head?_dropWhile_not (· == 0) bs
  rw [← bigEndian_dropWhile]
  constructor
  · intro hle
    exact (bigEndian_lt _).trans_le (Nat.pow_le_pow_right (by norm_num) hle)
  · intro hlt
    by_contra hgt
    cases hs : bs.dropWhile (· == 0) with
    | nil => simp [hs] at hgt
    | cons b cs =>
      -- the first byte left is not zero, so the value is at least its place's
      rw [hs] at hhead hlt hgt
      have hb : b ≠ 0 := by simpa using hhead
      have hpos : 0 < b.toNat := Nat.pos_of_ne_zero fun h0 => hb (UInt8.toNat_inj.1 (h0.trans rfl))
      rw [bigEndian_cons] at hlt
      refine absurd hlt (Nat.not_lt.2 ?_)
      calc 256 ^ k ≤ 256 ^ cs.length := Nat.pow_le_pow_right (by norm_num) (by simpa using hgt)
        _ ≤ b.toNat * 256 ^ cs.length := Nat.le_mul_of_pos_left _ hpos
        _ ≤ b.toNat * 256 ^ cs.length + bigEndian cs := Nat.le_add_right _ _

/-- the `n` low digits of a number, most significant first, have the value of its remainder -/
theorem bigEndian_digits (x n : ℕ) :
    bigEndian ((List.range n).map fun i => UInt8.ofNat (x / 256 ^ (n - 1 - i))) = x % 256 ^ n := by
  induction n with
  | zero => simp [bigEndian, Nat.mod_one]
  | succ n ih =>
    have htail : (fun i => UInt8.ofNat (x / 256 ^ (n + 1 - 1 - i))) ∘ Nat.succ =
        fun i => UInt8.ofNat (x / 256 ^ (n - 1 - i)) := by
      funext i
      simp only [Function.comp_apply]
      congr 3
      omega
    rw [List.range_succ_eq_map, List.map_cons, List.map_map, htail, bigEndian_cons, ih, List.length_map,
      List.length_range, Nat.mod_pow_succ]
    simp
    ring

namespace Word

/-! ## Lengths -/

theorem bitLength_le_iff (w : Word) (n : ℕ) : w.bitLength ≤ n ↔ w.toNat < 2 ^ n := by
  unfold bitLength
  split_ifs with h
  · simp [h]
  · rw [Nat.succ_le_iff, Nat.log2_lt h]

/-- the byte length is the least number of bytes that hold the word -/
theorem byteLength_le_iff (w : Word) (k : ℕ) : w.byteLength ≤ k ↔ w.toNat < 256 ^ k := by
  have hbits : w.byteLength ≤ k ↔ w.bitLength ≤ 8 * k := by unfold byteLength; omega
  rw [hbits, bitLength_le_iff, pow_mul]; norm_num

theorem byteLength_le (w : Word) : w.byteLength ≤ 32 := (byteLength_le_iff w 32).2 w.isLt

/-! ## Powers and quotients -/

/-- one bit of the exponent: the base is squared, and the accumulator multiplied by it if the bit is set -/
theorem expBits_bit (a e n m : ℕ) :
    expBits (m + 1) (.ofNat 256 (a ^ 2 ^ n)) (e / 2 ^ n) (.ofNat 256 (a ^ (e % 2 ^ n))) =
      expBits m (.ofNat 256 (a ^ 2 ^ (n + 1))) (e / 2 ^ (n + 1)) (.ofNat 256 (a ^ (e % 2 ^ (n + 1)))) := by
  have hbase : (BitVec.ofNat 256 (a ^ 2 ^ n) : Word) * .ofNat 256 (a ^ 2 ^ n) = .ofNat 256 (a ^ 2 ^ (n + 1)) := by
    rw [← BitVec.ofNat_mul, ← pow_add, ← two_mul, ← pow_succ']
  have hrest : e / 2 ^ n / 2 = e / 2 ^ (n + 1) := by rw [Nat.div_div_eq_div_mul, ← pow_succ]
  have hbits : e % 2 ^ (n + 1) = e % 2 ^ n + 2 ^ n * (e / 2 ^ n % 2) := Nat.mod_pow_succ
  rw [expBits, hbase, hrest]
  congr 1
  split_ifs with hset
  · rw [hbits, hset, mul_one, pow_add, BitVec.ofNat_mul]
  · have hclear : e / 2 ^ n % 2 = 0 := by omega
    rw [hbits, hclear, mul_zero, add_zero]

/-- **Square and multiply.** After `n` bits of the exponent the base stands at a^(2^n), the exponent at e / 2^n, and the
accumulator at a^(e mod 2^n). -/
theorem exp_after (a e : Word) {n : ℕ} (h : n ≤ 256) :
    exp a e = expBits (256 - n) (.ofNat 256 (a.toNat ^ 2 ^ n)) (e.toNat / 2 ^ n)
      (.ofNat 256 (a.toNat ^ (e.toNat % 2 ^ n))) := by
  induction n with
  | zero => simp [exp, Nat.mod_one]
  | succ n ih =>
    have hleft : 256 - n = 256 - (n + 1) + 1 := by omega
    rw [ih (by omega), hleft, expBits_bit]

/-- after all 256 bits nothing is left of the exponent, and the accumulator is the power -/
theorem exp_eq (a e : Word) : exp a e = .ofNat 256 (a.toNat ^ e.toNat) := by
  have hend := exp_after a e (le_refl 256)
  rw [Nat.mod_eq_of_lt e.isLt] at hend
  exact hend

theorem toNat_exp (a e : Word) : (exp a e).toNat = a.toNat ^ e.toNat % 2 ^ 256 := by
  rw [exp_eq, BitVec.toNat_ofNat]

/-- the two's complement reading -/
theorem toInt_eq (w : Word) : w.toInt = if w.toNat < 2 ^ 255 then (w.toNat : ℤ) else w.toNat - 2 ^ 256 := by
  rw [BitVec.toInt_eq_toNat_cond]
  split_ifs <;> first | rfl | omega

/-- the two's complement quotient, rounded towards zero; zero for a zero divisor, whose quotient is zero too -/
theorem toNat_sdiv (a b : Word) : (sdiv a b).toNat = (a.toInt.tdiv b.toInt % 2 ^ 256).toNat := by
  unfold sdiv
  split_ifs with hb
  · subst hb; simp
  · rw [← BitVec.ofInt_toInt (x := BitVec.sdiv a b), BitVec.toNat_ofInt, BitVec.toInt_sdiv, Int.bmod_emod]
    norm_num

/-! ## Bytes -/

/-- bytes whose value a word holds are read as that value -/
theorem ofBytes_of_lt {bs : List UInt8} (h : bigEndian bs < 2 ^ 256) :
    ofBytes bs = .ok (BitVec.ofNat 256 (bigEndian bs)) := by
  have hlen : (bs.dropWhile (· == 0)).length ≤ 32 := (significant_le_iff bs 32).2 (by norm_num at h ⊢; exact h)
  simp only [ofBytes, hlen, if_true, bigEndian_dropWhile]

/-- and bytes of a larger value are refused -/
theorem ofBytes_of_le {bs : List UInt8} (h : 2 ^ 256 ≤ bigEndian bs) : ofBytes bs = .error .wordOverflow := by
  have hlen : ¬ (bs.dropWhile (· == 0)).length ≤ 32 := by
    rw [significant_le_iff]
    norm_num at h ⊢
    exact h
  simp only [ofBytes, hlen, if_false]

theorem bigEndian_lt_of_length {bs : List UInt8} (h : bs.length ≤ 32) : bigEndian bs < 2 ^ 256 := by
  have hpow : 256 ^ bs.length ≤ 256 ^ 32 := Nat.pow_le_pow_right (by norm_num) h
  exact (bigEndian_lt bs).trans_le hpow

theorem toBytes_eq (w : Word) : w.toBytes = (List.range 32).map fun i => UInt8.ofNat (w.toNat / 256 ^ (31 - i)) := by
  unfold toBytes
  refine List.map_congr_left fun i _ => ?_
  rw [Nat.shiftRight_eq_div_pow, pow_mul]
  rfl

theorem toBytes_length (w : Word) : w.toBytes.length = 32 := by simp [toBytes]

theorem bigEndian_toBytes (w : Word) : bigEndian w.toBytes = w.toNat := by
  rw [w.toBytes_eq, bigEndian_digits w.toNat 32]
  exact Nat.mod_eq_of_lt w.isLt

/-- what is written for the value of up to 32 bytes is these bytes, after zeros -/
theorem toBytes_bigEndian {bs : List UInt8} (h : bs.length ≤ 32) :
    toBytes (BitVec.ofNat 256 (bigEndian bs)) = List.replicate (32 - bs.length) 0 ++ bs := by
  apply bigEndian_injective
  · rw [toBytes_length, List.length_append, List.length_replicate]
    omega
  · rw [bigEndian_toBytes, BitVec.toNat_ofNat, Nat.mod_eq_of_lt (bigEndian_lt_of_length h), bigEndian_zeros_append]

end Word

end GasMachine
