import Mathlib.Tactic
import GasMachine.Text.Hex
/-
Hexadecimal digits, two to a byte.

The digits are ASCII, so that in a text of digits bytes and characters are the same. An even number of them is read as
half as many bytes (`pairs_getElem?`), and encoding these gives the digits back in lower case (`encode_pairs`). Hence a
text whose lower case is an encoding reads as what is encoded, whatever its own case (`decodeDigits_of_toLower`). A text
is refused for an odd number of bytes before its characters are looked at, and then for the first that is no digit.
-/
namespace GasMachine.Text.Hex

/-! ## Digits -/

/-- the digits of lower case, by value -/
def lowerDigits : List Char := ['0', '1', '2', '3', '4', '5', '6', '7', '8', '9', 'a', 'b', 'c', 'd', 'e', 'f']

/-- the digits, of either case -/
def digits : List Char := lowerDigits ++ ['A', 'B', 'C', 'D', 'E', 'F']

/-- the value of a digit, by its place among those of lower case -/
def value (c : Char) : ℕ := lowerDigits.idxOf c.toLower

theorem toNat_of_mem_digits {c : Char} (h : c ∈ digits) : c.toNat < 128 := by
  have table : digits.all (fun c => decide (c.toNat < 128)) = true := by decide
  simpa using List.all_eq_true.1 table c h

/-- what holds of every ASCII character, and of every other one, holds -/
theorem char_cases (P : Char → Prop) (hascii : ∀ n < 128, P (Char.ofNat n)) (hother : ∀ c, 128 ≤ c.toNat → P c)
    (c : Char) : P c := by
  rcases Nat.lt_or_ge c.toNat 128 with hlt | hge
  · rw [← Char.ofNat_toNat c]
    exact hascii c.toNat hlt
  · exact hother c hge

/-- the values that are read are those of the digits -/
theorem digitValue?_eq (c : Char) : digitValue? c = if c ∈ digits then some (value c) else none := by
  refine char_cases (fun c => digitValue? c = if c ∈ digits then some (value c) else none) (by decide +kernel) ?_ c
  intro c hc
  have habove (d : Char) (hd : d.toNat < 128) : ¬ c ≤ d := by
    intro hle
    have hnat : c.toNat ≤ d.toNat := hle
    omega
  have hnot : c ∉ digits := fun hmem => absurd (toNat_of_mem_digits hmem) (by omega)
  rw [if_neg hnot, digitValue?, if_neg (fun h => habove '9' (by decide) h.2),
    if_neg (fun h => habove 'f' (by decide) h.2), if_neg (fun h => habove 'F' (by decide) h.2)]

theorem digitValue?_of_mem {c : Char} (h : c ∈ digits) : digitValue? c = some (value c) := by
  rw [digitValue?_eq, if_pos h]

theorem isNone_digitValue? (c : Char) : (digitValue? c).isNone = true ↔ c ∉ digits := by
  rw [digitValue?_eq]
  split_ifs with h <;> simp [h]

/-- a digit has one byte, and is the digit of its value up to case -/
theorem digit_facts {c : Char} (h : c ∈ digits) :
    c.utf8Size = 1 ∧ value c < 16 ∧ digit (value c) = c.toLower := by
  have table : digits.all (fun c => decide (c.utf8Size = 1 ∧ value c < 16 ∧ digit (value c) = c.toLower)) = true := by
    decide
  simpa using List.all_eq_true.1 table c h

/-- each value has a digit, which is one of lower case -/
theorem digit_value : ∀ n < 16, digit n ∈ digits ∧ value (digit n) = n ∧ (digit n).toLower = digit n ∧
    (digit n).toUpper.toLower = digit n := by decide

/-- a character is a digit if it is one in lower case -/
theorem mem_digits_of_toLower (c : Char) : c.toLower ∈ digits → c ∈ digits := by
  refine char_cases (fun c => c.toLower ∈ digits → c ∈ digits) (by decide +kernel) ?_ c
  intro c hc hmem
  have hsame : c.toLower = c := by
    refine dif_neg fun hupper => ?_
    have hle : c.toNat ≤ 90 := hupper.2
    omega
  rwa [hsame] at hmem

/-! ## Pairs of digits -/

variable {t : List Char} {bs : List UInt8}

/-- the number of bytes is that of the text's UTF-8 form -/
theorem utf8Length_eq (t : List Char) : utf8Length t = (String.ofList t).utf8ByteSize := by
  induction t with
  | nil => rfl
  | cons c t ih =>
    rw [String.ofList_cons, String.utf8ByteSize_append, ← ih]
    simp [utf8Length]

/-- digits have one byte each -/
theorem utf8Length_of_digits (h : ∀ c ∈ t, c ∈ digits) : utf8Length t = t.length := by
  induction t with
  | nil => rfl
  | cons c t ih =>
    have hsize := (digit_facts (h c (by simp))).1
    have htail := ih fun d hd => h d (by simp [hd])
    have hcons : utf8Length (c :: t) = c.utf8Size + utf8Length t := rfl
    rw [hcons, hsize, htail, List.length_cons, Nat.add_comm]

/-- two digits are one byte -/
theorem toNat_pair {a b : Char} (ha : a ∈ digits) (hb : b ∈ digits) :
    (16 * (digitValue? a).getD 0 + (digitValue? b).getD 0).toUInt8.toNat = 16 * value a + value b := by
  have hva := (digit_facts ha).2.1
  have hvb := (digit_facts hb).2.1
  rw [digitValue?_of_mem ha, digitValue?_of_mem hb]
  simp
  omega

/-- the `i`-th byte is that of the `i`-th two digits -/
theorem pairs_getElem? (h : ∀ c ∈ t, c ∈ digits) {i : ℕ} (hi : 2 * i + 1 < t.length) :
    ∃ a b, t[2 * i]? = some a ∧ t[2 * i + 1]? = some b ∧
      (pairs t)[i]?.map UInt8.toNat = some (16 * value a + value b) := by
  fun_induction pairs t generalizing i with
  | case1 a b rest ih =>
    cases i with
    | zero => exact ⟨a, b, rfl, rfl, congrArg some (toNat_pair (h a (by simp)) (h b (by simp)))⟩
    | succ i =>
      have hdouble : 2 * (i + 1) = 2 * i + 1 + 1 := by omega
      simp only [hdouble, List.getElem?_cons_succ]
      refine ih (fun c hc => h c (by simp [hc])) ?_
      simp only [List.length_cons] at hi
      omega
  | case2 t hshort =>
    match t, hshort with
    | [], _ => simp at hi
    | [_], _ => simp at hi
    | a :: b :: rest, hshort => exact absurd rfl (hshort a b rest)

/-- encoding what an even number of digits denotes gives the digits in lower case -/
theorem encode_pairs (h : ∀ c ∈ t, c ∈ digits) (heven : t.length % 2 = 0) : encode (pairs t) = t.map Char.toLower := by
  fun_induction pairs t with
  | case1 a b rest ih =>
    have hpair := toNat_pair (h a (by simp)) (h b (by simp))
    obtain ⟨-, -, ha⟩ := digit_facts (h a (by simp))
    obtain ⟨-, hvb, hb⟩ := digit_facts (h b (by simp))
    have hrest := ih (fun c hc => h c (by simp [hc])) (by simp only [List.length_cons] at heven; omega)
    have hhigh : (16 * value a + value b) / 16 = value a := by omega
    have hlow : (16 * value a + value b) % 16 = value b := by omega
    simp only [encode] at hrest
    simp only [encode, List.flatMap_cons, hpair, hhigh, hlow, ha, hb, hrest, List.map_cons, List.cons_append,
      List.nil_append]
  | case2 t hshort =>
    match t, hshort with
    | [], _ => rfl
    | [_], _ => simp at heven
    | a :: b :: rest, hshort => exact absurd rfl (hshort a b rest)

theorem encode_cons (b : UInt8) (bs : List UInt8) :
    encode (b :: bs) = digit (b.toNat / 16) :: digit (b.toNat % 16) :: encode bs := rfl

theorem encode_length (bs : List UInt8) : (encode bs).length = 2 * bs.length := by
  induction bs with
  | nil => rfl
  | cons b bs ih => rw [encode_cons, List.length_cons, List.length_cons, ih, List.length_cons]; omega

/-- an encoding consists of the digits of values -/
theorem mem_encode {c : Char} (h : c ∈ encode bs) : ∃ n < 16, c = digit n := by
  obtain ⟨b, -, hc⟩ := List.mem_flatMap.1 h
  have hlt := b.toNat_lt
  rcases List.mem_pair.1 hc with rfl | rfl
  · exact ⟨b.toNat / 16, by omega, rfl⟩
  · exact ⟨b.toNat % 16, by omega, rfl⟩

/-- two byte strings with one encoding are the same -/
theorem encode_injective : Function.Injective encode := by
  intro bs
  induction bs with
  | nil =>
    intro cs h
    cases cs with
    | nil => rfl
    | cons c cs => cases h
  | cons b bs ih =>
    intro cs h
    cases cs with
    | nil => cases h
    | cons c cs =>
      rw [encode_cons, encode_cons] at h
      injection h with hhigh h
      injection h with hlow h
      have hb := b.toNat_lt
      have hc := c.toNat_lt
      have hhigh := congrArg value hhigh
      have hlow := congrArg value hlow
      rw [(digit_value _ (by omega)).2.1, (digit_value _ (by omega)).2.1] at hhigh hlow
      have hbyte : b = c := UInt8.toNat_inj.1 (by omega)
      rw [hbyte, ih h]

/-! ## Reading -/

/-- an even number of digits is read -/
theorem decodeDigits_of_digits (h : ∀ c ∈ t, c ∈ digits) (heven : utf8Length t % 2 = 0) :
    decodeDigits t = .ok (pairs t) := by
  have hnone : t.find? (fun c => (digitValue? c).isNone) = none := by
    rw [List.find?_eq_none]
    intro c hc
    rw [isNone_digitValue?]
    exact not_not.2 (h c hc)
  rw [decodeDigits, if_neg (not_not.2 heven), hnone]

/-- an odd number of bytes is refused, whatever they are -/
theorem decodeDigits_of_odd (hodd : utf8Length t % 2 = 1) : decodeDigits t = .error (.oddLength (utf8Length t)) := by
  rw [decodeDigits, if_pos (by omega)]

/-- the first character that is no digit is refused -/
theorem decodeDigits_of_unexpected {before after : List Char} {c : Char} (heven : utf8Length t % 2 = 0)
    (ht : t = before ++ c :: after) (hbefore : ∀ d ∈ before, d ∈ digits) (hc : c ∉ digits) :
    decodeDigits t = .error (.unexpected c) := by
  have hfound : t.find? (fun c => (digitValue? c).isNone) = some c := by
    rw [List.find?_eq_some_iff_append]
    refine ⟨(isNone_digitValue? c).2 hc, before, after, ht, ?_⟩
    intro d hd
    rw [digitValue?_of_mem (hbefore d hd)]
    rfl
  rw [decodeDigits, if_neg (not_not.2 heven), hfound]

/-- a text that is not all digits has a first character that is none -/
theorem exists_unexpected (h : ¬ ∀ c ∈ t, c ∈ digits) :
    ∃ before c after, t = before ++ c :: after ∧ (∀ d ∈ before, d ∈ digits) ∧ c ∉ digits := by
  induction t with
  | nil => exact absurd (by simp) h
  | cons c t ih =>
    by_cases hc : c ∈ digits
    · obtain ⟨before, d, after, rfl, hbefore, hd⟩ := ih (by simpa [hc] using h)
      exact ⟨c :: before, d, after, rfl, by simpa [hc] using hbefore, hd⟩
    · exact ⟨[], c, t, rfl, by simp, hc⟩

/-- **What is read**: an even number of bytes, all of them digits. -/
theorem decodeDigits_eq_ok_iff :
    decodeDigits t = .ok bs ↔ utf8Length t % 2 = 0 ∧ (∀ c ∈ t, c ∈ digits) ∧ bs = pairs t := by
  constructor
  · intro h
    rcases Nat.mod_two_eq_zero_or_one (utf8Length t) with heven | hodd
    · by_cases hall : ∀ c ∈ t, c ∈ digits
      · rw [decodeDigits_of_digits hall heven] at h
        exact ⟨heven, hall, (Except.ok.inj h).symm⟩
      · obtain ⟨before, c, after, ht, hbefore, hc⟩ := exists_unexpected hall
        rw [decodeDigits_of_unexpected heven ht hbefore hc] at h
        cases h
    · rw [decodeDigits_of_odd hodd] at h
      cases h
  · rintro ⟨heven, hall, rfl⟩
    exact decodeDigits_of_digits hall heven

/-- an encoding is read as what it encodes, whatever the case of its digits -/
theorem decodeDigits_of_toLower (h : t.map Char.toLower = encode bs) :
    (∀ c ∈ t, c ∈ digits) ∧ decodeDigits t = .ok bs := by
  have hall : ∀ c ∈ t, c ∈ digits := by
    intro c hc
    have hlower : c.toLower ∈ encode bs := by rw [← h]; exact List.mem_map_of_mem hc
    obtain ⟨n, hn, hdigit⟩ := mem_encode hlower
    refine mem_digits_of_toLower c ?_
    rw [hdigit]
    exact (digit_value n hn).1
  have hlen : t.length = 2 * bs.length := by rw [← encode_length, ← h, List.length_map]
  refine ⟨hall, decodeDigits_eq_ok_iff.2 ⟨by rw [utf8Length_of_digits hall]; omega, hall, ?_⟩⟩
  refine encode_injective ?_
  rw [encode_pairs hall (by omega), h]

end GasMachine.Text.Hex
