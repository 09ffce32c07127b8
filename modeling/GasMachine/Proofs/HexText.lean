import Mathlib.Tactic
import GasMachine.Proofs.HexSlices
import GasMachine.Proofs.TrimmedText
/-
Which texts are read as bytes, as which bytes, and which refusal the others meet.

What counts of a text is what is left without the blanks at its ends and without one leading `0x` (`Stripped`,
`Unmarked`). It is read if and only if it has an even number of bytes and consists of digits. Reading and encoding undo
each other, up to the case of the digits.
-/
namespace GasMachine.Text.Hex

/-- `t` is `m` without one leading `0x` -/
def Unmarked (m t : List Char) : Prop := m = '0' :: 'x' :: t ∨ (t = m ∧ ¬ ['0', 'x'] <+: m)

theorem unmarked_dropMark (m : List Char) : Unmarked m (dropMark m) := by
  unfold dropMark
  split
  · exact .inl rfl
  · next hnot =>
    refine .inr ⟨rfl, ?_⟩
    rintro ⟨rest, hrest⟩
    exact hnot rest hrest.symm

theorem Unmarked.dropMark_eq {m t : List Char} (h : Unmarked m t) : dropMark m = t := by
  rcases h with rfl | ⟨rfl, hnot⟩
  · rfl
  · unfold dropMark
    split
    · exact absurd ⟨_, rfl⟩ hnot
    · rfl

/-- a text is read by what is left of it -/
theorem decode_eq_of_stripped {s : String} {m t : List Char} (hm : Stripped s.toList m) (ht : Unmarked m t) :
    decode s = decodeDigits t := by
  rw [decode, hm.trim_eq, ht.dropMark_eq]

/-- no digit is blank, nor the mark -/
theorem not_isBlank {c : Char} (h : c ∈ 'x' :: digits) : isBlank c = false := by
  have table : ('x' :: digits).all (fun c => !isBlank c) = true := by decide
  simpa using List.all_eq_true.1 table c h

/-- a text without blanks is what is left of it among blanks -/
theorem stripped_of_solid {before m after : List Char} (hbefore : ∀ c ∈ before, isBlank c)
    (hafter : ∀ c ∈ after, isBlank c) (hm : ∀ c ∈ m, isBlank c = false) : Stripped (before ++ m ++ after) m :=
  ⟨⟨before, after, rfl, hbefore, hafter⟩, fun c hc => hm c (List.mem_of_mem_head? hc),
    fun c hc => hm c (List.mem_of_getLast? hc)⟩

/-- digits of lower case, each put in either case, are in lower case what they were -/
theorem toLower_of_cases {t ds : List Char} (hds : ∀ d ∈ ds, ∃ n < 16, d = digit n)
    (h : List.Forall₂ (fun c d => c = d ∨ c = d.toUpper) t ds) : t.map Char.toLower = ds := by
  induction h with
  | nil => rfl
  | @cons c d t ds hc _ ih =>
    obtain ⟨n, hn, rfl⟩ := hds d (by simp)
    obtain ⟨-, -, hlower, hupper⟩ := digit_value n hn
    rw [List.map_cons, ih fun d hd => hds d (by simp [hd])]
    rcases hc with rfl | rfl
    · rw [hlower]
    · rw [hupper]

/-- **Hexadecimal text.** Let `t` be what is left of a text. It is read if and only if `t` has an even number of bytes
in UTF-8 and consists of digits; then each two digits are one byte, and encoding the bytes gives `t` in lower case. An
odd number of bytes is refused as such, and otherwise the first character that is no digit is named. Cut at byte
positions, no slice of `t` falls inside a character and none fails to be a number. Hence an encoding, with each digit in
either case, with or without the mark and among any blanks, reads as what was encoded. -/
theorem decode_exact :
    (∀ s : String, ∃ m t, Stripped s.toList m ∧ Unmarked m t ∧
      ((∃ bs, decode s = .ok bs) ↔ (String.ofList t).utf8ByteSize % 2 = 0 ∧ ∀ c ∈ t, c ∈ digits) ∧
      (∀ bs, decode s = .ok bs → 2 * bs.length = (String.ofList t).utf8ByteSize ∧
        (∀ i < bs.length, ∃ a b, t[2 * i]? = some a ∧ t[2 * i + 1]? = some b ∧
          bs[i]?.map UInt8.toNat = some (16 * value a + value b)) ∧
        encode bs = t.map Char.toLower) ∧
      ((String.ofList t).utf8ByteSize % 2 = 1 → decode s = .error (.oddLength (String.ofList t).utf8ByteSize)) ∧
      ((String.ofList t).utf8ByteSize % 2 = 0 → ∀ before c after, t = before ++ c :: after →
        (∀ d ∈ before, d ∈ digits) → c ∉ digits → decode s = .error (.unexpected c)) ∧
      readByPosition t = .ofExcept (decode s)) ∧
    ∀ (bs : List UInt8) (before mark t after : List Char), (∀ c ∈ before, isBlank c) → (∀ c ∈ after, isBlank c) →
      mark = [] ∨ mark = ['0', 'x'] → List.Forall₂ (fun c d => c = d ∨ c = d.toUpper) t (encode bs) →
      decode (String.ofList (before ++ (mark ++ t) ++ after)) = .ok bs := by
  constructor
  · intro s
    have hm := stripped_trim s.toList
    have ht := unmarked_dropMark (trim s.toList)
    generalize trim s.toList = m at hm ht
    generalize dropMark m = t at ht
    refine ⟨m, t, hm, ht, ?_⟩
    rw [decode_eq_of_stripped hm ht, ← utf8Length_eq]
    refine ⟨?_, ?_, decodeDigits_of_odd, ?_, readByPosition_eq t⟩
    · constructor
      · rintro ⟨bs, hbs⟩
        obtain ⟨heven, hall, -⟩ := decodeDigits_eq_ok_iff.1 hbs
        exact ⟨heven, hall⟩
      · rintro ⟨heven, hall⟩
        exact ⟨_, decodeDigits_of_digits hall heven⟩
    · intro bs hbs
      obtain ⟨heven, hall, rfl⟩ := decodeDigits_eq_ok_iff.1 hbs
      rw [utf8Length_of_digits hall] at heven ⊢
      have hencode := encode_pairs hall heven
      have hlen : 2 * (pairs t).length = t.length := by rw [← encode_length, hencode, List.length_map]
      exact ⟨hlen, fun i hi => pairs_getElem? hall (by omega), hencode⟩
    · intro heven before c after hsplit hbefore hc
      exact decodeDigits_of_unexpected heven hsplit hbefore hc
  · intro bs before mark t after hbefore hafter hmark hcases
    obtain ⟨hall, hread⟩ := decodeDigits_of_toLower (toLower_of_cases (fun _ => mem_encode) hcases)
    have hsolid : ∀ c ∈ mark ++ t, isBlank c = false := by
      intro c hc
      refine not_isBlank ?_
      rcases List.mem_append.1 hc with hc | hc
      · rcases hmark with rfl | rfl
        · cases hc
        · rcases List.mem_pair.1 hc with rfl | rfl <;> decide
      · exact List.mem_cons_of_mem _ (hall c hc)
    have hbare : Unmarked (mark ++ t) t := by
      rcases hmark with rfl | rfl
      · refine .inr ⟨rfl, fun hprefix => ?_⟩
        have hx : 'x' ∈ t := hprefix.subset (by simp)
        exact absurd (hall 'x' hx) (by decide)
      · exact .inl rfl
    have hstripped := stripped_of_solid hbefore hafter hsolid
    rw [← hread]
    exact decode_eq_of_stripped (by rw [String.toList_ofList]; exact hstripped) hbare

/-- an encoding of two bytes in mixed case, marked and among blanks, reads as the bytes -/
theorem decode_of_mixed_case : decode " 0x6A7f\n" = .ok [0x6a, 0x7f] := by
  have htext : " 0x6A7f\n" = String.ofList ([' '] ++ (['0', 'x'] ++ ['6', 'A', '7', 'f']) ++ ['\n']) := by decide
  rw [htext]
  refine decode_exact.2 [0x6a, 0x7f] [' '] ['0', 'x'] ['6', 'A', '7', 'f'] ['\n']
    (List.forall_mem_singleton.2 rfl) (List.forall_mem_singleton.2 rfl) (.inr rfl) ?_
  exact .cons (.inl rfl) (.cons (.inr rfl) (.cons (.inl rfl) (.cons (.inl rfl) .nil)))

end GasMachine.Text.Hex
