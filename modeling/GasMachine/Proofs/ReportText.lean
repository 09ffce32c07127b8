import Mathlib.Tactic
import GasMachine.Report
import GasMachine.Proofs.HexPairs
import GasMachine.Proofs.PlainText
/-
The printed report tells the result, and showing it on screen alters nothing.

The text of a report is a few plain lines. On screen it is taken apart into lines, each line is styled by how it begins,
and the lines are joined again. As the lines are plain, they are the ones that were written (`lines_text`), and what the
styles put around them can be told from them (`unstyled_render`).

The text is also unambiguous. Its number of lines tells whether the run succeeded. What stands behind a label that both
texts have is a number in decimal, which denotes one number (`decimal_injective`), or an encoding of bytes, which denotes
these. The sentence of a fault is worded in a way of its own and ends with the opcode, if it is about one
(`Fault.ofMessage?_message`).
-/
namespace GasMachine

open Text

/-! ## Numbers and faults in words -/

theorem decimal_toList (n : ℕ) : (decimal n).toList = Nat.toDigits 10 n := String.toList_ofList

theorem plain_decimal (n : ℕ) : Plain (decimal n).toList := by
  rw [decimal_toList]
  exact .of_isDigit fun c hc => Nat.isDigit_of_mem_toDigits (by decide) (by decide) hc

theorem ofDigitChars_decimal (n : ℕ) : Nat.ofDigitChars 10 (decimal n).toList 0 = n := by
  rw [decimal_toList, Nat.ofDigitChars_toDigits (by decide) (by decide)]

/-- a number is told by its digits -/
theorem decimal_injective : Function.Injective decimal := by
  intro n m h
  rw [← ofDigitChars_decimal n, h, ofDigitChars_decimal]

theorem plain_decimalByte (b : UInt8) : Plain (decimalByte b).toList := by
  unfold decimalByte
  split_ifs
  · rw [String.toList_append]
    exact .append (by decide) (plain_decimal _)
  · exact plain_decimal _

theorem plain_append_decimalByte {words : String} (h : Plain words.toList) (b : UInt8) :
    Plain (words ++ decimalByte b).toList := by
  rw [String.toList_append]
  exact .append h (plain_decimalByte b)

/-- a zero in front adds nothing -/
theorem ofDigitChars_decimalByte (b : UInt8) : Nat.ofDigitChars 10 (decimalByte b).toList 0 = b.toNat := by
  unfold decimalByte
  split_ifs
  · rw [String.toList_append]
    exact ofDigitChars_decimal b.toNat
  · exact ofDigitChars_decimal b.toNat

namespace Fault

theorem message_invalidOpcode (b : UInt8) : (invalidOpcode b).message = "invalid opcode " ++ decimalByte b := rfl

theorem message_truncated (b : UInt8) :
    (truncated b).message = "not enough bytes to read for opcode " ++ decimalByte b := rfl

theorem plain_message (f : Fault) : Plain f.message.toList := by
  cases f with
  | invalidOpcode b => exact plain_append_decimalByte (by decide) b
  | truncated b => exact plain_append_decimalByte (by decide) b
  | _ => decide

/-- the fault that a sentence reports: the eighth character is one that no other kind of fault has there, and what
follows the words is the opcode -/
def ofMessage? (cs : List Char) : Option Fault :=
  match cs[7]? with
  | some 'v' => some stackOverflow
  | some 'n' => some stackUnderflow
  | some 't' => some gasOverflow
  | some 'g' => some outOfGas
  | some ' ' => some (invalidOpcode (Nat.ofDigitChars 10 (cs.drop 15) 0).toUInt8)
  | some 'u' => some (truncated (Nat.ofDigitChars 10 (cs.drop 36) 0).toUInt8)
  | some 'b' => some wordOverflow
  | _ => none

/-- **A sentence tells its fault.** -/
theorem ofMessage?_message (f : Fault) : ofMessage? f.message.toList = some f := by
  cases f with
  | invalidOpcode b =>
    rw [message_invalidOpcode, String.toList_append]
    -- the words are fixed: the eighth of their characters and what is left behind them are found by computation
    change some (invalidOpcode (Nat.ofDigitChars 10 (decimalByte b).toList 0).toUInt8) = _
    rw [ofDigitChars_decimalByte, Nat.toUInt8_eq, UInt8.ofNat_toNat]
  | truncated b =>
    rw [message_truncated, String.toList_append]
    change some (truncated (Nat.ofDigitChars 10 (decimalByte b).toList 0).toUInt8) = _
    rw [ofDigitChars_decimalByte, Nat.toUInt8_eq, UInt8.ofNat_toNat]
  | _ => rfl

theorem message_injective : Function.Injective message := by
  intro f g h
  have hread : some f = some g := by rw [← ofMessage?_message, h, ofMessage?_message]
  exact Option.some_inj.1 hread

end Fault

namespace Text.Hex

theorem plain_toText (bs : Bytes) : Plain (toText bs).toList := by
  have table : ∀ n < 16, 32 ≤ (digit n).toNat := by decide
  intro c hc
  rw [toText, String.toList_ofList] at hc
  obtain ⟨n, hn, rfl⟩ := mem_encode hc
  exact table n hn

/-- bytes are told by their digits -/
theorem toText_injective : Function.Injective toText := by
  intro bs cs h
  exact Array.toList_inj.1 (encode_injective (String.ofList_injective h))

end Text.Hex

namespace Report

variable {r r₁ r₂ : Report} {f : Fault} {label value line : String}

/-! ## Lines -/

theorem plain_labelled (hl : Plain label.toList) (hv : Plain value.toList) : Plain (labelled label value).toList := by
  rw [labelled, String.toList_append, String.toList_append, String.toList_ofList]
  refine .append (.append hl ?_) hv
  intro c hc
  rw [List.eq_of_mem_replicate hc]
  decide

/-- what stands behind a label is told by the line -/
theorem labelled_injective (label : String) : Function.Injective (labelled label) :=
  fun _ _ h => (String.append_right_inj _).1 h

theorem lines_of_success (h : r.fault = none) :
    r.lines = [rule, labelled "Memory Keccak256:" (Hex.toText r.memoryHash),
      labelled "Total Gas Consumed:" (decimal r.gasUsed.toNat), labelled "Gas Refund:" (decimal r.gasRefund.toNat),
      rule] := by
  rw [lines, h]

theorem lines_of_fault (h : r.fault = some f) : r.lines = [rule, "evm error: " ++ f.message, rule] := by
  rw [lines, h]

theorem getLast?_lines (r : Report) : r.lines.getLast? = some rule := by
  cases h : r.fault with
  | none => rw [lines_of_success h]; rfl
  | some f => rw [lines_of_fault h]; rfl

theorem plain_rule : Plain rule.toList := by decide

theorem plain_lines (r : Report) : ∀ l ∈ r.lines, Plain l.toList := by
  cases h : r.fault with
  | none =>
    rw [lines_of_success h]
    simp only [List.forall_mem_cons]
    exact ⟨plain_rule, plain_labelled (by decide) (Hex.plain_toText _), plain_labelled (by decide) (plain_decimal _),
      plain_labelled (by decide) (plain_decimal _), plain_rule, by simp⟩
  | some f =>
    rw [lines_of_fault h]
    simp only [List.forall_mem_cons, String.toList_append]
    exact ⟨plain_rule, .append (by decide) f.plain_message, plain_rule, by simp⟩

/-- **The lines of the text** are those that were written. -/
theorem lines_text (r : Report) : Text.lines r.text.toList = r.lines.map String.toList := by
  have hlast := r.getLast?_lines
  rw [text, String.toList_intercalate]
  refine lines_intercalate ?_ ?_ ?_
  · intro hnil
    rw [List.map_eq_nil_iff.1 hnil] at hlast
    cases hlast
  · rw [List.getLast?_map, hlast]
    decide
  · intro l hl
    obtain ⟨line, hline, rfl⟩ := List.mem_map.1 hl
    exact r.plain_lines line hline

/-! ## On screen -/

theorem render_eq (colours : Bool) (r : Report) :
    r.render colours = "\n".intercalate (r.lines.map (highlight colours)) := by
  have hshown : (fun line => highlight colours (String.ofList line)) ∘ String.toList = highlight colours := by
    funext line
    rw [Function.comp_apply, String.ofList_toList]
  rw [render, lines_text, List.map_map, hshown]

theorem highlight_false (line : String) : highlight false line = line := by
  unfold highlight
  split_ifs <;> rfl

theorem render_false (r : Report) : r.render false = r.text := by
  rw [render_eq, List.map_congr_left fun line _ => highlight_false line, List.map_id', text]

/-- whatever a line is styled as, the line is left when the styles are removed -/
theorem unstyled_highlight (h : Plain line.toList) (rest : List Char) :
    unstyled ((highlight true line).toList ++ rest) = line.toList ++ unstyled rest := by
  unfold highlight
  split_ifs
  · rw [paint_true]
    exact unstyled_enclosed (by decide) h
  · rw [paint_true]
    exact unstyled_enclosed (by decide) h
  · exact unstyled_append h

/-- **Showing a report alters nothing**, styles apart. -/
theorem unstyled_render (r : Report) : unstyled (r.render true).toList = r.text.toList := by
  rw [render_eq]
  exact unstyled_intercalate fun line hline => unstyled_highlight (r.plain_lines line hline)

/-- a line does not begin with a text that begins otherwise -/
theorem startsWith_eq_false {pat : String} {c d : Char} (hline : line.toList.head? = some c)
    (hpat : pat.toList.head? = some d) (hne : c ≠ d) : line.startsWith pat = false := by
  rw [String.startsWith_string_eq_false_iff]
  rintro ⟨rest, hrest⟩
  rw [← hrest, List.head?_append, hpat] at hline
  exact hne (Option.some_inj.1 hline).symm

/-- a line that begins neither as a rule nor as that of a fault is shown as it is -/
theorem highlight_of_head? {c : Char} (hline : line.toList.head? = some c) (he : c ≠ 'e') (hd : c ≠ '-') :
    highlight true line = line := by
  rw [highlight, startsWith_eq_false hline (d := 'e') rfl he, startsWith_eq_false hline (d := '-') rfl hd]
  rfl

theorem highlight_labelled {c : Char} (hlabel : label.toList.head? = some c) (he : c ≠ 'e') (hd : c ≠ '-') :
    highlight true (labelled label value) = labelled label value := by
  refine highlight_of_head? ?_ he hd
  rw [labelled, String.toList_append, String.toList_append, List.append_assoc, List.head?_append, hlabel]
  rfl

theorem highlight_rule : highlight true rule = enclosed "2" rule := by
  have hfault : rule.startsWith "evm error:" = false := startsWith_eq_false (c := '-') (d := 'e') rfl rfl (by decide)
  have hrule : rule.startsWith "-" = true := String.startsWith_string_iff.2 (by decide)
  rw [highlight, hfault, hrule]
  rfl

theorem highlight_fault (f : Fault) :
    highlight true ("evm error: " ++ f.message) = enclosed "1;31" ("evm error: " ++ f.message) := by
  have hfault : ("evm error: " ++ f.message).startsWith "evm error:" = true := by
    rw [String.startsWith_string_iff, String.toList_append]
    exact List.IsPrefix.trans (by decide) (List.prefix_append _ _)
  rw [highlight, hfault]
  rfl

/-- a report of success on screen: the rules are dim, and nothing else is styled -/
theorem render_of_success (h : r.fault = none) : ∃ hash used refund : String,
    r.lines = [rule, hash, used, refund, rule] ∧
    r.render true = "\n".intercalate [enclosed "2" rule, hash, used, refund, enclosed "2" rule] := by
  refine ⟨_, _, _, lines_of_success h, ?_⟩
  rw [render_eq, lines_of_success h]
  simp only [List.map_cons, List.map_nil, highlight_rule]
  rw [highlight_labelled (c := 'M') rfl (by decide) (by decide),
    highlight_labelled (c := 'T') rfl (by decide) (by decide),
    highlight_labelled (c := 'G') rfl (by decide) (by decide)]

/-- a report of a fault on screen: the rules are dim, and the line of the fault is red and bold -/
theorem render_of_fault (h : r.fault = some f) :
    r.render true =
      "\n".intercalate [enclosed "2" rule, enclosed "1;31" ("evm error: " ++ f.message), enclosed "2" rule] := by
  rw [render_eq, lines_of_fault h]
  simp only [List.map_cons, List.map_nil, highlight_rule, highlight_fault]

/-! ## What a text tells -/

theorem lines_eq_of_text (h : r₁.text = r₂.text) : r₁.lines = r₂.lines := by
  have hlists : r₁.lines.map String.toList = r₂.lines.map String.toList := by rw [← lines_text, h, lines_text]
  exact List.map_injective_iff.2 (fun _ _ => String.toList_inj.1) hlists

/-- the number of lines tells success, and the sentence of a fault the fault -/
theorem fault_eq_of_text (h : r₁.text = r₂.text) : r₁.fault = r₂.fault := by
  have hlines := lines_eq_of_text h
  cases h₁ : r₁.fault with
  | none =>
    cases h₂ : r₂.fault with
    | none => rfl
    | some g =>
      -- five lines are not three
      rw [lines_of_success h₁, lines_of_fault h₂] at hlines
      exact absurd (congrArg List.length hlines) (by simp)
  | some f =>
    cases h₂ : r₂.fault with
    | none =>
      rw [lines_of_fault h₁, lines_of_success h₂] at hlines
      exact absurd (congrArg List.length hlines) (by simp)
    | some g =>
      rw [lines_of_fault h₁, lines_of_fault h₂] at hlines
      injection hlines with _ hlines
      injection hlines with hfault _
      rw [Fault.message_injective ((String.append_right_inj _).1 hfault)]

/-- what stands behind the labels tells the rest -/
theorem fields_eq_of_text (h : r₁.text = r₂.text) (hnone : r₁.fault = none) :
    r₁.memoryHash = r₂.memoryHash ∧ r₁.gasUsed = r₂.gasUsed ∧ r₁.gasRefund = r₂.gasRefund := by
  have hlines := lines_eq_of_text h
  rw [lines_of_success hnone, lines_of_success (fault_eq_of_text h ▸ hnone)] at hlines
  injection hlines with _ hlines
  injection hlines with hhash hlines
  injection hlines with hused hlines
  injection hlines with hrefund _
  refine ⟨Hex.toText_injective (labelled_injective _ hhash), ?_, ?_⟩
  · exact UInt64.toNat_inj.1 (decimal_injective (labelled_injective _ hused))
  · exact UInt64.toNat_inj.1 (decimal_injective (labelled_injective _ hrefund))

/-- **What is printed of a result.** Without colours the report is shown as its text. With them, removing the escape
sequences leaves the text. The text taken apart gives the lines that were written, which are plain; the sequences stand
around the two rules, which are dim, and around the line of the fault, which is red and bold, if there is one, and
nowhere else. The text tells the fault, or that there is none, and if there is none it tells the digest of the memory,
the gas used and the gas left over. -/
theorem printed_text_tells_the_result :
    (∀ r : Report,
      r.render false = r.text ∧
      unstyled (r.render true).toList = r.text.toList ∧
      Text.lines r.text.toList = r.lines.map String.toList ∧ (∀ line ∈ r.lines, Plain line.toList) ∧
      (r.fault = none → ∃ hash used refund : String,
        r.lines = [rule, hash, used, refund, rule] ∧
        r.render true = "\n".intercalate [enclosed "2" rule, hash, used, refund, enclosed "2" rule]) ∧
      ∀ f, r.fault = some f →
        r.lines = [rule, "evm error: " ++ f.message, rule] ∧
        r.render true =
          "\n".intercalate [enclosed "2" rule, enclosed "1;31" ("evm error: " ++ f.message), enclosed "2" rule]) ∧
    ∀ r₁ r₂ : Report, r₁.text = r₂.text →
      r₁.fault = r₂.fault ∧
      (r₁.fault = none →
        r₁.memoryHash = r₂.memoryHash ∧ r₁.gasUsed = r₂.gasUsed ∧ r₁.gasRefund = r₂.gasRefund) := by
  constructor
  · intro r
    refine ⟨r.render_false, r.unstyled_render, r.lines_text, r.plain_lines, render_of_success, ?_⟩
    intro f hf
    exact ⟨lines_of_fault hf, render_of_fault hf⟩
  · intro r₁ r₂ h
    exact ⟨fault_eq_of_text h, fields_eq_of_text h⟩

/-- two results with one fault and one text, and a success whose text one more digit of gas changes -/
theorem printed_text_of_refusals_and_success :
    let refusal : Report := ⟨#[], 9, 1, some (.invalidOpcode 9)⟩
    let other : Report := ⟨#[0xc5], 0, 5, some (.invalidOpcode 9)⟩
    let success : Report := ⟨#[0xc5, 0xd2], 3, 7, none⟩
    let richer : Report := ⟨#[0xc5, 0xd2], 3, 70, none⟩
    refusal.text = other.text ∧ refusal.fault = other.fault ∧
      refusal.render true = "\n".intercalate
        [enclosed "2" rule, enclosed "1;31" "evm error: invalid opcode 09", enclosed "2" rule] ∧
      (∃ hash used refund : String,
        success.lines = [rule, hash, used, refund, rule] ∧
        success.render true = "\n".intercalate [enclosed "2" rule, hash, used, refund, enclosed "2" rule]) ∧
      success.text ≠ richer.text := by
  intro refusal other success richer
  have htext : refusal.text = other.text := rfl
  have hmessage : "evm error: " ++ (Fault.invalidOpcode 9).message = "evm error: invalid opcode 09" := by decide
  obtain ⟨-, -, -, -, -, hrefusal⟩ := printed_text_tells_the_result.1 refusal
  obtain ⟨-, -, -, -, hsuccess, -⟩ := printed_text_tells_the_result.1 success
  refine ⟨htext, (printed_text_tells_the_result.2 refusal other htext).1, ?_, hsuccess rfl, ?_⟩
  · rw [← hmessage]
    exact (hrefusal _ rfl).2
  · intro hsame
    have hrefund := ((printed_text_tells_the_result.2 success richer hsame).2 rfl).2.2
    exact absurd hrefund (by decide)

end Report

end GasMachine
