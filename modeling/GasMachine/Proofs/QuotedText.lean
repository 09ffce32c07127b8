import Mathlib.Tactic
import GasMachine.Toml.Quotes
import GasMachine.Toml.Writer
/-
What is written as a quoted text reads back as that text.

A text is written in one of five forms, and each has its own reader. The two readers of basic texts differ in what may
stand for itself and in how the text ends, but not in their escapes: `ReadsBasic` is what both do up to the end of the
text, and `ReadsBasic.written` says of any reader that does it that it takes back what `escape` has done to a text.
`escape_cases` lists how a character is written: as a letter or as a code point behind a backslash, or as it is.

Literal texts have no escapes, and are written only if they can stand as they are. Between triple quotes the reader
looks ahead for the closing ones; no three quotes in a row, and none at the end, keep it from seeing them too early
(`multiLiteral_written`). `read_text` puts the five forms together.
-/
namespace GasMachine.Toml

open Quotes Writer

/-! ## How a character is written -/

/-- a character that is no control character may stand in a text as it is, or is a line feed -/
theorem plain_of_not_control {c : Char} (h : isControl c = false) : c = '\n' ∨ isPlain c = true := by
  by_cases htab : c = '\t'
  · exact .inr (by simp [isPlain, htab])
  by_cases hline : c = '\n'
  · exact .inl hline
  refine .inr ?_
  simp [isControl, isPlain, htab, hline] at h ⊢
  omega

/-- how a character of a basic text is written -/
theorem escape_cases (spansLines : Bool) (c : Char) :
    (∃ x, escape spansLines c = ['\\', x] ∧ letterEscape? x = some c) ∨
    (c.toNat < 0x10000 ∧ escape spansLines c = ['\\', 'u'] ++ hex4 c.toNat) ∨
    (escape spansLines c = [c] ∧ c ≠ '"' ∧ c ≠ '\\' ∧ (isPlain c = true ∨ (spansLines = true ∧ c = '\n'))) := by
  unfold escape
  split_ifs with h₁ h₂ h₃ h₄ h₅ h₆ h₇ h₈
  · exact .inl ⟨'b', rfl, by rw [h₁]; rfl⟩
  · exact .inl ⟨'t', rfl, by rw [h₂]; rfl⟩
  · exact .inr (.inr ⟨by rw [h₃], by rw [h₃]; decide, by rw [h₃]; decide, .inr ⟨h₄, h₃⟩⟩)
  · exact .inl ⟨'n', rfl, by rw [h₃]; rfl⟩
  · exact .inl ⟨'f', rfl, by rw [h₅]; rfl⟩
  · exact .inl ⟨'r', rfl, by rw [h₆]; rfl⟩
  · exact .inl ⟨c, rfl, by rcases h₇ with rfl | rfl <;> rfl⟩
  · refine .inr (.inl ⟨?_, rfl⟩)
    simp [isControl] at h₈
    omega
  · have hplain := plain_of_not_control (by simpa using h₈)
    exact .inr (.inr ⟨rfl, fun h => h₇ (.inl h), fun h => h₇ (.inr h), .inl (hplain.resolve_left h₃)⟩)

/-! ## Basic texts -/

/-- what a reader of basic texts does up to the end of the text -/
structure ReadsBasic (spansLines : Bool) (read : Escape → List Char → Option (List Char × List Char)) : Prop where
  /-- a character that stands for itself -/
  itself : ∀ {c} cs, c ≠ '"' → c ≠ '\\' → isPlain c = true ∨ (spansLines = true ∧ c = '\n') →
    read .outside (c :: cs) = (read .outside cs).map (prepend (some c))
  /-- a backslash begins an escape -/
  begins : ∀ cs, read .outside ('\\' :: cs) = read .begun cs
  /-- what follows the backslash -/
  letter : ∀ {c x next} cs, escapeLetter c = some (x, next) → read .begun (c :: cs) = (read next cs).map (prepend x)
  /-- one more digit of a code point -/
  digit : ∀ {left value c x next} cs, codeDigit left value c = some (x, next) →
    read (.digits left value) (c :: cs) = (read next cs).map (prepend x)

theorem readsBasic_basic : ReadsBasic false basic where
  itself cs hquote hslash hplain := by
    have hplain := hplain.resolve_right fun h => Bool.false_ne_true h.1
    simp [basic, hquote, hslash, hplain]
  begins cs := by simp [basic]
  letter cs h := by simp [basic, h]
  digit cs h := by simp [basic, h]

theorem readsBasic_multiBasic : ReadsBasic true multiBasic where
  itself {c} cs hquote hslash hplain := by
    have hreturn : c ≠ '\r' := by
      rintro rfl
      exact absurd hplain (by decide)
    have hself : c = '\n' ∨ isPlain c = true := by tauto
    simp [multiBasic, hquote, hslash, hreturn, hself]
  begins cs := by simp [multiBasic]
  letter {c x next} cs h := by
    -- no blank and no line end is a letter of an escape
    have hblank : ∀ d, escapeLetter d = none → c ≠ d := by
      rintro d hd rfl
      rw [hd] at h
      cases h
    have h₁ := hblank ' ' rfl
    have h₂ := hblank '\t' rfl
    have h₃ := hblank '\n' rfl
    have h₄ := hblank '\r' rfl
    simp [multiBasic, h₁, h₂, h₃, h₄, h]
  digit cs h := by simp [multiBasic, h]

theorem scalar?_toNat (c : Char) : scalar? c.toNat = some c := by
  have hvalid : c.toNat.isValidChar := c.valid
  simp [scalar?, hvalid]

/-- a digit of a code point has its value -/
theorem hexValue?_digit (n : ℕ) :
    hexValue? (if n % 16 < 10 then Char.ofNat (48 + n % 16) else Char.ofNat (55 + n % 16)) = some (n % 16) := by
  have hall : ∀ d < 16, hexValue? (if d < 10 then Char.ofNat (48 + d) else Char.ofNat (55 + d)) = some d := by decide
  exact hall (n % 16) (Nat.mod_lt n (by decide))

theorem codeDigit_more {left : ℕ} (h : 1 < left) (value n : ℕ) :
    codeDigit left value (if n % 16 < 10 then Char.ofNat (48 + n % 16) else Char.ofNat (55 + n % 16)) =
      some (none, .digits (left - 1) (16 * value + n % 16)) := by
  rw [codeDigit, hexValue?_digit]
  simp [h]

theorem codeDigit_last {value n : ℕ} {c : Char} (h : 16 * value + n % 16 = c.toNat) :
    codeDigit 1 value (if n % 16 < 10 then Char.ofNat (48 + n % 16) else Char.ofNat (55 + n % 16)) =
      some (some c, .outside) := by
  rw [codeDigit, hexValue?_digit]
  simp [h, scalar?_toNat]

theorem prepend_none : prepend none = id := rfl

namespace ReadsBasic

variable {spansLines : Bool} {read : Escape → List Char → Option (List Char × List Char)}

/-- four digits are read as the character at their code point -/
theorem code (h : ReadsBasic spansLines read) {c : Char} (hc : c.toNat < 0x10000) (cs : List Char) :
    read (.digits 4 0) (hex4 c.toNat ++ cs) = (read .outside cs).map (prepend (some c)) := by
  have hvalue : 16 * (16 * (16 * (16 * 0 + c.toNat / 4096 % 16) + c.toNat / 256 % 16) + c.toNat / 16 % 16) +
      c.toNat % 16 = c.toNat := by omega
  simp only [hex4, List.cons_append, List.nil_append]
  rw [h.digit _ (codeDigit_more (by decide) _ _), h.digit _ (codeDigit_more (by decide) _ _),
    h.digit _ (codeDigit_more (by decide) _ _), h.digit _ (codeDigit_last hvalue)]
  simp only [prepend_none, Option.map_id, id_eq]

/-- a character as it is written is read as that character -/
theorem character (h : ReadsBasic spansLines read) (c : Char) (cs : List Char) :
    read .outside (escape spansLines c ++ cs) = (read .outside cs).map (prepend (some c)) := by
  rcases escape_cases spansLines c with ⟨x, hx, hletter⟩ | ⟨hc, hx⟩ | ⟨hx, hquote, hslash, hplain⟩
  · rw [hx, List.cons_append, h.begins]
    exact h.letter cs (by rw [escapeLetter, hletter])
  · rw [hx, List.append_assoc, List.cons_append, h.begins, List.cons_append, h.letter _ (by rfl), prepend_none,
      Option.map_id, List.nil_append]
    exact h.code hc cs
  · rw [hx]
    exact h.itself cs hquote hslash hplain

/-- **What is written is read.** Behind the characters of a text as they are written, the reader has read the text. -/
theorem written (h : ReadsBasic spansLines read) (cs rest : List Char) :
    read .outside (cs.flatMap (escape spansLines) ++ rest) = (read .outside rest).map fun r => (cs ++ r.1, r.2) := by
  induction cs with
  | nil => simp
  | cons c cs ih =>
    calc read .outside ((c :: cs).flatMap (escape spansLines) ++ rest)
        = read .outside (escape spansLines c ++ (cs.flatMap (escape spansLines) ++ rest)) := by simp
      _ = ((read .outside rest).map fun r => (cs ++ r.1, r.2)).map (prepend (some c)) := by rw [h.character, ih]
      _ = (read .outside rest).map fun r => (c :: cs ++ r.1, r.2) := by
        rw [Option.map_map]
        rfl

end ReadsBasic

/-- a basic text on one line ends at its quote -/
theorem basic_written (cs rest : List Char) :
    basic .outside (cs.flatMap (escape false) ++ '"' :: rest) = some (cs, rest) := by
  rw [readsBasic_basic.written]
  simp [basic]

/-- quotes that are not there add nothing -/
theorem finalQuotes_of_head? {q : Char} {rest : List Char} (h : rest.head? ≠ some q) :
    finalQuotes q rest = ([], rest) := by
  unfold finalQuotes
  split <;> simp_all

/-- a basic text over several lines ends at its three quotes -/
theorem multiBasic_written (cs : List Char) {rest : List Char} (h : rest.head? ≠ some '"') :
    multiBasic .outside (cs.flatMap (escape true) ++ '"' :: '"' :: '"' :: rest) = some (cs, rest) := by
  rw [readsBasic_multiBasic.written]
  simp [multiBasic, startsTwice, finalQuotes_of_head? h]

/-! ## Literal texts -/

/-- a literal text on one line ends at its quote -/
theorem literal_written {cs : List Char} (rest : List Char) (h : ∀ c ∈ cs, c ≠ '\'' ∧ isPlain c = true) :
    literal (cs ++ '\'' :: rest) = some (cs, rest) := by
  induction cs with
  | nil => simp [literal]
  | cons c cs ih =>
    obtain ⟨hquote, hplain⟩ := h c (by simp)
    rw [List.cons_append, literal, ih fun d hd => h d (by simp [hd])]
    simp [hquote, hplain, prepend]

theorem hasTripleQuote_tail {c : Char} {cs : List Char} (h : hasTripleQuote (c :: cs) = false) :
    hasTripleQuote cs = false := by
  match cs, h with
  | [], _ => rfl
  | [d], _ => rfl
  | d :: e :: rest, h =>
    rw [hasTripleQuote, Bool.or_eq_false_iff] at h
    exact h.2

/-- behind a quote of the text, the closing quotes are not in sight -/
theorem startsTwice_of_quote {cs : List Char} (rest : List Char) (htriple : hasTripleQuote ('\'' :: cs) = false)
    (hlast : ('\'' :: cs).getLast? ≠ some '\'') : startsTwice '\'' (cs ++ rest) = false := by
  match cs, htriple, hlast with
  | [], _, hlast => exact absurd rfl hlast
  | [d], _, hlast =>
    have hd : d ≠ '\'' := by simpa using hlast
    cases rest <;> simp [startsTwice, hd]
  | d :: e :: more, htriple, _ =>
    rw [hasTripleQuote, Bool.or_eq_false_iff] at htriple
    simpa [startsTwice] using htriple.1

/-- a literal text over several lines ends at its three quotes -/
theorem multiLiteral_written {cs rest : List Char} (hcontrol : ∀ c ∈ cs, isControl c = false)
    (htriple : hasTripleQuote cs = false) (hlast : cs.getLast? ≠ some '\'') (hrest : rest.head? ≠ some '\'') :
    multiLiteral (cs ++ '\'' :: '\'' :: '\'' :: rest) = some (cs, rest) := by
  induction cs with
  | nil => simp [multiLiteral, startsTwice, finalQuotes_of_head? hrest]
  | cons c cs ih =>
    have htail : cs.getLast? ≠ some '\'' := by
      cases cs with
      | nil => simp
      | cons d cs => simpa using hlast
    have ih := ih (fun d hd => hcontrol d (by simp [hd])) (hasTripleQuote_tail htriple) htail
    by_cases hquote : c = '\''
    · subst hquote
      have hopen := startsTwice_of_quote ('\'' :: '\'' :: '\'' :: rest) htriple hlast
      simp [multiLiteral, hopen, ih, prepend]
    · have hc := hcontrol c (by simp)
      have hreturn : c ≠ '\r' := by
        rintro rfl
        exact absurd hc (by decide)
      simp [multiLiteral, hquote, hreturn, plain_of_not_control hc, ih, prepend]

/-! ## All forms -/

theorem startsTwice_cons {q c : Char} (cs : List Char) (h : c ≠ q) : startsTwice q (c :: cs) = false := by
  cases cs <;> simp [startsTwice, h]

/-- a quote of a basic text on one line is not the first of three -/
theorem read_basic {cs : List Char} (h : startsTwice '"' cs = false) : Quotes.read ('"' :: cs) = basic .outside cs := by
  unfold Quotes.read
  split <;> simp_all [startsTwice, single]

/-- a quote of a literal text on one line is not the first of three -/
theorem read_literal {cs : List Char} (h : startsTwice '\'' cs = false) : Quotes.read ('\'' :: cs) = literal cs := by
  unfold Quotes.read
  split <;> simp_all [startsTwice, single]

/-- a written basic text does not start with a quote -/
theorem startsTwice_written (spansLines : Bool) (cs : List Char) {rest : List Char} (h : rest.head? ≠ some '"') :
    startsTwice '"' (cs.flatMap (escape spansLines) ++ '"' :: rest) = false := by
  cases cs with
  | nil =>
    cases rest with
    | nil => rfl
    | cons d rest =>
      have hd : d ≠ '"' := by simpa using h
      simp [startsTwice, hd]
  | cons c cs =>
    rcases escape_cases spansLines c with ⟨x, hx, -⟩ | ⟨-, hx⟩ | ⟨hx, hquote, -, -⟩
    · simpa [hx] using startsTwice_cons _ (by decide)
    · simpa [hx] using startsTwice_cons _ (by decide)
    · simpa [hx] using startsTwice_cons _ hquote

/-- when a text is written literally -/
theorem prefersLiteral_iff {cs : List Char} : prefersLiteral cs = true ↔
    '\\' ∈ cs ∧ (∀ c ∈ cs, isControl c = false) ∧ hasTripleQuote cs = false ∧ cs.getLast? ≠ some '\'' := by
  simp [prefersLiteral, and_assoc]

/-- a literal text without line feeds reads back, with triple quotes if there is a quote in it -/
theorem read_literal_line {cs rest : List Char} (hprefers : prefersLiteral cs = true) (hline : '\n' ∉ cs)
    (hrest : rest.head? ≠ some '\'') :
    Quotes.read (quotes '\'' false (cs.contains '\'') cs ++ rest) = some (cs, rest) := by
  obtain ⟨hslash, hcontrol, htriple, hlast⟩ := prefersLiteral_iff.mp hprefers
  match cs, hslash with
  | c :: cs, _ =>
    cases hquote : (c :: cs).contains '\'' with
    | true =>
      have hnewline : c ≠ '\n' := fun h => hline (by simp [h])
      have hreturn : c ≠ '\r' := by
        rintro rfl
        exact absurd (hcontrol '\r' (by simp)) (by decide)
      have hread := multiLiteral_written hcontrol htriple hlast hrest
      simpa [quotes, Quotes.read, dropLine, hnewline, hreturn] using hread
    | false =>
      have hnone : '\'' ∉ c :: cs := by simpa using hquote
      have hplain : ∀ d ∈ c :: cs, d ≠ '\'' ∧ isPlain d = true := by
        intro d hd
        have hself := plain_of_not_control (hcontrol d hd)
        exact ⟨fun h => hnone (h ▸ hd), hself.resolve_left fun h => hline (h ▸ hd)⟩
      have hopen := startsTwice_cons (cs ++ '\'' :: rest) (hplain c (by simp)).1
      simpa [quotes, read_literal hopen] using literal_written rest hplain

/-- **A written text reads back**, whatever is in it. What stands behind it must not start with a quote. -/
theorem read_text (cs : List Char) {rest : List Char} (hbasic : rest.head? ≠ some '"')
    (hliteral : rest.head? ≠ some '\'') : Quotes.read (text cs ++ rest) = some (cs, rest) := by
  unfold text
  split_ifs with hprefers
  · cases hspans : cs.contains '\n' with
    | true =>
      obtain ⟨-, hcontrol, htriple, hlast⟩ := prefersLiteral_iff.mp hprefers
      simpa [quotes, Quotes.read, dropLine] using multiLiteral_written hcontrol htriple hlast hliteral
    | false => exact read_literal_line hprefers (by simpa using hspans) hliteral
  · cases hspans : cs.contains '\n' with
    | true => simpa [quotes, Quotes.read, dropLine] using multiBasic_written cs hbasic
    | false => simpa [quotes, read_basic (startsTwice_written false cs hbasic)] using basic_written cs rest

end GasMachine.Toml
