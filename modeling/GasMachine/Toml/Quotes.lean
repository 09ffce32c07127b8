/-
Quoted texts of TOML, read from just behind the opening quotes.

Basic texts have escapes, literal ones have none; each may span lines between triple quotes. A line end right behind
opening triple quotes is dropped, and up to two quotes may stand right before closing ones. A backslash at the end of a
line drops the line end and all blanks and line ends after it. Every line end inside a text reads as a single line feed.
-/
namespace GasMachine.Toml.Quotes

/-- whether a character may stand in a comment or, quotes and backslashes apart, in a text -/
def isPlain (c : Char) : Bool := c == '\t' || (0x20 ≤ c.toNat && c.toNat ≤ 0x7E) || 0x80 ≤ c.toNat

/-- a character that is escaped by one letter -/
def letterEscape? (c : Char) : Option Char :=
  if c = 'b' then some '\x08'
  else if c = 't' then some '\t'
  else if c = 'n' then some '\n'
  else if c = 'f' then some '\x0c'
  else if c = 'r' then some '\r'
  else if c = '"' ∨ c = '\\' then some c
  else none

/-- the value of a hexadecimal digit -/
def hexValue? (c : Char) : Option Nat :=
  if '0' ≤ c ∧ c ≤ '9' then some (c.toNat - 48)
  else if 'a' ≤ c ∧ c ≤ 'f' then some (c.toNat - 87)
  else if 'A' ≤ c ∧ c ≤ 'F' then some (c.toNat - 55)
  else none

/-- the character at a code point, if it is one -/
def scalar? (n : Nat) : Option Char := if n.isValidChar then some (Char.ofNat n) else none

/-- how far an escape has been read -/
inductive Escape where
  /-- not in an escape -/
  | outside
  /-- behind a backslash -/
  | begun
  /-- in a code point, with digits still to come and the value so far -/
  | digits (left value : Nat)
  /-- behind a backslash and blanks, before a line end -/
  | blanks
  /-- behind an escaped line end, dropping blanks and line ends -/
  | dropping
deriving DecidableEq, Repr

/-- one more digit of a code point -/
def codeDigit (left value : Nat) (c : Char) : Option (Option Char × Escape) :=
  match hexValue? c with
  | none => none
  | some d =>
    if left ≤ 1 then (scalar? (16 * value + d)).map fun x => (some x, .outside)
    else some (none, .digits (left - 1) (16 * value + d))

/-- the character behind a backslash -/
def escapeLetter (c : Char) : Option (Option Char × Escape) :=
  match letterEscape? c with
  | some d => some (some d, .outside)
  | none => if c = 'u' then some (none, .digits 4 0) else if c = 'U' then some (none, .digits 8 0) else none

/-- what is read, with a character in front if there is one -/
def prepend (c : Option Char) (r : List Char × List Char) : List Char × List Char :=
  match c with
  | some c => (c :: r.1, r.2)
  | none => r

/-- a basic text on one line, and what follows it -/
def basic (state : Escape) : List Char → Option (List Char × List Char)
  | [] => none
  | c :: cs =>
    match state with
    | .begun =>
      match escapeLetter c with
      | some (x, next) => (basic next cs).map (prepend x)
      | none => none
    | .digits left value =>
      match codeDigit left value c with
      | some (x, next) => (basic next cs).map (prepend x)
      | none => none
    | _ =>
      if c = '"' then some ([], cs)
      else if c = '\\' then basic .begun cs
      else if isPlain c then (basic .outside cs).map (prepend (some c))
      else none

/-- a literal text on one line, and what follows it -/
def literal : List Char → Option (List Char × List Char)
  | [] => none
  | c :: cs => if c = '\'' then some ([], cs) else if isPlain c then (literal cs).map (prepend (some c)) else none

/-- up to two quotes, as the text they add and what follows them -/
def finalQuotes (q : Char) : List Char → List Char × List Char
  | c :: d :: rest => if c = q then (if d = q then ([q, q], rest) else ([q], d :: rest)) else ([], c :: d :: rest)
  | [c] => if c = q then ([q], []) else ([], [c])
  | [] => ([], [])

/-- whether a text starts with two of a character -/
def startsTwice (q : Char) : List Char → Bool
  | c :: d :: _ => c == q && d == q
  | _ => false

/-- whether a text starts with a line feed -/
def startsLine : List Char → Bool
  | c :: _ => c == '\n'
  | [] => false

/-- a basic text over several lines, and what follows it -/
def multiBasic (state : Escape) : List Char → Option (List Char × List Char)
  | [] => none
  | c :: cs =>
    match state with
    | .begun =>
      if c = ' ' ∨ c = '\t' then multiBasic .blanks cs
      else if c = '\n' then multiBasic .dropping cs
      else if c = '\r' ∧ startsLine cs then multiBasic .blanks cs
      else match escapeLetter c with
        | some (x, next) => (multiBasic next cs).map (prepend x)
        | none => none
    | .digits left value =>
      match codeDigit left value c with
      | some (x, next) => (multiBasic next cs).map (prepend x)
      | none => none
    | .blanks =>
      if c = ' ' ∨ c = '\t' then multiBasic .blanks cs
      else if c = '\n' then multiBasic .dropping cs
      else if c = '\r' ∧ startsLine cs then multiBasic .blanks cs
      else none
    | _ =>
      if state = .dropping ∧ (c = ' ' ∨ c = '\t' ∨ c = '\n' ∨ (c = '\r' ∧ startsLine cs)) then multiBasic .dropping cs
      else if c = '"' then
        if startsTwice '"' cs then some (finalQuotes '"' (cs.drop 2))
        else (multiBasic .outside cs).map (prepend (some c))
      else if c = '\\' then multiBasic .begun cs
      else if c = '\r' ∧ startsLine cs then multiBasic .outside cs
      else if c = '\n' ∨ isPlain c then (multiBasic .outside cs).map (prepend (some c))
      else none

/-- a literal text over several lines, and what follows it -/
def multiLiteral : List Char → Option (List Char × List Char)
  | [] => none
  | c :: cs =>
    if c = '\'' then
      if startsTwice '\'' cs then some (finalQuotes '\'' (cs.drop 2)) else (multiLiteral cs).map (prepend (some c))
    else if c = '\r' ∧ startsLine cs then multiLiteral cs
    else if c = '\n' ∨ isPlain c then (multiLiteral cs).map (prepend (some c))
    else none

/-- what follows one line end, if there is one -/
def dropLine : List Char → List Char
  | '\n' :: cs => cs
  | '\r' :: '\n' :: cs => cs
  | cs => cs

/-- a text on one line, as keys have it, and what follows it -/
def single : List Char → Option (List Char × List Char)
  | '"' :: cs => basic .outside cs
  | '\'' :: cs => literal cs
  | _ => none

/-- a text with any quotes, and what follows it -/
def read : List Char → Option (List Char × List Char)
  | '"' :: '"' :: '"' :: cs => multiBasic .outside (dropLine cs)
  | '\'' :: '\'' :: '\'' :: cs => multiLiteral (dropLine cs)
  | cs => single cs

end GasMachine.Toml.Quotes
