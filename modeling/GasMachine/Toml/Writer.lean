/-
Writing texts as TOML.

A text is written on one line between double quotes, with escapes, unless backslashes make a literal text the shorter
form, or line feeds call for triple quotes. A literal text is taken if there is a backslash, every character may stand in
it as it is, and its quotes do not run into the closing ones: no three single quotes in a row, and none at the end.
-/
namespace GasMachine.Toml.Writer

/-- the least number of digits in an escaped code point, in upper case -/
def hex4 (n : Nat) : List Char :=
  let digit (d : Nat) : Char := if d < 10 then Char.ofNat (48 + d) else Char.ofNat (55 + d)
  [digit (n / 4096 % 16), digit (n / 256 % 16), digit (n / 16 % 16), digit (n % 16)]

/-- a character that needs an escape wherever it stands, tabs and line feeds apart -/
def isControl (c : Char) : Bool := (c.toNat ≤ 0x1F && c != '\t' && c != '\n') || c.toNat == 0x7F

/-- one character of a basic text, with line feeds as they are if it spans lines -/
def escape (spansLines : Bool) (c : Char) : List Char :=
  if c = '\x08' then ['\\', 'b']
  else if c = '\t' then ['\\', 't']
  else if c = '\n' then (if spansLines then ['\n'] else ['\\', 'n'])
  else if c = '\x0c' then ['\\', 'f']
  else if c = '\r' then ['\\', 'r']
  else if c = '"' ∨ c = '\\' then ['\\', c]
  else if isControl c then ['\\', 'u'] ++ hex4 c.toNat
  else [c]

/-- whether three single quotes stand in a row -/
def hasTripleQuote : List Char → Bool
  | c :: d :: e :: rest => (c == '\'' && d == '\'' && e == '\'') || hasTripleQuote (d :: e :: rest)
  | _ => false

/-- whether a text is written as a literal one -/
def prefersLiteral (cs : List Char) : Bool :=
  cs.contains '\\' && !cs.any isControl && !hasTripleQuote cs && cs.getLast? != some '\''

/-- the quotes before and after a text; a line feed follows opening quotes of a text that spans lines -/
def quotes (q : Char) (spansLines triple : Bool) (body : List Char) : List Char :=
  if spansLines then [q, q, q, '\n'] ++ body ++ [q, q, q]
  else if triple then [q, q, q] ++ body ++ [q, q, q]
  else [q] ++ body ++ [q]

/-- a text as TOML -/
def text (cs : List Char) : List Char :=
  let spansLines := cs.contains '\n'
  if prefersLiteral cs then quotes '\'' spansLines (cs.contains '\'') cs
  else quotes '"' spansLines false (cs.flatMap (escape spansLines))

end GasMachine.Toml.Writer
