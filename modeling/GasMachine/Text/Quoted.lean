import GasMachine.Text.Printable
import GasMachine.Text.Combining
/-
Quoted text: a text made visible on one line.

Tabs, line ends, NUL and backslashes have short escapes; what is not printable, and a combining character that would
change the look of what stands before it, is written as its code point in braces. `inDouble` is a text between double
quotes, in which a single quote stands for itself. `inLog` is what log lines put between double quotes: single quotes are
escaped too, and a combining character only at the start.
-/
namespace GasMachine.Text.Quoted

/-- a character written as its code point -/
def codePoint (c : Char) : List Char := ['\\', 'u', '\x7b'] ++ Nat.toDigits 16 c.toNat ++ ['\x7d']

/-- one character, with combining characters escaped or not -/
def escape (combining : Bool) (c : Char) : List Char :=
  if c = '\x00' then ['\\', '0']
  else if c = '\t' then ['\\', 't']
  else if c = '\r' then ['\\', 'r']
  else if c = '\n' then ['\\', 'n']
  else if c = '\\' ∨ c = '"' then ['\\', c]
  else if combining && isCombining c then codePoint c
  else if isPrintable c then [c]
  else codePoint c

/-- a text between double quotes -/
def inDouble (s : String) : String := String.ofList ('"' :: s.toList.flatMap (escape true) ++ ['"'])

/-- one character of a log value -/
def escapeLogged (combining : Bool) (c : Char) : List Char := if c = '\'' then ['\\', c] else escape combining c

/-- what a log line puts between double quotes -/
def inLog (s : String) : String :=
  match s.toList with
  | [] => ""
  | c :: cs => String.ofList (escapeLogged true c ++ cs.flatMap (escapeLogged false))

end GasMachine.Text.Quoted
