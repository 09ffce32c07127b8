import GasMachine.Text.Quoted
import GasMachine.Text.Style
import GasMachine.Fault
/-
Log events and the three ways in which a log writes them.

An event has a level, the part of the program it comes from (its target), a message and fields. A terminal line is for
reading, with colours or without; a JSON line is one object; a key-value line quotes a value that has blanks, quotes or an
equals sign in it. In a terminal line, control characters of the message that a terminal would act on are made visible.
-/
namespace GasMachine.Log

/-- how grave an event is -/
inductive Level where
  | error
  | warn
  | info
  | debug
  | trace
deriving DecidableEq, Repr

namespace Level

/-- the most grave first, from one on -/
def rank : Level → Nat
  | error => 1
  | warn => 2
  | info => 3
  | debug => 4
  | trace => 5

/-- the name in upper case -/
def name : Level → String
  | error => "ERROR"
  | warn => "WARN"
  | info => "INFO"
  | debug => "DEBUG"
  | trace => "TRACE"

/-- the name in lower case -/
def key : Level → String
  | error => "error"
  | warn => "warn"
  | info => "info"
  | debug => "debug"
  | trace => "trace"

/-- the colour of a level -/
def style : Level → Text.Style
  | error => ⟨"31"⟩
  | warn => ⟨"33"⟩
  | info => ⟨"32"⟩
  | debug => ⟨"34"⟩
  | trace => ⟨"35"⟩

end Level

/-- the value of a field -/
inductive Value where
  | number (n : Nat)
  | text (s : String)
deriving DecidableEq, Repr

/-- a value as text -/
def Value.toText : Value → String
  | number n => decimal n
  | text s => s

/-- one event -/
structure Event where
  level : Level
  target : String
  message : String
  fields : List (String × Value)
deriving DecidableEq, Repr

/-- how a log writes events -/
inductive Format where
  | json
  | keyValue
  | terminal
deriving DecidableEq, Repr

namespace Format

/-- every format -/
def all : List Format := [json, keyValue, terminal]

/-- the name of a format -/
def name : Format → String
  | json => "json"
  | keyValue => "log-fmt"
  | terminal => "terminal"

/-- the format of a name -/
def ofName? (s : String) : Option Format := all.find? fun f => f.name = s

end Format

/-! ## Terminal lines -/

/-- two digits of a byte -/
def hexByte (n : Nat) : List Char :=
  let digits := Nat.toDigits 16 n
  if digits.length < 2 then '0' :: digits else digits

/-- a character of a message, made visible if a terminal would act on it -/
def showControl (c : Char) : List Char :=
  if c = '\x1b' ∨ c = '\x07' ∨ c = '\x08' ∨ c = '\x0c' ∨ c = '\x7f' then ['\\', 'x'] ++ hexByte c.toNat
  else if 0x80 ≤ c.toNat ∧ c.toNat ≤ 0x9F then Text.Quoted.codePoint c
  else [c]

/-- a level filled up to five characters from the left -/
def levelColumn (l : Level) : String := String.ofList (List.replicate (5 - l.name.length) ' ') ++ l.name

namespace Event

/-- an event as a terminal line; `target` if the target is shown -/
def terminalLine (e : Event) (colours target : Bool) (time : String) : String :=
  let dim := Text.Style.dim.paint colours
  let fields := e.fields.map fun f => " " ++ Text.Style.italic.paint colours f.1 ++ dim "=" ++ f.2.toText
  dim time ++ " " ++ e.level.style.paint colours (levelColumn e.level) ++ " " ++
    (if target then dim e.target ++ dim ":" ++ " " else "") ++ String.ofList (e.message.toList.flatMap showControl) ++
    String.join fields

end Event

/-! ## JSON lines -/

/-- one character of a JSON text -/
def jsonEscape (c : Char) : List Char :=
  if c = '"' ∨ c = '\\' then ['\\', c]
  else if c = '\x08' then ['\\', 'b']
  else if c = '\x0c' then ['\\', 'f']
  else if c = '\n' then ['\\', 'n']
  else if c = '\r' then ['\\', 'r']
  else if c = '\t' then ['\\', 't']
  else if c.toNat < 0x20 then ['\\', 'u', '0', '0'] ++ hexByte c.toNat
  else [c]

/-- a JSON text -/
def jsonText (s : String) : String := String.ofList ('"' :: s.toList.flatMap jsonEscape ++ ['"'])

/-- a JSON value -/
def jsonValue : Value → String
  | .number n => decimal n
  | .text s => jsonText s

/-- a JSON object, from its keys and the texts of their values -/
def jsonObject (members : List (String × String)) : String :=
  "\x7b" ++ ",".intercalate (members.map fun m => jsonText m.1 ++ ":" ++ m.2) ++ "\x7d"

namespace Event

/-- an event as a JSON line; `target` if the target is shown -/
def jsonLine (e : Event) (target : Bool) (time : String) : String :=
  let fields := ("message", jsonText e.message) :: e.fields.map fun f => (f.1, jsonValue f.2)
  jsonObject ([("timestamp", jsonText time), ("level", jsonText e.level.name), ("fields", jsonObject fields)] ++
    (if target then [("target", jsonText e.target)] else []))

end Event

/-! ## Key-value lines -/

/-- whether a character makes a value need quotes -/
def needsQuotes (c : Char) : Bool := c.toNat ≤ 0x20 || c == '=' || c == '"'

/-- a value, in quotes if it needs them -/
def quotedIfNeeded (s : String) : String :=
  if s.toList.any needsQuotes then "\"" ++ Text.Quoted.inLog s ++ "\"" else s

namespace Event

/-- an event as a key-value line -/
def keyValueLine (e : Event) (time : String) : String :=
  let pairs := [("ts", time), ("level", e.level.key), ("target", e.target), ("message", e.message)] ++
    e.fields.map fun f => (f.1, f.2.toText)
  " ".intercalate (pairs.map fun p => p.1 ++ "=" ++ quotedIfNeeded p.2)

/-- an event as a line of a format -/
def line (e : Event) (format : Format) (colours target : Bool) (time : String) : String :=
  match format with
  | .terminal => e.terminalLine colours target time
  | .json => e.jsonLine target time
  | .keyValue => e.keyValueLine time

end Event

end GasMachine.Log
