import GasMachine.Toml.Scalar
import GasMachine.Toml.Quotes
/-
Reading a TOML document into the entries of its top table.

A document is a sequence of lines: blank ones, comments, headers that open a table or one more table of an array, and keys
with values. Arrays may span lines and have comments in them; inline tables may not. Values nest in each other, and names
follow each other in a key, up to a limit. Each reader gives what it read and what follows, and `none` if the text is not
TOML. Readers that nest count down a bound; the length of the text is enough of it, since each call uses up a character.
-/
namespace GasMachine.Toml

/-- the text without leading blanks -/
def skipBlanks (cs : List Char) : List Char := cs.dropWhile fun c => c == ' ' || c == '\t'

/-- the text without leading blanks, line ends and comments -/
def skipSpace (inComment : Bool) : List Char → Option (List Char)
  | [] => some []
  | c :: cs =>
    if c = '\n' ∨ (c = '\r' ∧ Quotes.startsLine cs) then skipSpace false cs
    else if inComment then (if Quotes.isPlain c then skipSpace true cs else none)
    else if c = ' ' ∨ c = '\t' then skipSpace false cs
    else if c = '#' then skipSpace true cs
    else some (c :: cs)

/-- the text behind the end of a line, with a comment or blanks before it -/
def lineEnd (cs : List Char) : Option (List Char) :=
  let body := match skipBlanks cs with
    | '#' :: comment => comment.dropWhile Quotes.isPlain
    | other => other
  match body with
  | [] => some []
  | '\n' :: rest => some rest
  | '\r' :: '\n' :: rest => some rest
  | _ => none

/-- whether a character may stand in a key without quotes -/
def isBare (c : Char) : Bool := c.isAlphanum || c == '_' || c == '-'

/-- one name of a key -/
def keyName (cs : List Char) : Option (String × List Char) :=
  match cs with
  | '"' :: _ | '\'' :: _ => (Quotes.single cs).map fun r => (String.ofList r.1, r.2)
  | _ =>
    let name := cs.takeWhile isBare
    if name.isEmpty then none else some (String.ofList name, cs.drop name.length)

/-- how deep arrays and inline tables may nest in each other, and how many names a key may have -/
def depthLimit : Nat := 127

/-- a key of at most so many names, with points between them, as the names before the last and the last -/
def keyOf : Nat → List Char → Option ((List String × String) × List Char)
  | 0, _ => none
  | room + 1, cs =>
    match keyName (skipBlanks cs) with
    | none => none
    | some (name, rest) =>
      match skipBlanks rest with
      | '.' :: more => (keyOf room more).map fun r => ((name :: r.1.1, r.1.2), r.2)
      | rest' => some (([], name), rest')

/-- a key, as the names before the last and the last -/
def key (cs : List Char) : Option ((List String × String) × List Char) := keyOf depthLimit cs

mutual

/-- a value, in which arrays and inline tables may nest to a depth of `room` -/
def value : (fuel room : Nat) → List Char → Option (Item × List Char)
  | 0, _, _ => none
  | fuel + 1, room, cs =>
    match cs, room with
    | '"' :: _, _ | '\'' :: _, _ => (Quotes.read cs).map fun r => (.text (String.ofList r.1), r.2)
    | '[' :: _, 0 | '\x7b' :: _, 0 => none
    | '[' :: rest, room + 1 => (elements fuel room rest).map (.skipped, ·)
    | '\x7b' :: rest, room + 1 =>
      match skipBlanks rest with
      | '\x7d' :: rest' => some (.inline [], rest')
      | rest' => (pairs fuel room [] rest').map fun r => (.inline r.1, r.2)
    | _, _ => Scalar.read cs

/-- the rest of an array, from before an element or the closing bracket -/
def elements : (fuel room : Nat) → List Char → Option (List Char)
  | 0, _, _ => none
  | fuel + 1, room, cs =>
    match skipSpace false cs with
    | none => none
    | some (']' :: rest) => some rest
    | some cs' =>
      match value fuel room cs' with
      | none => none
      | some (_, rest) =>
        match skipSpace false rest with
        | some (',' :: rest') => elements fuel room rest'
        | some (']' :: rest') => some rest'
        | _ => none

/-- the entries of an inline table, with those so far, and what follows it, from before a key -/
def pairs : (fuel room : Nat) → Entries → List Char → Option (Entries × List Char)
  | 0, _, _, _ => none
  | fuel + 1, room, es, cs =>
    match key cs with
    | some ((path, name), '=' :: rest) =>
      match value fuel room (skipBlanks rest) with
      | none => none
      | some (item, rest') =>
        match Entries.setInline item path name es, skipBlanks rest' with
        | some es', ',' :: more => pairs fuel room es' more
        | some es', '\x7d' :: more => some (es', more)
        | _, _ => none
    | _ => none

end

/-- a document read so far: its entries and the names that lead to the table of the last header -/
structure Document where
  entries : Entries
  table : List String

namespace Document

/-- the document after a header; `array` if it opens one more table of an array -/
def header (d : Document) (array : Bool) (path : List String) (name : String) : Option Document :=
  (Entries.underHeader (if array then Entries.openArray name else Entries.openTable name) path d.entries).map
    fun entries => ⟨entries, path ++ [name]⟩

/-- the document after a key is set in the table of the last header -/
def assign (d : Document) (path : List String) (name : String) (item : Item) : Option Document :=
  (Entries.underHeader (fun es => es.set path name item) d.table d.entries).map fun entries => ⟨entries, d.table⟩

/-- one header, from behind its first bracket, and what follows its line -/
def readHeader (d : Document) (cs : List Char) : Option (Document × List Char) :=
  match cs with
  | '[' :: rest =>
    match key rest with
    | some ((path, name), ']' :: ']' :: rest') => do
      let d' ← d.header true path name
      return (d', ← lineEnd rest')
    | _ => none
  | rest =>
    match key rest with
    | some ((path, name), ']' :: rest') => do
      let d' ← d.header false path name
      return (d', ← lineEnd rest')
    | _ => none

/-- one key with its value, and what follows their line -/
def readPair (d : Document) (cs : List Char) : Option (Document × List Char) :=
  match key cs with
  | some ((path, name), '=' :: rest) => do
    let (item, rest') ← value rest.length depthLimit (skipBlanks rest)
    let d' ← d.assign path name item
    return (d', ← lineEnd rest')
  | _ => none

/-- the lines of a document -/
def lines : Nat → Document → List Char → Option Document
  | 0, _, _ => none
  | fuel + 1, d, cs =>
    match skipBlanks cs with
    | [] => some d
    | '[' :: rest => (readHeader d rest).bind fun r => lines fuel r.1 r.2
    | c :: rest =>
      if c = '#' ∨ c = '\n' ∨ c = '\r' then (lineEnd (c :: rest)).bind fun rest' => lines fuel d rest'
      else (readPair d (c :: rest)).bind fun r => lines fuel r.1 r.2

end Document

/-- the text without a byte order mark -/
def dropByteOrderMark : List Char → List Char
  | c :: cs => if c = '\ufeff' then cs else c :: cs
  | [] => []

/-- the entries of the top table of a document -/
def parse (s : String) : Option Entries :=
  let cs := dropByteOrderMark s.toList
  (Document.lines (cs.length + 1) ⟨[], []⟩ cs).map Document.entries

end GasMachine.Toml
