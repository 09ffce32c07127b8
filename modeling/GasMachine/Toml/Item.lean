/-
Items of a TOML document: what stands at a key.

Of values, only texts, integers and inline tables are kept; any other value is known to be well formed and is `skipped`.
Tables are kept with how they came about, which decides who may add to them: a header opens a table that was only implied
by a longer header, dotted keys add to tables made by dotted keys, and a closed table takes nothing more. Of an array of
tables only the last one can still grow, so only it is kept. An inline table grows only between its own braces, where
dotted keys lead into any inline table that already stands there.
-/
namespace GasMachine.Toml

/-- how a table came about -/
inductive Origin where
  /-- it has its own header, or is the document itself -/
  | header
  /-- it is on the way to a table that has a header -/
  | implied
  /-- it is on the way to a dotted key -/
  | dotted
deriving DecidableEq, Repr

/-- what stands at a key -/
inductive Item where
  | text (s : String)
  | integer (n : Int)
  | skipped
  | inline (entries : List (String × Item))
  | table (origin : Origin) (entries : List (String × Item))
  | tables (last : List (String × Item))

/-- the entries of a table, in the order in which their keys appear -/
abbrev Entries := List (String × Item)

namespace Entries

/-- what stands at a key -/
def get? (es : Entries) (key : String) : Option Item := (es.find? fun e => e.1 == key).map Prod.snd

/-- the entries with an item at a key, in its place if the key is there -/
def put (es : Entries) (key : String) (item : Item) : Entries :=
  if (es.get? key).isSome then es.map fun e => if e.1 == key then (key, item) else e else es ++ [(key, item)]

/-- a new item at a key; refused if the key is taken -/
def insert (es : Entries) (key : String) (item : Item) : Option Entries :=
  if (es.get? key).isSome then none else some (es ++ [(key, item)])

/-- the entries after `act` on the table that the names of a header lead to; tables on the way are implied -/
def underHeader (act : Entries → Option Entries) : List String → Entries → Option Entries
  | [], es => act es
  | name :: rest, es =>
    match es.get? name with
    | none => (underHeader act rest []).map fun inner => es.put name (.table .implied inner)
    | some (.table origin inner) => (underHeader act rest inner).map fun inner' => es.put name (.table origin inner')
    | some (.tables last) => (underHeader act rest last).map fun last' => es.put name (.tables last')
    | some _ => none

/-- the entries after a table is opened by a header that ends in `name` -/
def openTable (name : String) (es : Entries) : Option Entries :=
  match es.get? name with
  | none => some (es ++ [(name, .table .header [])])
  | some (.table .implied inner) => some (es.put name (.table .header inner))
  | some _ => none

/-- the entries after one more table of an array is opened by a header that ends in `name` -/
def openArray (name : String) (es : Entries) : Option Entries :=
  match es.get? name with
  | none => some (es ++ [(name, .tables [])])
  | some (.tables _) => some (es.put name (.tables []))
  | some _ => none

/-- the entries after a dotted key is set: the tables on the way are dotted ones, and the last one must be -/
def insertDotted (item : Item) : (path : List String) → (key : String) → (nested allowed : Bool) → Entries →
    Option Entries
  | [], key, nested, allowed, es => if nested && !allowed then none else es.insert key item
  | name :: rest, key, _, _, es =>
    match es.get? name with
    | none => (insertDotted item rest key true true []).map fun inner => es.put name (.table .dotted inner)
    | some (.table .header _) => none
    | some (.table origin inner) =>
      (insertDotted item rest key true (origin = .dotted) inner).map fun inner' => es.put name (.table origin inner')
    | some (.tables last) => (insertDotted item rest key true false last).map fun last' => es.put name (.tables last')
    | some _ => none

/-- the entries after the key `path.key` is set in them -/
def set (es : Entries) (path : List String) (key : String) (item : Item) : Option Entries :=
  insertDotted item path key false true es

/-- the entries of an inline table after the key `path.key` is set in them: the names on the way lead into inline tables -/
def setInline (item : Item) : (path : List String) → (key : String) → Entries → Option Entries
  | [], key, es => es.insert key item
  | name :: rest, key, es =>
    match es.get? name with
    | none => (setInline item rest key []).map fun inner => es.put name (.inline inner)
    | some (.inline inner) => (setInline item rest key inner).map fun inner' => es.put name (.inline inner')
    | some _ => none

end Entries

end GasMachine.Toml
