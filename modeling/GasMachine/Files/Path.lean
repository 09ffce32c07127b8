import GasMachine.Text.Split
/-
Paths as text, and their parts.

A path is absolute if it starts with a slash. It is kept as the pieces between its other slashes, so that its length is
known. The names of a path are the pieces that are not empty; a slash at the end asks for a directory. A piece is idle if
it leads nowhere: it is empty, or it is `.` and not the start of a relative path. `parent?` is the path up to before its
last name that is not idle; a path of idle pieces only, such as the empty path and the root, has no parent.
-/
namespace GasMachine.Files

/-- a path, cut into pieces -/
structure Path where
  absolute : Bool
  /-- the pieces between slashes, those behind the first one if the path is absolute -/
  pieces : List String
deriving DecidableEq, Repr

namespace Path

/-- the path a text denotes -/
def ofText (s : String) : Path :=
  match (Text.split '/' s.toList).map String.ofList with
  | first :: second :: rest =>
    if first = "" then { absolute := true, pieces := second :: rest }
    else { absolute := false, pieces := first :: second :: rest }
  | pieces => { absolute := false, pieces }

/-- the names along the path -/
def names (p : Path) : List String := p.pieces.filter (· != "")

/-- whether there is nothing in the path -/
def isEmpty (p : Path) : Bool := !p.absolute && p.names.isEmpty

/-- whether a slash at the end asks for a directory -/
def directoryOnly (p : Path) : Bool := p.pieces.getLast? == some ""

/-- the number of bytes in the path -/
def byteLength (p : Path) : Nat :=
  (if p.absolute then 1 else 0) + p.pieces.foldr (fun s n => s.utf8ByteSize + n) 0 + (p.pieces.length - 1)

/-- whether there is a NUL in the path, which ends any text that the file tree is asked for -/
def hasNul (p : Path) : Bool := p.pieces.any fun s => s.toList.contains '\x00'

/-- the ways to cut off pieces at the end so that one which is not idle comes last: the most pieces first, each of the
rests with its last piece first -/
def cuts (absolute : Bool) : List String → List (List String)
  | [] => []
  | s :: rest =>
    if s = "" ∨ (s = "." ∧ (absolute ∨ rest ≠ [])) then cuts absolute rest else (s :: rest) :: cuts absolute rest

/-- the paths above, the nearest first, without the root and the empty path -/
def ancestors (p : Path) : List Path :=
  ((cuts p.absolute p.pieces.reverse).drop 1).map fun pieces => { p with pieces := pieces.reverse }

/-- the path without its last name; without any, there is no parent -/
def parent? (p : Path) : Option Path :=
  match cuts p.absolute p.pieces.reverse with
  | [] => none
  | [_] => some { p with pieces := [] }
  | _ :: above :: _ => some { p with pieces := above.reverse }

end Path

/-- a name below a directory, both as text -/
def join (directory name : String) : String :=
  if directory.toList.getLast? == some '/' then directory ++ name else directory ++ "/" ++ name

end GasMachine.Files
