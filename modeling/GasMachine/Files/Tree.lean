import GasMachine.Files.Node
import GasMachine.Files.Path
/-
A file tree and the operations on it.

`locate` walks a path from the root or the working directory, name by name, as far as the directory that should hold its
last name; the walk fails at a name that is missing, that is a file, or that is too long to be there. The way of a walk
is kept as a trail, so that `..` leads back along it. The operations on the tree fail for the causes of `FileError`, and
give back the tree as they left it.
-/
namespace GasMachine.Files

/-- why an operation on files fails -/
inductive FileError where
  | notFound
  | alreadyThere
  | notDirectory
  | isDirectory
  | nameTooLong
  | nulInName
  | notText
  | noParent
deriving DecidableEq, Repr

/-- the sentence that reports a failure -/
def FileError.message : FileError → String
  | notFound => "No such file or directory (os error 2)"
  | alreadyThere => "File exists (os error 17)"
  | notDirectory => "Not a directory (os error 20)"
  | isDirectory => "Is a directory (os error 21)"
  | nameTooLong => "File name too long (os error 36)"
  | nulInName => "file name contained an unexpected NUL byte"
  | notText => "stream did not contain valid UTF-8"
  | noParent => "unable to create directory"

/-- the most bytes that a name may have -/
def maxNameLength : Nat := 255

/-- the most bytes that a path may have -/
def maxPathLength : Nat := 4095

/-- the directories on the way from the root to one of them, each with its name and its entries, the last one first -/
abbrev Trail := List (String × Directory)

/-- the place that a trail leads to -/
def Trail.place (trail : Trail) : List String := (trail.map Prod.fst).reverse

/-- a file tree and the directory in which relative paths start -/
structure Tree where
  /-- the entries of the root -/
  root : Directory
  /-- the place of the working directory -/
  working : List String

namespace Tree

/-- a chain of directories, each the only entry of the one before -/
def chain : List String → Directory
  | [] => []
  | name :: rest => [(name, .directory (chain rest))]

/-- a tree with one chain of directories, the last one of them the working directory -/
def withWorking (names : List String) : Tree := { root := chain names, working := names }

/-- what stands at a place -/
def node? (t : Tree) (place : List String) : Option Node := t.root.at? place

/-- the tree after what stands at a place, if anything, has become what `f` makes of it -/
def alter (t : Tree) (place : List String) (f : Option Node → Option Node) : Tree :=
  { t with root := t.root.alter f place }

/-- the tree with a node put at a place -/
def put (t : Tree) (place : List String) (n : Node) : Tree := t.alter place fun _ => some n

/-- the tree without a place and all below it -/
def erase (t : Tree) (place : List String) : Tree := t.alter place fun _ => none

/-- the tree with an empty directory at a place -/
def clear (t : Tree) (place : List String) : Tree :=
  if place.isEmpty then { t with root := [] } else t.put place (.directory [])

/-- the entries of the directory at the end of a trail -/
def entries (t : Tree) : Trail → Directory
  | [] => t.root
  | (_, es) :: _ => es

/-- what stands at a name in the directory at the end of a trail -/
def entry? (t : Tree) (trail : Trail) (name : String) : Except FileError (Option Node) :=
  if maxNameLength < name.utf8ByteSize then .error .nameTooLong else .ok ((t.entries trail).find? name)

/-- the directory that names lead to -/
def walk (t : Tree) (trail : Trail) : List String → Except FileError Trail
  | [] => .ok trail
  | name :: rest =>
    if name = "." then t.walk trail rest
    else if name = ".." then t.walk trail.tail rest
    else match t.entry? trail name with
      | .ok (some (.directory es)) => t.walk ((name, es) :: trail) rest
      | .ok (some (.file _)) => .error .notDirectory
      | .ok none => .error .notFound
      | .error e => .error e

/-- where a path leads: a directory reached through `.` or `..` or the root, or a name in a directory -/
inductive Target where
  | directory (trail : Trail)
  | entry (trail : Trail) (name : String)

/-- where names lead from the end of a trail; no names at all lead to the root -/
def locateNames (t : Tree) (trail : Trail) (names : List String) : Except FileError Target :=
  match names.getLast? with
  | none => .ok (.directory [])
  | some name =>
    if name = "." ∨ name = ".." then (t.walk trail names).map .directory
    else (t.walk trail names.dropLast).map fun trail' => .entry trail' name

/-- where a path leads -/
def locate (t : Tree) (p : Path) : Except FileError Target :=
  if p.hasNul then .error .nulInName
  else if p.isEmpty then .error .notFound
  else if maxPathLength < p.byteLength then .error .nameTooLong
  else match (if p.absolute then .ok [] else t.walk [] t.working) with
    | .error e => .error e
    | .ok start => t.locateNames start p.names

/-- what stands at the end of a path, and its place -/
def lookup (t : Tree) (p : Path) : Except FileError (List String × Node) :=
  match t.locate p with
  | .error e => .error e
  | .ok (.directory trail) => .ok (trail.place, .directory (t.entries trail))
  | .ok (.entry trail name) =>
    match t.entry? trail name with
    | .error e => .error e
    | .ok none => .error .notFound
    | .ok (some (.file content)) =>
      if p.directoryOnly then .error .notDirectory else .ok (trail.place ++ [name], .file content)
    | .ok (some n) => .ok (trail.place ++ [name], n)

/-- whether there is something at the end of a path -/
def contains (t : Tree) (p : Path) : Bool := (t.lookup p).isOk

/-- whether there is a directory at the end of a path -/
def isDirectory (t : Tree) (p : Path) : Bool :=
  match t.lookup p with
  | .ok (_, .directory _) => true
  | _ => false

/-- the content of a file -/
def content (t : Tree) (p : Path) : Except FileError ByteArray :=
  match t.lookup p with
  | .error e => .error e
  | .ok (_, .directory _) => .error .isDirectory
  | .ok (_, .file bytes) => .ok bytes

/-- the text of a file -/
def read (t : Tree) (path : String) : Except FileError String :=
  match t.content (.ofText path) with
  | .error e => .error e
  | .ok bytes =>
    match String.fromUTF8? bytes with
    | some s => .ok s
    | none => .error .notText

/-- the place of the file that a write to a path makes or changes -/
def filePlace (t : Tree) (p : Path) : Except FileError (List String) :=
  match t.locate p with
  | .error e => .error e
  | .ok (.directory _) => .error .isDirectory
  | .ok (.entry trail name) =>
    if p.directoryOnly then .error .isDirectory
    else match t.entry? trail name with
      | .error e => .error e
      | .ok (some (.directory _)) => .error .isDirectory
      | .ok _ => .ok (trail.place ++ [name])

/-- one directory made -/
def makeDirectory (t : Tree) (p : Path) : Except FileError Tree :=
  match t.locate p with
  | .error e => .error e
  | .ok (.directory _) => .error .alreadyThere
  | .ok (.entry trail name) =>
    match t.entry? trail name with
    | .error e => .error e
    | .ok (some _) => .error .alreadyThere
    | .ok none => .ok (t.put (trail.place ++ [name]) (.directory []))

/-- a directory that may have been there already -/
def settle (t : Tree) (p : Path) : Except FileError Tree → Except FileError Unit × Tree
  | .ok t' => (.ok (), t')
  | .error e => if t.isDirectory p then (.ok (), t) else (.error e, t)

/-- the first of some directories, each of which lies in the next one, made with all of them that are missing -/
def makeNested (t : Tree) : List Path → Except FileError Unit × Tree
  | [] => (.ok (), t)
  | p :: above =>
    match t.makeDirectory p with
    | .error .notFound =>
      match t.makeNested above with
      | (.ok (), t') => t'.settle p (t'.makeDirectory p)
      | (.error e, t') => (.error e, t')
    | made => t.settle p made

/-- a directory made with all that are missing above it; a path without a parent asks for nothing -/
def makeDirectories (t : Tree) (p : Path) : Except FileError Unit × Tree :=
  if p.parent?.isNone then (.ok (), t) else t.makeNested (p :: p.ancestors)

/-- a file made or overwritten, in a directory that is there -/
def overwrite (t : Tree) (p : Path) (content : ByteArray) : Except FileError Unit × Tree :=
  match t.filePlace p with
  | .error e => (.error e, t)
  | .ok place => (.ok (), t.put place (.file content))

/-- a file made or overwritten with all directories above it -/
def writeBytes (t : Tree) (path : String) (content : ByteArray) : Except FileError Unit × Tree :=
  let p := Path.ofText path
  match p.parent? with
  | none => (.error .noParent, t)
  | some parent =>
    match t.makeDirectories parent with
    | (.ok (), t') => t'.overwrite p content
    | (.error e, t') => (.error e, t')

/-- a text written to a file, with all directories above it made -/
def write (t : Tree) (path text : String) : Except FileError Unit × Tree := t.writeBytes path text.toUTF8

/-- a file opened to be written at its end, and made if it is missing -/
def openForAppend (t : Tree) (path : String) : Except FileError (List String) × Tree :=
  match t.filePlace (.ofText path) with
  | .error e => (.error e, t)
  | .ok place => (.ok place, t.alter place fun n => some (n.getD (.file .empty)))

/-- a text added at the end of the file at a place -/
def append (t : Tree) (place : List String) (text : String) : Tree :=
  t.alter place fun
    | some (.file content) => some (.file (content ++ text.toUTF8))
    | n => n

/-- a directory emptied and then removed by its path, which `.` or `..` at its end forbids; a path that leads through what
was in the directory leads nowhere by then, and counts as removed -/
def removeDirectory (t : Tree) (p : Path) (place : List String) : Bool × Tree :=
  let emptied := t.clear place
  match emptied.locate p with
  | .ok (.entry trail name) => (true, emptied.erase (trail.place ++ [name]))
  | .ok (.directory _) => (false, emptied)
  | .error e => (e = .notFound, emptied)

/-- a file or a directory with all in it removed; whether that was possible -/
def remove (t : Tree) (path : String) : Bool × Tree :=
  let p := Path.ofText path
  match t.lookup p with
  | .error _ => (false, t)
  | .ok (place, .file _) => (true, t.erase place)
  | .ok (place, .directory _) => t.removeDirectory p place

/-- the files below a place, by the names that lead to them from there, with their content -/
def filesBelow (t : Tree) (place : List String) : List (List String × ByteArray) :=
  match t.node? place with
  | some (.directory es) => (Directory.below es).filterMap fun e =>
    match e.2 with
    | .file content => some (e.1, content)
    | .directory _ => none
  | _ => []

end Tree

end GasMachine.Files
