/-
What stands in a file tree: directories with their entries by name, and files.

A place is a list of names that lead to a node from a directory, outermost first; `at?` looks a place up and `alter` changes
what stands there.
-/
namespace GasMachine.Files

/-- what stands at a place in the tree -/
inductive Node where
  | directory (entries : List (String × Node))
  | file (content : ByteArray)

/-- the entries of a directory -/
abbrev Directory := List (String × Node)

namespace Directory

/-- what stands at a name -/
def find? (es : Directory) (name : String) : Option Node := (List.find? (fun e => e.1 == name) es).map Prod.snd

/-- the entries with a node at a name -/
def put (es : Directory) (name : String) (n : Node) : Directory := es.filter (fun e => e.1 != name) ++ [(name, n)]

/-- the entries without a name -/
def without (es : Directory) (name : String) : Directory := es.filter fun e => e.1 != name

/-- the entries with a node at a name, or without the name -/
def assign (es : Directory) (name : String) : Option Node → Directory
  | some n => es.put name n
  | none => es.without name

/-- what stands at a place below a directory; at the empty place, the directory itself -/
def at? (es : Directory) : List String → Option Node
  | [] => some (.directory es)
  | name :: rest =>
    match es.find? name, rest with
    | n, [] => n
    | some (.directory inner), _ => at? inner rest
    | _, _ => none

/-- the entries after what stands at a place, if anything, has become what `f` makes of it; nothing changes if the names
before the last do not lead to a directory -/
def alter (f : Option Node → Option Node) (es : Directory) : List String → Directory
  | [] => es
  | name :: rest =>
    match rest, es.find? name with
    | [], n => es.assign name (f n)
    | _, some (.directory inner) => es.put name (.directory (alter f inner rest))
    | _, _ => es

end Directory

mutual

/-- a node and all below it, each with the place that leads to it -/
def Node.all : Node → List (List String × Node)
  | .file content => [([], .file content)]
  | .directory es => ([], .directory es) :: Directory.below es

/-- all below a directory, each with the place that leads to it -/
def Directory.below : List (String × Node) → List (List String × Node)
  | [] => []
  | (name, n) :: rest => n.all.map (fun e => (name :: e.1, e.2)) ++ Directory.below rest

end

end GasMachine.Files
