import GasMachine.Command.Program
import GasMachine.Log.Stamp
import Std.Time.DateTime.Timestamp
/-
The command line.

What the program may touch is looked up before it runs: the settings file, the log file, and the directories above them.
It then runs on that part of the file tree, and what it has made or changed there is written back.
-/
namespace GasMachine.Command

open Files (Directory Node Path Tree)

/-- the paths that a command may read or write -/
def touched (env : Environment) (args : List String) : List String :=
  let settings := Settings.path env.home
  match read args with
  | .ok ⟨logging, _⟩ =>
    match logging.fileDirectory with
    | some directory => [settings, Files.join directory Log.fileName]
    | none => [settings]
  | .error _ => []

/-- the place that a name leads to from another -/
def stepInto (here : List String) (name : String) : List String :=
  if name = "." then here else if name = ".." then here.dropLast else here ++ [name]

/-- every place on the way along names -/
def placesAlong (here : List String) : List String → List (List String)
  | [] => []
  | name :: rest => stepInto here name :: placesAlong (stepInto here name) rest

/-- every place on the way along a path -/
def placesOf (working : List String) (p : Path) : List (List String) :=
  placesAlong (if p.absolute then [] else working) p.names

/-- the text of a place -/
def placeText (place : List String) : String := "/" ++ String.intercalate "/" place

/-- what stands at a place -/
def observe (place : List String) : IO (Option Node) := do
  try
    let path ← IO.FS.realPath (placeText place)
    if ← path.isDir then return some (.directory [])
    return some (.file (← IO.FS.readBinFile path))
  catch _ => return none

/-- a node that was seen, in place of what is known; what is known of a directory is kept -/
def merge (seen : Option Node) (known : Option Node) : Option Node :=
  match known with
  | some (.directory es) => some (.directory es)
  | _ => seen

/-- the tree with what stands at some places -/
def survey (places : List (List String)) (t : Tree) : IO Tree :=
  places.foldlM (fun t place => do return t.alter place (merge (← observe place))) t

/-- one node written -/
def writeNode (place : List String) : Node → IO Unit
  | .directory _ => IO.FS.createDirAll (placeText place)
  | .file content => IO.FS.writeBinFile (placeText place) content

/-- whether a node is what stood there before -/
def unchanged : Node → Option Node → Bool
  | .directory _, some (.directory _) => true
  | .file new, some (.file old) => new == old
  | _, _ => false

/-- the nodes that were made or changed, written -/
def writeBack (before after : Tree) : IO Unit :=
  (Directory.below after.root).forM fun e => if unchanged e.2 (before.node? e.1) then pure () else writeNode e.1 e.2

/-- the surroundings of this command -/
def surroundings : IO Environment := do
  let now := (← Std.Time.Timestamp.now).val
  return {
    home := (← IO.getEnv "HOME").getD ""
    time := Log.stamp now.second.val.toNat (now.nano.val.toNat / 1000)
    logDirectives := ← IO.getEnv "RUST_LOG"
    logStyle := ← IO.getEnv "RUST_LOG_STYLE"
    logTarget := ← IO.getEnv "RUST_LOG_TARGET"
    forceColours := ← IO.getEnv "CLICOLOR_FORCE"
    noColours := ← IO.getEnv "NO_COLOR"
    wantColours := ← IO.getEnv "CLICOLOR"
    isTerminal := ← (← IO.getStdout).isTty }

end GasMachine.Command

open GasMachine Command in
/-- the program -/
def main (args : List String) : IO UInt32 := do
  let env ← surroundings
  let working := (Files.Path.ofText (← IO.currentDir).toString).names
  let places := (touched env args).flatMap fun path => placesOf working (.ofText path)
  let before ← survey places (.withWorking working)
  let done := invoke env before args
  writeBack before done.files
  IO.print done.stdout
  IO.eprint done.stderr
  return done.exit.toUInt32
