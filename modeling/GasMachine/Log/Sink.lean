import GasMachine.Command.Environment
import GasMachine.Log.Directive
import GasMachine.Files.Tree
/-
Sinks: where log lines go.

There is one on standard output, and one in a file if a directory is given for it. Without directives from the
environment, standard output falls back on the verbosity, and the file on nothing but the directives of its own. The file
is opened before its filter is read, so a directive that cannot be read may leave an empty file behind; in that case, and
if the file cannot be opened, there are no sinks at all.
-/
namespace GasMachine.Log

open Files (Tree)

/-- where log lines go, and which and how -/
structure Sink where
  format : Format
  filter : Filter
  colours : Bool
  targets : Bool
  /-- the place of the file, `none` for standard output -/
  file : Option (List String)

/-- the name of the log file -/
def fileName : String := "lunar.log"

/-- what starting the logs leads to: sinks, or none if something is wrong, complaints, and the files -/
structure Started where
  sinks : List Sink
  complaints : List String
  files : Tree

/-- the filter of a sink with a fallback and directives of its own -/
def filterFor (env : Environment) (fallback : Threshold) (own : String) : Except DirectiveError Filter :=
  (Filter.ofDirectives (Filter.readLossy (env.logDirectives.getD "")).1 fallback).extend own

/-- the file of a log in a directory, opened -/
def openFile (files : Tree) (directory : String) : Except Files.FileError (List String) × Tree :=
  match files.makeDirectories (.ofText directory) with
  | (.error e, files') => (.error e, files')
  | (.ok (), files') => files'.openForAppend (Files.join directory fileName)

/-- the logs started -/
def start (options : Options) (env : Environment) (files : Tree) : Started :=
  let complaints := (Filter.readLossy (env.logDirectives.getD "")).2
  match filterFor env options.threshold options.stdoutFilter with
  | .error _ => { sinks := [], complaints, files }
  | .ok filter =>
    let stdout : Sink :=
      { format := options.stdoutFormat, filter, colours := env.logColours options.colour, targets := env.logTargets,
        file := none }
    match options.fileDirectory with
    | none => { sinks := [stdout], complaints, files }
    | some directory =>
      match openFile files directory with
      | (.error _, files') => { sinks := [], complaints, files := files' }
      | (.ok place, files') =>
        match filterFor env 0 options.fileFilter with
        | .error _ => { sinks := [], complaints := complaints ++ complaints, files := files' }
        | .ok filter' =>
          let file : Sink :=
            { format := options.fileFormat, filter := filter', colours := false, targets := env.logTargets,
              file := some place }
          { sinks := [stdout, file], complaints := complaints ++ complaints, files := files' }

end GasMachine.Log
