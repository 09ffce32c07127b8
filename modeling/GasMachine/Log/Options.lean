import GasMachine.Log.Event
/-
Options of logging, as they are given on the command line.
-/
namespace GasMachine.Log

/-- when log lines have colours -/
inductive ColourMode where
  | always
  | auto
  | never
deriving DecidableEq, Repr

namespace ColourMode

/-- every mode -/
def all : List ColourMode := [always, auto, never]

/-- the name of a mode -/
def name : ColourMode → String
  | always => "always"
  | auto => "auto"
  | never => "never"

/-- the mode of a name -/
def ofName? (s : String) : Option ColourMode := all.find? fun m => m.name = s

/-- the sentence that reports a name of no mode -/
def unknownMessage (s : String) : String := "invalid color mode: " ++ s

end ColourMode

/-- options of logging -/
structure Options where
  stdoutFormat : Format
  stdoutFilter : String
  fileDirectory : Option String
  fileFormat : Format
  fileFilter : String
  colour : ColourMode
  /-- how often more detail was asked for -/
  verbosity : Nat
  quiet : Bool
deriving DecidableEq, Repr

namespace Options

/-- the options where none are given -/
def default : Options :=
  { stdoutFormat := .terminal, stdoutFilter := "", fileDirectory := none, fileFormat := .keyValue, fileFilter := "debug",
    colour := .always, verbosity := 1, quiet := false }

/-- the least grave level to show, `none` for none at all -/
def level? (o : Options) : Option Level :=
  if o.quiet then none
  else match o.verbosity with
    | 0 | 1 => some .warn
    | 2 => some .info
    | 3 => some .debug
    | _ => some .trace

/-- the rank of the least grave level to show -/
def threshold (o : Options) : Nat := match o.level? with
  | some l => l.rank
  | none => 0

/-- the name of the least grave level to show -/
def levelName (o : Options) : String := match o.level? with
  | some l => l.key
  | none => "off"

end Options

end GasMachine.Log
