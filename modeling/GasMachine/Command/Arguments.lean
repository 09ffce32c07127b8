import GasMachine.Command.Request
import GasMachine.Log.Options
/-
Arguments of the command line, read against the flags of a command.

A flag with a value takes it after an equals sign, right behind its letter, or from the next argument if that is no flag
itself. A value from the next argument is looked at only when the flag is settled: by the next flag that is known, the
next argument without a flag, or the end. A flag may be given once, apart from the one that is counted. Two dashes end
the flags. The first thing that is wrong is reported.
-/
namespace GasMachine.Command

/-- the flags -/
inductive Flag where
  | help
  | version
  | stdoutFormat
  | stdoutFilter
  | fileDirectory
  | fileFormat
  | fileFilter
  | colour
  | verbosity
  | quiet
  | bytecode
  | gas
  | fork
deriving DecidableEq, Repr

/-- what stops the reading of arguments -/
inductive Stop where
  | unknownArgument
  | invalidValue
  | conflict
  | tooManyValues
  | showHelp
  | showVersion
  | missingSubcommand
  | unknownSubcommand
deriving DecidableEq, Repr

namespace Flag

/-- whether a flag takes a value -/
def takesValue : Flag → Bool
  | help | version | verbosity | quiet => false
  | _ => true

/-- whether a value will do -/
def accepts : Flag → String → Bool
  | stdoutFormat, v | fileFormat, v => (Log.Format.ofName? v).isSome
  | colour, v => (Log.ColourMode.ofName? v).isSome
  | fileDirectory, v => v != ""
  | _, _ => true

/-- the flags of logging, by their long names -/
def logging : List (String × Flag) :=
  [("log.stdout.format", stdoutFormat), ("log.stdout.filter", stdoutFilter), ("log.file.directory", fileDirectory),
   ("log.file.format", fileFormat), ("log.file.filter", fileFilter), ("color", colour), ("verbosity", verbosity),
   ("quiet", quiet), ("silent", quiet), ("help", help)]

/-- the flags of logging that have a letter -/
def loggingLetters : List (Char × Flag) := [('v', verbosity), ('q', quiet), ('h', help)]

end Flag

/-- what a command takes -/
structure Grammar where
  long : List (String × Flag)
  short : List (Char × Flag)
  subcommands : List String
  /-- how many arguments without a flag it takes -/
  positionals : Nat

namespace Grammar

/-- the flags of logging alone -/
def logging : Grammar := { long := Flag.logging, short := Flag.loggingLetters, subcommands := [], positionals := 0 }

/-- the whole program -/
def program : Grammar :=
  { logging with
    long := ("version", .version) :: Flag.logging
    short := ('V', .version) :: Flag.loggingLetters
    subcommands := ["run", "config", "help"] }

/-- the subcommand that runs code -/
def run : Grammar :=
  { logging with
    long := [("bytecode", .bytecode), ("gas", .gas), ("fork", .fork)] ++ Flag.logging
    short := [('b', .bytecode), ('g', .gas), ('f', .fork)] ++ Flag.loggingLetters }

/-- the subcommand that shows and changes settings -/
def config : Grammar := { logging with positionals := 2 }

/-- the flag of a long name -/
def long? (g : Grammar) (name : String) : Option Flag := (g.long.find? fun e => e.1 == name).map Prod.snd

/-- the flag of a letter -/
def short? (g : Grammar) (c : Char) : Option Flag := (g.short.find? fun e => e.1 == c).map Prod.snd

end Grammar

/-- what has been read -/
structure Found where
  /-- the flags given, with their values; switches have none -/
  flags : List (Flag × String)
  /-- how often the counted flag was given -/
  count : Nat
  positionals : List String
deriving DecidableEq, Repr

namespace Found

/-- nothing -/
def nothing : Found := ⟨[], 0, []⟩

/-- whether a flag was given -/
def has (f : Found) (flag : Flag) : Bool := f.flags.any fun e => e.1 == flag

/-- the value of a flag -/
def value? (f : Found) (flag : Flag) : Option String := (f.flags.find? fun e => e.1 == flag).map Prod.snd

/-- one more flag with a value -/
def give (f : Found) (flag : Flag) (value : String) : Except Stop Found :=
  if f.has flag then .error .conflict
  else if flag.accepts value then .ok { f with flags := f.flags ++ [(flag, value)] }
  else .error .invalidValue

/-- one more flag without a value -/
def switch (f : Found) : Flag → Except Stop Found
  | .help => .error .showHelp
  | .version => .error .showVersion
  | .verbosity => .ok { f with count := f.count + 1 }
  | flag => f.give flag ""

end Found

/-- how far arguments have been read -/
structure Reading where
  found : Found
  /-- a flag that is not settled, with its value if it has come -/
  pending : Option (Flag × Option String)
  /-- whether only arguments without flags follow -/
  trailing : Bool
deriving DecidableEq, Repr

namespace Reading

/-- before the first argument -/
def start : Reading := ⟨.nothing, none, false⟩

/-- whether the next argument may be the value of a flag -/
def isWaiting (r : Reading) : Bool :=
  match r.pending with
  | some (_, none) => true
  | _ => false

/-- the pending flag settled -/
def settle (r : Reading) : Except Stop Reading :=
  match r.pending with
  | none => .ok r
  | some (_, none) => .error .invalidValue
  | some (flag, some value) => (r.found.give flag value).map fun found => { r with found, pending := none }

/-- a flag with a value that came with it -/
def attached (r : Reading) (flag : Flag) (value : String) : Except Stop Reading := do
  let r ← r.settle
  let found ← r.found.give flag value
  return { r with found }

/-- a flag whose value is yet to come -/
def await (r : Reading) (flag : Flag) : Except Stop Reading := do
  let r ← r.settle
  return { r with pending := some (flag, none) }

/-- a flag without a value -/
def switch (r : Reading) (flag : Flag) : Except Stop Reading := do
  let r ← r.settle
  let found ← r.found.switch flag
  return { r with found }

/-- a long flag, with the value behind its equals sign if there is one -/
def long (g : Grammar) (r : Reading) (name : String) (value : Option String) : Except Stop Reading :=
  match g.long? name, value with
  | none, _ => .error .unknownArgument
  | some flag, some v => if flag.takesValue then r.attached flag v else .error .tooManyValues
  | some flag, none => if flag.takesValue then r.await flag else r.switch flag

/-- letters of short flags, and behind one that takes a value the value -/
def short (g : Grammar) (r : Reading) : List Char → Except Stop Reading
  | [] => .ok r
  | c :: cs =>
    match g.short? c with
    | none => .error .unknownArgument
    | some flag =>
      if flag.takesValue then
        match cs with
        | [] => r.await flag
        | '=' :: value => r.attached flag (String.ofList value)
        | value => r.attached flag (String.ofList value)
      else match r.switch flag with
        | .ok r' => short g r' cs
        | .error e => .error e

/-- an argument that is no flag and no value of one -/
def positional (g : Grammar) (r : Reading) (arg : String) : Except Stop Reading :=
  if r.found.positionals.length < g.positionals then do
    let r ← r.settle
    return { r with found := { r.found with positionals := r.found.positionals ++ [arg] } }
  else .error (if g.subcommands.isEmpty then .unknownArgument else .unknownSubcommand)

/-- one argument that is no subcommand -/
def argument (g : Grammar) (r : Reading) (arg : String) : Except Stop Reading :=
  if r.trailing then positional g r arg
  else match arg.toList with
    | ['-', '-'] => .ok { r with trailing := true }
    | '-' :: '-' :: body =>
      let name := body.takeWhile (· != '=')
      long g r (String.ofList name) ((body.drop name.length).tail?.map String.ofList)
    | '-' :: c :: cs => short g r (c :: cs)
    | _ =>
      match r.pending with
      | some (flag, none) => .ok { r with pending := some (flag, some arg) }
      | _ => positional g r arg

/-- arguments up to a subcommand, as what was read and the subcommand with the arguments behind it -/
def arguments (g : Grammar) (r : Reading) : List String → Except Stop (Reading × Option (String × List String))
  | [] => .ok (r, none)
  | arg :: rest =>
    if !r.trailing && !r.isWaiting && g.subcommands.contains arg then .ok (r, some (arg, rest))
    else match argument g r arg with
      | .ok r' => arguments g r' rest
      | .error e => .error e

end Reading

/-- arguments of a command without subcommands -/
def readAll (g : Grammar) (args : List String) : Except Stop Found := do
  let (r, _) ← Reading.arguments g .start args
  return (← r.settle).found

/-- the options of logging; flags of `inner` win over the same ones of `outer` -/
def loggingOptions (outer inner : Found) : Log.Options :=
  let value? (flag : Flag) : Option String := (inner.value? flag).or (outer.value? flag)
  let base := Log.Options.default
  { stdoutFormat := ((value? .stdoutFormat).bind Log.Format.ofName?).getD base.stdoutFormat
    stdoutFilter := (value? .stdoutFilter).getD base.stdoutFilter
    fileDirectory := value? .fileDirectory
    fileFormat := ((value? .fileFormat).bind Log.Format.ofName?).getD base.fileFormat
    fileFilter := (value? .fileFilter).getD base.fileFilter
    colour := ((value? .colour).bind Log.ColourMode.ofName?).getD base.colour
    verbosity := if 0 < inner.count then inner.count else if 0 < outer.count then outer.count else base.verbosity
    quiet := inner.has .quiet || outer.has .quiet }

/-- the options that the flags of logging give -/
def readLogging (args : List String) : Except Stop Log.Options :=
  (readAll .logging args).map fun f => loggingOptions .nothing f

/-- what a subcommand is to do -/
inductive Task where
  | run (request : Request)
  | config (key value : String)
deriving DecidableEq, Repr

/-- what the program is to do -/
structure Invocation where
  logging : Log.Options
  task : Task
deriving DecidableEq, Repr

/-- the flags of a subcommand, and what it is to do -/
def readTask (name : String) (args : List String) : Except Stop (Found × Task) :=
  if name = "run" then do
    let f ← readAll .run args
    return (f, .run ⟨f.value? .bytecode, f.value? .gas, f.value? .fork⟩)
  else if name = "config" then do
    let f ← readAll .config args
    return (f, .config (f.positionals.getD 0 "") (f.positionals.getD 1 ""))
  else if args.length ≤ 1 ∧ args.all Grammar.program.subcommands.contains then .error .showHelp
  else .error .unknownSubcommand

/-- what the arguments of the program ask for -/
def read (args : List String) : Except Stop Invocation := do
  let (r, subcommand) ← Reading.arguments .program .start args
  match subcommand with
  | none =>
    let _ ← r.settle
    .error .missingSubcommand
  | some (name, rest) =>
    let (inner, task) ← readTask name rest
    let outer ← r.settle
    return ⟨loggingOptions outer.found inner, task⟩

end GasMachine.Command
