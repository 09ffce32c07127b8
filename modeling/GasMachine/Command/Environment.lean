import GasMachine.Log.Options
/-
What the surroundings of a command say: variables that steer logs and colours, the home directory, and whether output
goes to a terminal.
-/
namespace GasMachine

/-- the surroundings of a command -/
structure Environment where
  /-- the home directory -/
  home : String
  /-- the time, as log lines write it -/
  time : String
  /-- directives for all logs -/
  logDirectives : Option String
  /-- the colour mode of logs, over that of the command line -/
  logStyle : Option String
  /-- `0` keeps targets out of log lines -/
  logTarget : Option String
  /-- colours in reports even if output is no terminal, unless it is `0` -/
  forceColours : Option String
  /-- no colours in reports -/
  noColours : Option String
  /-- `0` turns colours in reports off -/
  wantColours : Option String
  /-- whether output goes to a terminal -/
  isTerminal : Bool
deriving DecidableEq, Repr

namespace Environment

/-- whether reports have colours -/
def reportColours (env : Environment) : Bool :=
  if env.forceColours.any (· != "0") then true
  else if env.noColours.isSome then false
  else env.wantColours.all (· != "0") && env.isTerminal

/-- whether log lines on standard output have colours -/
def logColours (env : Environment) (mode : Log.ColourMode) : Bool :=
  let name := env.logStyle.getD mode.name
  if name = "never" then false else if name = "auto" then env.isTerminal else true

/-- whether log lines have targets -/
def logTargets (env : Environment) : Bool := env.logTarget.all (· != "0")

end Environment

end GasMachine
