import GasMachine.Fork
import GasMachine.Machine.Gas
import GasMachine.Text.Decimal
import GasMachine.Text.Quoted
import GasMachine.Toml.Document
import GasMachine.Toml.Writer
import GasMachine.Files.Tree
/-
Settings: what a run falls back on, and the file that keeps it.

The file is TOML with two keys, both of which must be there; others are ignored. TOML integers have 63 bits and a sign, so
a larger gas limit can be set but not saved. Setting a value checks it; the fork is kept in lower case. Loading makes
the file with the default settings if it is missing. `update` sets a value and saves, and the value stays set if saving
fails.
-/
namespace GasMachine

/-- what a run falls back on -/
structure Settings where
  gasLimit : UInt64
  /-- the name of the fork -/
  fork : String
deriving DecidableEq, Repr

/-- why settings cannot be changed, loaded or saved -/
inductive SettingsError where
  | unreadable (cause : Files.FileError)
  | unwritable (cause : Files.FileError)
  | malformed
  | outOfRange
  | badGasLimit (value : String)
  | unknownKey (key : String)
  | unknownFork (cause : UnknownFork)
deriving DecidableEq, Repr

/-- the sentence that reports an error -/
def SettingsError.message : SettingsError → String
  | unreadable cause => "Error: failed to read config file: " ++ cause.message
  | unwritable cause => "Error: failed to write config file: " ++ cause.message
  | malformed => "Parse error: failed to parse config file"
  | outOfRange => "Parse error: failed to serialize config: out-of-range value for u64 type"
  | badGasLimit value => "Parse error: invalid value: '" ++ value ++ "' is not a valid gas limit."
  | unknownKey key => "invalid key: '" ++ key ++ "' is not a valid configuration key."
  | unknownFork cause => "invalid fork: " ++ cause.message

namespace Settings

open Files (Tree)

/-- the settings where none have been saved -/
def default : Settings := { gasLimit := Gas.defaultLimit, fork := Fork.moon.key }

/-- the settings with the value at a key changed -/
def set (s : Settings) (key value : String) : Except SettingsError Settings :=
  if key = "gas_limit" then
    match Text.Decimal.read? value with
    | some gasLimit => .ok { s with gasLimit }
    | none => .error (.badGasLimit value)
  else if key = "fork" then
    match Fork.ofName value with
    | .ok f => .ok { s with fork := f.key }
    | .error u => .error (.unknownFork u)
  else .error (.unknownKey key)

/-- the fork that the settings name -/
def forkOf (s : Settings) : Except SettingsError Fork := (Fork.ofName s.fork).mapError .unknownFork

/-- the text of the file that keeps the settings -/
def toToml (s : Settings) : Except SettingsError String :=
  if s.gasLimit.toNat < Nat.pow 2 63 then
    .ok (String.ofList ("gas_limit = ".toList ++ Nat.toDigits 10 s.gasLimit.toNat ++ "\nfork = ".toList ++
      Toml.Writer.text s.fork.toList ++ ['\n']))
  else .error .outOfRange

/-- the settings that the entries of a document hold -/
def ofEntries (es : Toml.Entries) : Except SettingsError Settings :=
  match es.get? "gas_limit", es.get? "fork" with
  | some (.integer (.ofNat n)), some (.text fork) => .ok { gasLimit := n.toUInt64, fork }
  | _, _ => .error .malformed

/-- the settings that a text keeps -/
def ofToml (s : String) : Except SettingsError Settings :=
  match Toml.parse s with
  | some es => ofEntries es
  | none => .error .malformed

/-- the path of the file below a home directory -/
def path (home : String) : String := Files.join (Files.join home ".lunar") "config.toml"

/-- whether there is anything at the path of the file -/
def isStored (files : Tree) (path : String) : Bool := files.contains (.ofText path)

/-- the settings written to the file -/
def save (s : Settings) (files : Tree) (path : String) : Except SettingsError Unit × Tree :=
  match s.toToml with
  | .error e => (.error e, files)
  | .ok text =>
    match files.write path text with
    | (.ok (), files') => (.ok (), files')
    | (.error e, files') => (.error (.unwritable e), files')

/-- the settings read from the file that is there -/
def reload (files : Tree) (path : String) : Except SettingsError Settings :=
  match files.read path with
  | .error e => .error (.unreadable e)
  | .ok text => ofToml text

/-- the settings read from the file, which is made if it is missing -/
def load (files : Tree) (path : String) : Except SettingsError Settings × Tree :=
  if isStored files path then (reload files path, files)
  else match default.save files path with
    | (.ok (), files') => (reload files' path, files')
    | (.error e, files') => (.error e, files')

/-- the settings with a value changed, and written to the file -/
def update (s : Settings) (files : Tree) (path key value : String) : Except SettingsError Unit × Settings × Tree :=
  match s.set key value with
  | .error e => (.error e, s, files)
  | .ok s' =>
    let (result, files') := s'.save files path
    (result, s', files')

/-- the file removed, if it is there -/
def delete (files : Tree) (path : String) : Tree := (files.remove path).2

/-- the settings shown on several lines -/
def text (s : Settings) : String :=
  "Configuration \x7b\n    gas_limit: " ++ decimal s.gasLimit.toNat ++ ",\n    fork: " ++ Text.Quoted.inDouble s.fork ++
    ",\n\x7d"

end Settings

end GasMachine
