import CalcConsole.Config.Layers
/-! # Changing the settings of a user

The file at home can be written anew, or one key of it can be set.  A change that would leave a file that does not fit
is refused, and the file stays as it was. -/
namespace CalcConsole

inductive ConfigError where
  | present (path : String)
  | folder (cause : FileError)
  | parentFolder (cause : FileError)
  | unwritable (cause : FileError)
  | unreadable (cause : FileError)
  | malformed
  | badKey (key : String)
  | noSection (part key : String)
  | noTable (path : String)
  | notInteger (key value : String)
  | badValue (key value : String)
  | tooLarge
deriving DecidableEq, Repr

def ConfigError.message : ConfigError → String
  | present path => "config file already exists at " ++ path ++ ". Use --force to overwrite."
  | folder _ => "failed to create ~/.daec/ directory"
  | parentFolder _ => "failed to create config directory"
  | unwritable _ => "failed to write config file"
  | unreadable _ => "failed to read config file"
  | malformed => "failed to parse config as TOML value"
  | badKey key => "invalid config key '" ++ key ++ "'"
  | noSection part key => "config key not found: section '" ++ part ++ "' in '" ++ key ++ "'"
  | noTable path => "expected table at '" ++ path ++ "'"
  | notInteger key value => "expected integer for '" ++ key ++ "', got '" ++ value ++ "'"
  | badValue key value => "invalid value '" ++ value ++ "' for '" ++ key ++ "'"
  | tooLarge => "failed to serialize effective config"

/-- What the library for the format says of a text that it does not take, in words that are left open here. -/
def formatFault : String := "<invalid TOML>"

/-- What has led to an error. -/
def ConfigError.causes : ConfigError → List String
  | present _ | badKey _ | noSection .. | noTable _ => []
  | folder cause | parentFolder cause | unwritable cause | unreadable cause => [cause.message]
  | notInteger _ value => (Text.i64Fault? value).toList
  | malformed | badValue .. | tooLarge => [formatFault]

namespace Config

def effective (c : Config) : Except ConfigError String :=
  match c.text? with
  | some text => .ok text
  | none => .error .tooLarge

/-- The mode of a file of settings when it is new. -/
def fileMode : Nat := 0o644

/-- Puts `text` into the file at `path`, in a folder that is made if it is missing, and stays when the file cannot be
written. -/
def store (noFolder : FileError → ConfigError) (cwd : Place) (path text : String) (d : Disk) :
    Except ConfigError Unit × Disk :=
  match d.makeParents cwd path with
  | .error e => (.error (noFolder e), d)
  | .ok d =>
    match d.write cwd path text.toUTF8 fileMode none with
    | .error e => (.error (.unwritable e), d)
    | .ok d => (.ok (), d)

/-- Writes the annotated settings; a file that is there gives way only by `force`. -/
def init (s : Surroundings) (force : Bool) (d : Disk) : Except ConfigError Unit × Disk :=
  if d.contains s.place s.globalFile && !force then (.error (.present s.globalFile), d)
  else store .folder s.place s.globalFile annotated d

def reset (s : Surroundings) (d : Disk) : Except ConfigError Unit × Disk := init s true d

/-! ## Setting one key -/

/-- What takes the place of `old`: an integer stays an integer, and all else becomes a text. -/
def replacement (key value : String) (old : Option Toml) : Except ConfigError Toml :=
  match old with
  | some (.integer _) =>
    match Text.readI64? value with
    | some n => .ok (.integer n)
    | none => .error (.notInteger key value)
  | _ => .ok (.string value)

/-- Sets `leaf` in the table that `path` leads to. -/
def setAt (key value : String) (sections : List String) (leaf : String) : (path : List String) → Toml →
    Except ConfigError Toml
  | [], .table es => do return .table (Toml.put leaf (← replacement key value (Toml.get? es leaf)) es)
  | [], _ => throw (.noTable (".".intercalate sections))
  | part :: path, .table es =>
    match Toml.get? es part with
    | some sub => do return .table (Toml.put part (← setAt key value sections leaf path sub) es)
    | none => throw (.noSection part key)
  | part :: _, _ => throw (.noSection part key)

def setKey (key value : String) (t : Toml) : Except ConfigError Toml :=
  let parts := Text.splitOn '.' key
  if parts.contains "" then .error (.badKey key)
  else setAt key value parts.dropLast (parts.getLast?.getD "") parts.dropLast t

/-- The text that a change starts from: the file, or else the built-in settings. -/
def currentText (s : Surroundings) (d : Disk) : Except ConfigError String :=
  if d.contains s.place s.globalFile then
    match d.readText s.place s.globalFile with
    | .ok text => .ok text
    | .error e => .error (.unreadable e)
  else .ok builtIn.tree.print

def edited (key value text : String) : Except ConfigError String :=
  match Toml.readSettled? text with
  | none => .error .malformed
  | some t =>
    match setKey key value t with
    | .error e => .error e
    | .ok t => if (ofText? t.print).isSome then .ok t.print else .error (.badValue key value)

def setValue (s : Surroundings) (key value : String) (d : Disk) : Except ConfigError Unit × Disk :=
  match (currentText s d).bind (edited key value) with
  | .error e => (.error e, d)
  | .ok text => store .parentFolder s.place s.globalFile text d

end Config
end CalcConsole
