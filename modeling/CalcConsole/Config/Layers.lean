import CalcConsole.Config.Fit
import CalcConsole.Toml.Settled
import CalcConsole.Surroundings
/-! # The layers of settings

From the lowest to the highest: the built-in settings, the file at home, the file in the working folder, and the
variables of the environment.  A file that is not TOML is left out with a warning, and so are both files when together
they do not fit. -/
namespace CalcConsole

inductive ConfigWarning where
  | malformed (path : String)
  | misfit
deriving DecidableEq, Repr

namespace ConfigWarning

def path? : ConfigWarning → Option String
  | malformed path => some path
  | misfit => none

def message : ConfigWarning → String
  | malformed _ => "ignoring malformed config file: invalid TOML"
  | misfit => "config files disagree with the schema, using defaults: a setting has a value of the wrong kind"

def display (w : ConfigWarning) : String :=
  match w.path? with
  | some path => path ++ ": " ++ w.message
  | none => w.message

end ConfigWarning

def ClearInput.ofWord? (s : String) : Option ClearInput :=
  let w := Text.lowerAscii s
  if w = "always" then some always
  else if w = "on-success" ∨ w = "on_success" ∨ w = "onsuccess" then some onSuccess
  else none

namespace Setting

def envName : Setting → String
  | baseUrl => "DAEC_API_URL"
  | timeoutMs => "DAEC_API_TIMEOUT_MS"
  | sessionName => "DAEC_SESSION"
  | sessionFolder => "DAEC_SESSION_DIR"
  | clearInput => "DAEC_CLEAR_INPUT"
  | logLevel => "DAEC_LOG_LEVEL"

def nonEmpty? (s : String) : Option String := if s = "" then none else some s

def ofVariable? : (s : Setting) → String → Option s.Value
  | .baseUrl, v | .sessionName, v | .logLevel, v => nonEmpty? v
  | .timeoutMs, v => Text.readU64? v
  | .sessionFolder, v => (nonEmpty? v).map some
  | .clearInput, v => ClearInput.ofWord? v

end Setting

namespace Config

/-- The setting after its variable has been looked at. -/
def override (lookup : String → Option String) (c : Config) (s : Setting) : Config :=
  match (lookup s.envName).bind s.ofVariable? with
  | some v => c.set s v
  | none => c

def overrideAll (lookup : String → Option String) (c : Config) : Config := Setting.all.foldl (override lookup) c

/-- The tree of a file.  A file that is missing or cannot be read has none and is not worth a warning. -/
def readLayer (d : Disk) (cwd : Place) (path : String) : Option Toml × List ConfigWarning :=
  match d.readText cwd path with
  | .error _ => (none, [])
  | .ok text =>
    match Toml.readSettled? text with
    | some t => (some t, [])
    | none => (none, [.malformed path])

def mergeLayer (base : Toml) : Option Toml → Toml
  | some upper => base.merge upper
  | none => base

def ofLayers (merged : Toml) : Config × List ConfigWarning :=
  match ofTree? .layers merged with
  | some c => (c, [])
  | none => (builtIn, [.misfit])

/-- The settings that hold in the surroundings, and what was wrong with the files. -/
def load (s : Surroundings) (d : Disk) : Config × List ConfigWarning :=
  let (global, w1) := readLayer d s.place s.globalFile
  let (project, w2) := readLayer d s.place s.projectFile
  let (c, w3) := ofLayers (mergeLayer (mergeLayer (.table []) global) project)
  (c.overrideAll s.lookup, w1 ++ w2 ++ w3)

end Config
end CalcConsole
