import CalcConsole.Toml.Printer
import CalcConsole.Views.Expressions
/-! # Settings

There are six settings in four sections.  A `Config` holds one value for each; `get` and `set` reach them by name, so
that a rule for all settings is stated once. -/
namespace CalcConsole

inductive Setting where
  | baseUrl | timeoutMs | sessionName | sessionFolder | clearInput | logLevel
deriving DecidableEq, Repr

namespace Setting

def all : List Setting := [baseUrl, timeoutMs, sessionName, sessionFolder, clearInput, logLevel]

@[reducible] def Value : Setting → Type
  | baseUrl | sessionName | logLevel => String
  | timeoutMs => Nat
  | sessionFolder => Option String
  | clearInput => ClearInput

def key : Setting → String
  | baseUrl => "base_url"
  | timeoutMs => "timeout_ms"
  | sessionName => "name"
  | sessionFolder => "dir"
  | clearInput => "clear_input"
  | logLevel => "level"

end Setting

inductive ConfigSection where
  | api | session | expressions | logging
deriving DecidableEq, Repr

namespace ConfigSection

def all : List ConfigSection := [api, session, expressions, logging]

def name : ConfigSection → String
  | api => "api"
  | session => "session"
  | expressions => "expressions"
  | logging => "logging"

def settings : ConfigSection → List Setting
  | api => [.baseUrl, .timeoutMs]
  | session => [.sessionName, .sessionFolder]
  | expressions => [.clearInput]
  | logging => [.logLevel]

end ConfigSection

structure Config where
  /-- The address of the service up to its version. -/
  baseUrl : String
  /-- How long a request may take; `0` is without limit. -/
  timeoutMs : Nat
  sessionName : String
  /-- The folder of the session files, if it is not the one at home. -/
  sessionFolder : Option String
  clearInput : ClearInput
  logLevel : String
deriving DecidableEq

namespace Config

def builtIn : Config := ⟨"http://localhost:3000/v1", 10000, "default", none, .always, "warn"⟩

def get (c : Config) : (s : Setting) → s.Value
  | .baseUrl => c.baseUrl
  | .timeoutMs => c.timeoutMs
  | .sessionName => c.sessionName
  | .sessionFolder => c.sessionFolder
  | .clearInput => c.clearInput
  | .logLevel => c.logLevel

def set (c : Config) : (s : Setting) → s.Value → Config
  | .baseUrl, v => { c with baseUrl := v }
  | .timeoutMs, v => { c with timeoutMs := v }
  | .sessionName, v => { c with sessionName := v }
  | .sessionFolder, v => { c with sessionFolder := v }
  | .clearInput, v => { c with clearInput := v }
  | .logLevel, v => { c with logLevel := v }

@[simp] theorem get_set_self (c : Config) (s : Setting) (v : s.Value) : (c.set s v).get s = v := by
  cases s <;> rfl

theorem get_set_of_ne (c : Config) {s t : Setting} (v : s.Value) (h : t ≠ s) : (c.set s v).get t = c.get t := by
  cases s <;> cases t <;> simp_all [get, set]

theorem ext_get {c d : Config} (h : ∀ s, c.get s = d.get s) : c = d := by
  cases c; cases d
  simpa [get] using And.intro (h .baseUrl)
    ⟨h .timeoutMs, h .sessionName, h .sessionFolder, h .clearInput, h .logLevel⟩

/-- The settings of a new file, with notes for its reader. -/
def annotated : String :=
  "\n".intercalate [
    "# daec configuration",
    "#",
    "# Configuration hierarchy (highest precedence wins):",
    "#   1. Environment variables (DAEC_*)",
    "#   2. Project config (.daec.toml in current directory)",
    "#   3. User global config (~/.daec/config.toml)",
    "#   4. Built-in defaults",
    "",
    "[api]",
    "base_url = \"http://localhost:3000/v1\"",
    "timeout_ms = 10000                    # 0 = wait indefinitely",
    "",
    "[session]",
    "name = \"default\"                      # or DAEC_SESSION; one file per session",
    "# dir = \"/path/to/sessions\"           # defaults to ~/.daec/sessions",
    "",
    "[expressions]",
    "clear_input = \"always\"                # always | on-success",
    "",
    "[logging]",
    "level = \"warn\"                        # RUST_LOG overrides",
    ""]

/-! ## Writing -/

/-- The value of a setting in a file; a setting that is unset has none. -/
def valueOf : (s : Setting) → s.Value → Option Toml
  | .baseUrl, v | .sessionName, v | .logLevel, v => some (.string v)
  | .timeoutMs, v => some (.integer v)
  | .sessionFolder, v => v.map .string
  | .clearInput, v => some (.string v.name)

def sectionTable (c : Config) (s : ConfigSection) : Toml :=
  .table (s.settings.filterMap fun k => (valueOf k (c.get k)).map (k.key, ·))

def tree (c : Config) : Toml := .table (ConfigSection.all.map fun s => (s.name, c.sectionTable s))

/-- The settings as the text of a file, which cannot hold a number beyond 63 bits. -/
def text? (c : Config) : Option String := if c.timeoutMs < signedBound then some c.tree.print else none

end Config
end CalcConsole
