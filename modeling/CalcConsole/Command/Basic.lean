import CalcConsole.Config.Edit
import CalcConsole.Router
import CalcConsole.Terminal
import CalcConsole.Views.Tickets
/-! # Commands

What a user can ask of the program in one run, and how the run ends.  An action that belongs to a view goes to that view
first, and the session remembers it. -/
namespace CalcConsole

inductive Format where
  | table | json
deriving DecidableEq, Repr

namespace Format

def name : Format → String
  | table => "Table"
  | json => "Json"

/-- The format that a word names; all other words, and no word, mean a table. -/
def ofWord (s : Option String) : Format := if s = some "json" then json else table

end Format

structure Screen where
  colours : Bool
  format : Format
deriving DecidableEq, Repr

def Screen.paint (s : Screen) (style : Style) (text : String) : String := style.paint s.colours text

/-- The screen for what is never printed as JSON. -/
def Screen.asTable (s : Screen) : Screen := { s with format := .table }

inductive Action where
  /-- Shows a view, or else the one that is active. -/
  | «open» (view : Option ViewName)
  | listExpressions
  | submit (text : String)
  | listOperations
  | setCost (operationType : String) (cost : Nat)
  | listAgents
  | login (credentials : Credentials)
  | register (credentials : Credentials)
  | logout
  | status
deriving DecidableEq

def Action.destination? : Action → Option ViewName
  | .«open» view => view
  | .listExpressions | .submit _ => some .expressions
  | .listOperations | .setCost .. => some .operations
  | .listAgents => some .agents
  | .login _ | .register _ => some .login
  | .logout | .status => none

inductive ConfigAction where
  | present
  | init (force : Bool)
  | set (key value : String)
  | reset
deriving DecidableEq

inductive Command where
  | visit (action : Action)
  | config (action : ConfigAction)
deriving DecidableEq

inductive Exit where
  | success | failure
deriving DecidableEq, Repr

def Exit.code : Exit → Nat
  | .success => 0
  | .failure => 1

/-- What ends a command before it has an answer. -/
inductive CommandError where
  | recordView (cause : SessionError)
  | clearToken (cause : SessionError)
  | config (cause : ConfigError)
deriving DecidableEq, Repr

namespace CommandError

def message : CommandError → String
  | recordView _ => "failed to record active view"
  | clearToken _ => "failed to clear session token"
  | config cause => cause.message

/-- What has led to an error, from the nearest on. -/
def causes : CommandError → List String
  | recordView cause | clearToken cause => [cause.message, cause.cause.message]
  | config cause => cause.causes

def indented (first margin s : String) : String := first ++ ("\n" ++ margin).intercalate (Text.splitOn '\n' s)

/-- The causes below each other, with their numbers if there are several. -/
def listed : List String → List String
  | [cause] => [indented "    " "    " cause]
  | causes => causes.zipIdx.map fun c => indented (Text.fillLeft 5 (toString c.2) ++ ": ") "       " c.1

/-- The error as the program ends with it. -/
def report (e : CommandError) : String :=
  if e.causes.isEmpty then e.message
  else e.message ++ "\n\nCaused by:\n" ++ "\n".intercalate (listed e.causes)

example : (clearToken ⟨"/work/s", .notFolder⟩).report =
    "failed to clear session token\n\nCaused by:\n    0: failed to access session file /work/s: Not a directory " ++
      "(os error 20)\n    1: Not a directory (os error 20)" := by decide +kernel

end CommandError

abbrev Result := Except CommandError Exit

/-! ## Notices -/

/-- Prints a notice: a failure beside the output, and so a success if the output is JSON. -/
def printNotice {σ : Type} (s : Screen) (n : Notice) (k : Console σ) : Console σ :=
  match n with
  | .success message =>
    let line := s.paint .good "✓" ++ " " ++ message
    if s.format = .table then k.printLine line else k.printAside line
  | .failure message => k.printAside (s.paint .bad "✗" ++ " " ++ message)

def printLines {σ : Type} (k : Console σ) (lines : List String) : Console σ := lines.foldl Console.printLine k

@[simp] theorem store_printLines {σ : Type} (lines : List String) :
    ∀ k : Console σ, (printLines k lines).store = k.store := by
  induction lines with
  | nil => intro k; rfl
  | cons s lines ih => intro k; exact ih (k.printLine s)

end CalcConsole
