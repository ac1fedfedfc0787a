import CalcConsole.Command.Basic
/-! # The command line

The words of a command line name a command by one word or two, with options before, between and behind them.  After the
word `--` there are no options and no names any more.  A word is judged when it is reached, so of two faults the first
one counts, and a call for help counts if no fault stands before it. -/
namespace CalcConsole
namespace Arguments

/-- What may follow a name of one word or two. -/
structure Place where
  /-- Options with a value. -/
  valued : List String
  /-- Options without a value. -/
  flags : List String
  /-- The tests of the words that are no options. -/
  operands : List (String → Bool)
  /-- The names that may follow. -/
  names : List String

/-- The option that is known everywhere. -/
def formatOption : String := "format"

def anyWord (_ : String) : Bool := true

def place (path : List String) : Place :=
  match path with
  | [] => ⟨[formatOption], [], [],
      ["open", "expressions", "operations", "agents", "login", "register", "logout", "status", "config"]⟩
  | ["open"] => ⟨[formatOption], [], [fun w => (ViewName.ofWord? w).isSome], []⟩
  | ["expressions"] => ⟨[formatOption], [], [], ["list", "submit"]⟩
  | ["expressions", "submit"] => ⟨[formatOption], [], [anyWord], []⟩
  | ["operations"] => ⟨[formatOption], [], [], ["list", "set"]⟩
  | ["operations", "set"] => ⟨[formatOption], [], [anyWord, fun w => (Text.readU64? w).isSome], []⟩
  | ["login"] | ["register"] => ⟨[formatOption, "email", "password"], [], [], []⟩
  | ["config"] => ⟨[formatOption], [], [], ["show", "init", "set", "reset"]⟩
  | ["config", "init"] => ⟨[formatOption], ["force"], [], []⟩
  | ["config", "set"] => ⟨[formatOption], [], [anyWord, anyWord], []⟩
  | _ => ⟨[formatOption], [], [], []⟩

/-- What has been read of a command line. -/
structure Found where
  path : List String
  /-- All options with their values, the last one first; a flag has an empty value. -/
  options : List (String × String)
  /-- The options since the last name, each of which may come once. -/
  here : List String
  operands : List String
  /-- Whether the word `--` has been read. -/
  plain : Bool
deriving DecidableEq

inductive Reading where
  | found (f : Found)
  | help
  | refused
deriving DecidableEq

def Found.start : Found := ⟨[], [], [], [], false⟩

def Found.here? (f : Found) (name : String) : Bool := f.here.contains name

def Found.addOption (f : Found) (name value : String) : Found :=
  { f with options := (name, value) :: f.options, here := name :: f.here }

def Found.enter (f : Found) (name : String) : Found := { f with path := f.path ++ [name], here := [], operands := [] }

/-- Takes a word that is neither an option nor a name. -/
def Found.addOperand? (f : Found) (w : String) : Option Found :=
  match (place f.path).operands[f.operands.length]? with
  | some test => if test w then some { f with operands := f.operands ++ [w] } else none
  | none => none

/-- Whether a word looks like an option, and so is no value. -/
def isDashed (w : String) : Bool :=
  match w.toList with
  | '-' :: _ :: _ => true
  | _ => false

/-- The name of an option with two dashes, and the value behind an equals sign. -/
def longOption? (w : String) : Option (String × Option String) :=
  match w.toList with
  | '-' :: '-' :: cs =>
    some (String.ofList (cs.takeWhile (· ≠ '=')), match cs.dropWhile (· ≠ '=') with
      | _ :: value => some (String.ofList value)
      | [] => none)
  | _ => none

def helpOn (path : List String) : List String → Reading
  | [] => .help
  | w :: ws =>
    let names := (place path).names
    if names.contains w then helpOn (path ++ [w]) ws
    else if w = "help" ∧ names ≠ [] then if ws.isEmpty then .help else .refused
    else .refused

def read (f : Found) : List String → Reading
  | [] => .found f
  | w :: ws =>
    if f.plain then
      match f.addOperand? w with
      | some f => read f ws
      | none => .refused
    else if (place f.path).names.contains w then read (f.enter w) ws
    else if w = "help" ∧ (place f.path).names ≠ [] then helpOn f.path ws
    else if w = "--" then read { f with plain := true } ws
    else match longOption? w with
      | some (name, some value) =>
        if (place f.path).valued.contains name && !f.here? name then read (f.addOption name value) ws else .refused
      | some (name, none) =>
        if name = "help" then .help
        else if f.here? name then .refused
        else if (place f.path).flags.contains name then read (f.addOption name "") ws
        else if (place f.path).valued.contains name then
          match ws with
          | value :: ws => if isDashed value then .refused else read (f.addOption name value) ws
          | [] => .refused
        else .refused
      | none =>
        if isDashed w then if w.toList[1]? = some 'h' then .help else .refused
        else match f.addOperand? w with
          | some f => read f ws
          | none => .refused

/-! ## What the words mean -/

def Found.value? (f : Found) (name : String) : Option String := (f.options.find? (·.1 = name)).map (·.2)

/-- The variable that holds the password of a user who does not want it on the command line. -/
def passwordVariable : String := "DAEC_PASSWORD"

def Found.credentials? (f : Found) (lookup : String → Option String) : Option Credentials := do
  return ⟨← f.value? "email", ← (f.value? "password").or (lookup passwordVariable)⟩

def Found.command? (f : Found) (lookup : String → Option String) : Option Command :=
  match f.path, f.operands with
  | ["open"], [] => some (.visit (.«open» none))
  | ["open"], [w] => some (.visit (.«open» (ViewName.ofWord? w)))
  | ["expressions"], [] | ["expressions", "list"], [] => some (.visit .listExpressions)
  | ["expressions", "submit"], [text] => some (.visit (.submit text))
  | ["operations"], [] | ["operations", "list"], [] => some (.visit .listOperations)
  | ["operations", "set"], [operationType, cost] =>
    (Text.readU64? cost).map fun n => .visit (.setCost operationType n)
  | ["agents"], [] => some (.visit .listAgents)
  | ["login"], [] => (f.credentials? lookup).map fun c => .visit (.login c)
  | ["register"], [] => (f.credentials? lookup).map fun c => .visit (.register c)
  | ["logout"], [] => some (.visit .logout)
  | ["status"], [] => some (.visit .status)
  | ["config", "show"], [] => some (.config .present)
  | ["config", "init"], [] => some (.config (.init (f.value? "force").isSome))
  | ["config", "set"], [key, value] => some (.config (.set key value))
  | ["config", "reset"], [] => some (.config .reset)
  | _, _ => none

inductive Request where
  | run (format : Format) (command : Command)
  | help
  | refused
deriving DecidableEq

def request (lookup : String → Option String) (words : List String) : Request :=
  match read .start words with
  | .help => .help
  | .refused => .refused
  | .found f =>
    match f.command? lookup with
    | some c => .run (.ofWord (f.value? formatOption)) c
    | none => .refused

end Arguments
end CalcConsole
