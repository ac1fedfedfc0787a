import CalcConsole.Command.Arguments
import CalcConsole.Command.Run
import CalcConsole.Log.Filter
/-! # The program

One run from the words of the command line to the exit code.  The settings come first, then the warnings about them, and
then the command.  What a run logs are the events of the program, without those of the libraries that it calls. -/
namespace CalcConsole
namespace Program

/-- How a run ends: the exit code, and what is written on the two outputs. -/
structure Ending where
  code : Nat
  out : String
  err : String
deriving DecidableEq, Repr

def usage : String :=
  "Usage: daec [--format <FORMAT>] <open|expressions|operations|agents|login|register|logout|status|config>\n"

def ending (filter : LogFilter) (r : Result) (t : List Printed) : Ending :=
  let err := Transcript.errWith filter.shows t
  match r with
  | .ok exit => ⟨exit.code, Transcript.out t, err⟩
  | .error e => ⟨1, Transcript.out t, err ++ "Error: " ++ e.report ++ "\n"⟩

def warningEvents (ws : List ConfigWarning) : List Event := ws.map fun w => .configProblem w.path? w.message

def filterVariable : String := "RUST_LOG"

def run (s : Surroundings) (words : List String) (k : Console Disk) : Ending × Console Disk :=
  match Arguments.request s.lookup words with
  | .refused => (⟨2, "", usage⟩, k)
  | .help => (⟨0, usage, ""⟩, k)
  | .run format command =>
    let (config, warnings) := Config.load s k.store
    let filter := LogFilter.choose (s.lookup filterVariable) config.logLevel
    let (r, k) := command.run s ⟨false, format⟩ config (k.noteAll (warningEvents warnings))
    (ending filter r k.transcript, k)

end Program
end CalcConsole
