import CalcConsole.Json.Printer
import CalcConsole.Service.Agent
import CalcConsole.Service.Expression
import CalcConsole.ViewName
/-! # Events

Everything that the console itself puts into its log.  Each event has a level, the part of the program that it comes from,
a message and named fields.  The libraries under the console, such as the one that sends its requests, have events of
their own, which a filter can let through beside these; they are left out here. -/
namespace CalcConsole

inductive Level where
  | error | warn | info | debug | trace
deriving DecidableEq, Repr

namespace Level

def name : Level → String
  | error => "ERROR"
  | warn => "WARN"
  | info => "INFO"
  | debug => "DEBUG"
  | trace => "TRACE"

/-- How much is shown at a level: a filter at level `n` shows the levels up to `n`. -/
def rank : Level → Nat
  | error => 1
  | warn => 2
  | info => 3
  | debug => 4
  | trace => 5

end Level

/-- The value of a field, which a line of the log shows as it is or between quotes. -/
inductive FieldValue where
  | plain (s : String)
  | quoted (s : String)
deriving DecidableEq, Repr

namespace FieldValue

def text : FieldValue → String
  | plain s => s
  | quoted s => s

def shown : FieldValue → String
  | plain s => s
  | quoted s => Text.quoted s

def ofNat (n : Nat) : FieldValue := plain (toString n)

end FieldValue

inductive Event where
  | openingSession (path : String)
  | emptySession (error : String)
  | corruptSession (path error : String)
  | unknownPage (page : Json)
  | restoredView (view : ViewName)
  | navigated (source target : ViewName)
  | requestOk (method path : String) (status : Nat)
  | requestRejected (method path : String) (status : Nat) (error : String)
  | requestFailed (method path error : String)
  | loggedIn (email : String)
  | registered (email : String) (user : Identifier)
  | staleResponse (view : String) (ticket latest : Nat)
  | inconsistentExpression (id : Identifier) (status : ExpressionStatus) (isReady : Bool)
  | resurrectedAgent (id : Identifier) (status : AgentStatus)
  | expressionAccepted (id : Identifier)
  | refreshAfterSubmissionFailed (error : String)
  | operationUpdated (operationType : String) (executionTime : Nat)
  | refreshAfterUpdateFailed (error : String)
  | submittingWithoutList (error : String)
  | configProblem (path : Option String) (message : String)

namespace Event

def level : Event → Level
  | openingSession _ | restoredView _ | requestOk .. => .debug
  | navigated .. | loggedIn _ | registered .. | expressionAccepted _ | operationUpdated .. => .info
  | _ => .warn

/-- The part of the program that a filter may name. -/
def target : Event → String
  | openingSession _ | emptySession _ | corruptSession .. | unknownPage _ => "daec::session"
  | restoredView _ | navigated .. => "daec::router"
  | requestOk .. | requestRejected .. | requestFailed .. | loggedIn _ | registered .. => "daec::api::client"
  | staleResponse .. => "daec::views::sequence"
  | inconsistentExpression .. | expressionAccepted _ | refreshAfterSubmissionFailed _ => "daec::views::expressions"
  | resurrectedAgent .. => "daec::views::agents"
  | operationUpdated .. | refreshAfterUpdateFailed _ => "daec::views::operations"
  | submittingWithoutList _ => "daec::cli"
  | configProblem .. => "daec"

def message : Event → String
  | openingSession _ => "opening session"
  | emptySession _ => "starting with an empty session"
  | corruptSession .. => "ignoring corrupt session file"
  | unknownPage _ => "ignoring unknown view in session"
  | restoredView _ => "restored active view"
  | navigated .. => "navigate"
  | requestOk .. => "request ok"
  | requestRejected .. => "request rejected"
  | requestFailed .. => "request failed"
  | loggedIn _ => "logged in"
  | registered .. => "registered"
  | staleResponse .. => "discarding stale response"
  | inconsistentExpression .. => "expression readiness disagrees with its status"
  | resurrectedAgent .. => "terminated agent reported as alive"
  | expressionAccepted _ => "expression accepted"
  | refreshAfterSubmissionFailed _ => "refresh after submission failed"
  | operationUpdated .. => "operation updated"
  | refreshAfterUpdateFailed _ => "refresh after update failed"
  | submittingWithoutList _ => "could not load expressions before submitting"
  | configProblem _ message => message

open FieldValue (plain quoted ofNat)

def fields : Event → List (String × FieldValue)
  | openingSession path => [("path", plain path)]
  | emptySession error => [("error", plain error)]
  | corruptSession path error => [("path", plain path), ("error", plain error)]
  | unknownPage page => [("page", plain page.sorted.compact)]
  | restoredView view => [("view", plain view.name)]
  | navigated source target => [("from", plain source.name), ("to", plain target.name)]
  | requestOk method path status => [("method", quoted method), ("path", quoted path), ("status", ofNat status)]
  | requestRejected method path status error =>
    [("method", quoted method), ("path", quoted path), ("status", ofNat status), ("error", plain error)]
  | requestFailed method path error => [("method", quoted method), ("path", quoted path), ("error", plain error)]
  | loggedIn email => [("email", plain email)]
  | registered email user => [("email", plain email), ("user_id", plain user.text)]
  | staleResponse view ticket latest =>
    [("view", quoted view), ("ticket", ofNat ticket), ("latest", ofNat latest)]
  | inconsistentExpression id status isReady =>
    [("id", plain id.text), ("status", plain status.name), ("is_ready", plain (toString isReady))]
  | resurrectedAgent id status => [("id", plain id.text), ("status", plain status.name)]
  | expressionAccepted id => [("id", plain id.text)]
  | refreshAfterSubmissionFailed error => [("error", plain error)]
  | operationUpdated operationType executionTime =>
    [("operation_type", plain operationType), ("execution_time", ofNat executionTime)]
  | refreshAfterUpdateFailed error => [("error", plain error)]
  | submittingWithoutList error => [("error", plain error)]
  | configProblem path _ =>
    [("path", plain (match path with
      | some p => "Some(" ++ Text.quoted p ++ ")"
      | none => "None"))]

def line (e : Event) : String :=
  " ".intercalate ([e.level.name, e.message] ++ e.fields.map fun f => f.1 ++ "=" ++ f.2.shown)

end Event
end CalcConsole
