import CalcConsole.Service.Client
import CalcConsole.Views.Icons
import CalcConsole.Views.Tickets
/-! # The view of expressions

The list of expressions, and the line in which a new one is typed. -/
namespace CalcConsole

inductive ClearInput where
  | always | onSuccess
deriving DecidableEq, Repr

namespace ClearInput

def name : ClearInput → String
  | always => "always"
  | onSuccess => "on-success"

def all : List (String × ClearInput) := [always, onSuccess].map fun c => (c.name, c)

def decode : Json.Decoder ClearInput := Json.decodeVariant all

end ClearInput

structure ExpressionRow where
  id : Identifier
  title : String
  status : ExpressionStatus
  description : String
  icon : Icon
  result : Option Binary64
  createdAt : Timestamp
deriving DecidableEq

namespace ExpressionRow

/-- The expression with its result, or with a question mark as long as there is none to show. -/
def ofExpression (e : Expression) : ExpressionRow where
  id := e.id
  title := e.data ++ " = " ++ (match e.authoritativeResult with
    | some x => String.ofList x.plain
    | none => "?")
  status := e.status
  description := e.status.description
  icon := e.status.icon
  result := e.authoritativeResult
  createdAt := e.createdAt

def json (r : ExpressionRow) : Json :=
  .struct [
    ("id", r.id.json),
    ("title", .text r.title),
    ("status", r.status.json),
    ("description", .text r.description),
    ("result", .ofOption .real r.result),
    ("created_at", .text r.createdAt.render)]

end ExpressionRow

structure ExpressionsView where
  input : String
  expressions : List Expression
  tickets : Tickets
  clearInput : ClearInput
deriving DecidableEq

namespace ExpressionsView

variable {σ : Type}

def new (clearInput : ClearInput) : ExpressionsView := ⟨"", [], .fresh, clearInput⟩

def canSubmit (v : ExpressionsView) : Bool := !v.input.isEmpty

def rows (v : ExpressionsView) : List ExpressionRow := v.expressions.map .ofExpression

def discarded (v : ExpressionsView) : Nat := v.tickets.discarded

def beginRefresh (v : ExpressionsView) : Nat × ExpressionsView :=
  let (ticket, tickets) := v.tickets.begin
  (ticket, { v with tickets })

def inconsistencies (es : List Expression) : List Event :=
  (es.filter (!·.isConsistent)).map fun e => .inconsistentExpression e.id e.status e.isReady

def applyRefresh (v : ExpressionsView) (ticket : Nat) (answer : Except ServiceError (List Expression)) :
    Except ServiceError Applied × ExpressionsView × List Event :=
  match answer with
  | .error e => (.error e, v, [])
  | .ok expressions =>
    match v.tickets.accept ticket "expressions" with
    | (true, tickets, events) =>
      (.ok .replaced, { v with expressions, tickets }, events ++ inconsistencies expressions)
    | (false, tickets, events) => (.ok .stale, { v with tickets }, events)

def refresh (v : ExpressionsView) (c : Client) (token : Option Token) (k : Console σ) :
    Except ServiceError Applied × ExpressionsView × Console σ :=
  let (ticket, v) := v.beginRefresh
  let (answer, k) := c.listExpressions token k
  let (r, v, events) := v.applyRefresh ticket answer
  (r, v, k.noteAll events)

/-- Submits the line.  A success is followed by a fetch of the list, whose failure is only logged. -/
def submit (v : ExpressionsView) (c : Client) (token : Option Token) (k : Console σ) :
    Option Notice × ExpressionsView × Console σ :=
  if !v.canSubmit then (none, v, k)
  else
    match c.createExpression token v.input k with
    | (.error e, k) =>
      (some (.failure e.message), if v.clearInput = .always then { v with input := "" } else v, k)
    | (.ok created, k) =>
      let (r, v, k) := refresh { v with input := "" } c token (k.note (.expressionAccepted created.id))
      let k := match r with
        | .error e => k.note (.refreshAfterSubmissionFailed e.message)
        | .ok _ => k
      (some (.success ("Expression accepted: " ++ created.data)), v, k)

end ExpressionsView
end CalcConsole
