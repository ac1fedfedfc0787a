import CalcConsole.Service.Client
import CalcConsole.Views.Tickets
/-! # The view of operations

One row for each operation, whose cost the user may edit and save.  An edit that is not saved survives a fetch of the
list. -/
namespace CalcConsole

structure OperationRow where
  operation : Operation
  /-- The cost that the user has set; at first the one that was fetched. -/
  edited : Nat
deriving DecidableEq, Repr

namespace OperationRow

def ofOperation (o : Operation) : OperationRow := ⟨o, o.executionTime⟩

def isDirty (r : OperationRow) : Bool := r.edited != r.operation.executionTime

end OperationRow

structure OperationsView where
  rows : List OperationRow
  tickets : Tickets
deriving DecidableEq, Repr

namespace OperationsView

variable {σ : Type}

def new : OperationsView := ⟨[], .fresh⟩

def hasType (operationType : String) (r : OperationRow) : Bool := r.operation.operationType == operationType

def row? (v : OperationsView) (operationType : String) : Option OperationRow := v.rows.find? (hasType operationType)

/-- The rows with the cost of the first one of a type set to `value`. -/
def editRows (operationType : String) (value : Nat) : List OperationRow → List OperationRow
  | [] => []
  | r :: rs => if hasType operationType r then { r with edited := value } :: rs
    else r :: editRows operationType value rs

/-- Sets a cost; `false` says that there is no such type. -/
def edit (v : OperationsView) (operationType : String) (value : Nat) : Bool × OperationsView :=
  ((v.row? operationType).isSome, { v with rows := editRows operationType value v.rows })

def isDirty (v : OperationsView) (operationType : String) : Bool :=
  (v.row? operationType).any OperationRow.isDirty

def beginRefresh (v : OperationsView) : Nat × OperationsView :=
  let (ticket, tickets) := v.tickets.begin
  (ticket, { v with tickets })

/-- The edit that is not saved for an identifier; of several the last. -/
def pendingEdit? (rows : List OperationRow) (id : Identifier) : Option Nat :=
  (rows.reverse.find? fun r => r.isDirty && r.operation.id == id).map (·.edited)

/-- The row of an operation that was fetched, with the edit that the old rows hold for it. -/
def carryOver (old : List OperationRow) (o : Operation) : OperationRow :=
  ⟨o, (pendingEdit? old o.id).getD o.executionTime⟩

def applyRefresh (v : OperationsView) (ticket : Nat) (answer : Except ServiceError (List Operation)) :
    Except ServiceError Applied × OperationsView × List Event :=
  match answer with
  | .error e => (.error e, v, [])
  | .ok operations =>
    match v.tickets.accept ticket "operations" with
    | (true, tickets, events) => (.ok .replaced, ⟨operations.map (carryOver v.rows), tickets⟩, events)
    | (false, tickets, events) => (.ok .stale, { v with tickets }, events)

def refresh (v : OperationsView) (c : Client) (token : Option Token) (k : Console σ) :
    Except ServiceError Applied × OperationsView × Console σ :=
  let (ticket, v) := v.beginRefresh
  let (answer, k) := c.listOperations token k
  let (r, v, events) := v.applyRefresh ticket answer
  (r, v, k.noteAll events)

/-- Saves the edited cost of the first row of a type.  A success is followed by a fetch of the list, whose failure is
only logged. -/
def save (v : OperationsView) (c : Client) (token : Option Token) (operationType : String) (k : Console σ) :
    Option Notice × OperationsView × Console σ :=
  match (v.row? operationType).filter OperationRow.isDirty with
  | none => (none, v, k)
  | some row =>
    match c.updateOperation token operationType row.edited k with
    | (.error e, k) => (some (.failure e.message), v, k)
    | (.ok updated, k) =>
      let (r, v, k) := v.refresh c token (k.note (.operationUpdated updated.operationType updated.executionTime))
      let k := match r with
        | .error e => k.note (.refreshAfterUpdateFailed e.message)
        | .ok _ => k
      (some (.success (updated.operationType ++ " now takes " ++ toString updated.executionTime ++ "s")), v, k)

end OperationsView
end CalcConsole
