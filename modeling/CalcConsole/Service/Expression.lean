import CalcConsole.Json.Record
import CalcConsole.Json.Printer
import CalcConsole.Service.Identifier
/-! # Expressions

An arithmetic expression that was submitted, and how far the service has come with it. -/
namespace CalcConsole

inductive ExpressionStatus where
  | readyForComputation | computing | result | terminated
deriving DecidableEq, Repr

namespace ExpressionStatus

def name : ExpressionStatus → String
  | readyForComputation => "ready_for_computation"
  | computing => "computing"
  | result => "result"
  | terminated => "terminated"

def all : List (String × ExpressionStatus) :=
  [readyForComputation, computing, result, terminated].map fun s => (s.name, s)

/-- Whether the service will not move the expression any further. -/
def isTerminal (s : ExpressionStatus) : Bool := s = result || s = terminated

def json (s : ExpressionStatus) : Json := .text s.name

def decode : Json.Decoder ExpressionStatus := Json.decodeVariant all

end ExpressionStatus

structure Expression where
  id : Identifier
  data : String
  status : ExpressionStatus
  isReady : Bool
  result : Binary64
  createdAt : Timestamp
  updatedAt : Option Timestamp
  parseDate : Option Timestamp
  parseData : Option String
  userId : Option Identifier
  agentId : Option Identifier
deriving DecidableEq

namespace Expression

/-- Whether the mark of readiness and the status say the same. -/
def isConsistent (e : Expression) : Bool := e.isReady == (e.status == .result)

def hasResult (e : Expression) : Bool := e.isReady && e.status == .result

def authoritativeResult (e : Expression) : Option Binary64 := if e.hasResult then some e.result else none

inductive Field where
  | id | data | status | isReady | result | createdAt | updatedAt | parseDate | parseData | userId | agentId
deriving DecidableEq, Repr

@[reducible] def Field.Value : Field → Type
  | .id => Identifier
  | .data => String
  | .status => ExpressionStatus
  | .isReady => Bool
  | .result => Binary64
  | .createdAt => Timestamp
  | .updatedAt => Option Timestamp
  | .parseDate => Option Timestamp
  | .parseData => Option String
  | .userId => Option Identifier
  | .agentId => Option Identifier

def Field.key : Field → String
  | .id => "id"
  | .data => "data"
  | .status => "status"
  | .isReady => "is_ready"
  | .result => "result"
  | .createdAt => "created_at"
  | .updatedAt => "updated_at"
  | .parseDate => "parse_date"
  | .parseData => "parse_data"
  | .userId => "user_id"
  | .agentId => "agent_id"

def Field.optional : Field → Bool
  | .result | .updatedAt | .parseDate | .parseData | .userId | .agentId => true
  | _ => false

def Field.decode (room : Nat) : (f : Field) → Json.Decoder f.Value
  | .id => Identifier.decode room
  | .data => Json.decodeString
  | .status => ExpressionStatus.decode
  | .isReady => Json.decodeBool
  | .result => Json.decodeReal
  | .createdAt => Json.decodeTimestamp
  | .updatedAt => Json.decodeOption Json.decodeTimestamp
  | .parseDate => Json.decodeOption Json.decodeTimestamp
  | .parseData => Json.decodeOption Json.decodeString
  | .userId => Json.decodeOption (Identifier.decode room)
  | .agentId => Identifier.decodeNullable room

def shape (room : Nat) : Json.Shape Field Field.Value where
  name := "Expression"
  fields := [.id, .data, .status, .isReady, .result, .createdAt, .updatedAt, .parseDate, .parseData, .userId,
    .agentId]
  key := Field.key
  alias? f := if f = .id then some "expression_id" else none
  optional := Field.optional
  decode := Field.decode room

def ofSlots (sh : Json.Shape Field Field.Value) (s : Json.Slots Field.Value) : Except Fault Expression := do
  return {
    id := ← sh.need s .id
    data := ← sh.need s .data
    status := ← sh.need s .status
    isReady := ← sh.need s .isReady
    result := (s .result).getD (.zero false)
    createdAt := ← sh.need s .createdAt
    updatedAt := (s .updatedAt).join
    parseDate := (s .parseDate).join
    parseData := (s .parseData).join
    userId := (s .userId).join
    agentId := (s .agentId).join }

def decode (room : Nat) : Json.Decoder Expression := fun v => do
  ofSlots (shape (room - 1)) (← (shape (room - 1)).slots v)

def json (e : Expression) : Json :=
  .struct [
    ("id", e.id.json),
    ("data", .text e.data),
    ("status", e.status.json),
    ("is_ready", .bool e.isReady),
    ("result", .real e.result),
    ("created_at", .text e.createdAt.render),
    ("updated_at", .ofOption (fun t => .text t.render) e.updatedAt),
    ("parse_date", .ofOption (fun t => .text t.render) e.parseDate),
    ("parse_data", .ofOption .text e.parseData),
    ("user_id", .ofOption Identifier.json e.userId),
    ("agent_id", .ofOption Identifier.json e.agentId)]

end Expression
end CalcConsole
