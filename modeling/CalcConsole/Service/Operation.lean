import CalcConsole.Json.Record
import CalcConsole.Json.Printer
import CalcConsole.Service.Identifier
/-! # Operations

An arithmetic operation and the seconds that the service takes for it. -/
namespace CalcConsole

structure Operation where
  id : Identifier
  operationType : String
  executionTime : Nat
  userId : Option Identifier
deriving DecidableEq, Repr

namespace Operation

inductive Field where
  | id | operationType | executionTime | userId
deriving DecidableEq, Repr

@[reducible] def Field.Value : Field → Type
  | .id => Identifier
  | .operationType => String
  | .executionTime => Nat
  | .userId => Option Identifier

def Field.key : Field → String
  | .id => "id"
  | .operationType => "operation_type"
  | .executionTime => "execution_time"
  | .userId => "user_id"

def Field.decode (room : Nat) : (f : Field) → Json.Decoder f.Value
  | .id => Identifier.decode room
  | .operationType => Json.decodeString
  | .executionTime => Json.decodeNat 64
  | .userId => Json.decodeOption (Identifier.decode room)

def shape (room : Nat) : Json.Shape Field Field.Value where
  name := "Operation"
  fields := [.id, .operationType, .executionTime, .userId]
  key := Field.key
  alias? f := if f = .id then some "operation_id" else none
  optional f := f = .userId
  decode := Field.decode room

def ofSlots (sh : Json.Shape Field Field.Value) (s : Json.Slots Field.Value) : Except Fault Operation := do
  return {
    id := ← sh.need s .id
    operationType := ← sh.need s .operationType
    executionTime := ← sh.need s .executionTime
    userId := (s .userId).join }

def decode (room : Nat) : Json.Decoder Operation := fun v => do
  ofSlots (shape (room - 1)) (← (shape (room - 1)).slots v)

def json (o : Operation) : Json :=
  .struct [
    ("id", o.id.json),
    ("operation_type", .text o.operationType),
    ("execution_time", .nat o.executionTime),
    ("user_id", .ofOption Identifier.json o.userId)]

end Operation
end CalcConsole
