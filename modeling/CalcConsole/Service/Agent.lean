import CalcConsole.Json.Record
import CalcConsole.Json.Printer
import CalcConsole.Service.Identifier
/-! # Agents

A server of the service that calculates, as its last sign of life shows it. -/
namespace CalcConsole

inductive AgentStatus where
  | running | waiting | sleeping | terminated
deriving DecidableEq, Repr

namespace AgentStatus

def name : AgentStatus → String
  | running => "running"
  | waiting => "waiting"
  | sleeping => "sleeping"
  | terminated => "terminated"

def all : List (String × AgentStatus) := [running, waiting, sleeping, terminated].map fun s => (s.name, s)

def json (s : AgentStatus) : Json := .text s.name

def decode : Json.Decoder AgentStatus := Json.decodeVariant all

end AgentStatus

structure Agent where
  id : Identifier
  status : AgentStatus
  parallel : Nat
  active : Nat
  lastPing : Timestamp
  createdAt : Timestamp
deriving DecidableEq

namespace Agent

inductive Field where
  | id | status | parallel | active | lastPing | createdAt
deriving DecidableEq, Repr

@[reducible] def Field.Value : Field → Type
  | .id => Identifier
  | .status => AgentStatus
  | .parallel => Nat
  | .active => Nat
  | .lastPing => Timestamp
  | .createdAt => Timestamp

def Field.key : Field → String
  | .id => "id"
  | .status => "status"
  | .parallel => "number_of_parallel_calculations"
  | .active => "number_of_active_calculations"
  | .lastPing => "last_ping"
  | .createdAt => "created_at"

def Field.decode (room : Nat) : (f : Field) → Json.Decoder f.Value
  | .id => Identifier.decode room
  | .status => AgentStatus.decode
  | .parallel => Json.decodeNat 32
  | .active => Json.decodeNat 32
  | .lastPing => Json.decodeTimestamp
  | .createdAt => Json.decodeTimestamp

def shape (room : Nat) : Json.Shape Field Field.Value where
  name := "Agent"
  fields := [.id, .status, .parallel, .active, .lastPing, .createdAt]
  key := Field.key
  alias? f := if f = .id then some "agent_id" else none
  optional f := f = .active
  decode := Field.decode room

def ofSlots (sh : Json.Shape Field Field.Value) (s : Json.Slots Field.Value) : Except Fault Agent := do
  return {
    id := ← sh.need s .id
    status := ← sh.need s .status
    parallel := ← sh.need s .parallel
    active := (s .active).getD 0
    lastPing := ← sh.need s .lastPing
    createdAt := ← sh.need s .createdAt }

/-- An agent in a value that may be nested as deep as `room`. -/
def decode (room : Nat) : Json.Decoder Agent := fun v => do
  ofSlots (shape (room - 1)) (← (shape (room - 1)).slots v)

def json (a : Agent) : Json :=
  .struct [
    ("id", a.id.json),
    ("status", a.status.json),
    ("number_of_parallel_calculations", .nat a.parallel),
    ("number_of_active_calculations", .nat a.active),
    ("last_ping", .text a.lastPing.render),
    ("created_at", .text a.createdAt.render)]

end Agent
end CalcConsole
