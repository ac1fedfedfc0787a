import CalcConsole.Json.Decode
import CalcConsole.Text.Blank
/-! # The four views

Their names, as they are shown and stored, and the words by which a user may call them. -/
namespace CalcConsole

inductive ViewName where
  | expressions | operations | agents | login
deriving DecidableEq, Repr

namespace ViewName

def initial : ViewName := expressions

def all : List ViewName := [expressions, operations, agents, login]

def name : ViewName → String
  | expressions => "Expressions"
  | operations => "Operations"
  | agents => "Agents"
  | login => "Login"

/-- The view that a word names in any mix of capital and small letters: its name, or a short form of it. -/
def ofWord? (s : String) : Option ViewName :=
  let w := Text.lowerAscii s
  if w = "expressions" ∨ w = "expression" then some expressions
  else if w = "operations" ∨ w = "operation" then some operations
  else if w = "agents" ∨ w = "agent" then some agents
  else if w = "login" ∨ w = "auth" then some login
  else none

def unknownMessage (s : String) : String :=
  "unknown view '" ++ s ++ "' (expected one of: expressions, operations, agents, login)"

def json (v : ViewName) : Json := .text v.name

def decode : Json.Decoder ViewName := Json.decodeVariant (all.map fun v => (v.name, v))

end ViewName
end CalcConsole
