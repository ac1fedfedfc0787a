import CalcConsole.Command.Basic
import CalcConsole.Views.Agents
import CalcConsole.Views.Operations
/-! # Listings

The rows of a view, as lines for a reader or as one JSON array. -/
namespace CalcConsole
namespace Listing

def print {σ : Type} (s : Screen) (items : List Json) (lines : List String) (k : Console σ) : Console σ :=
  match s.format with
  | .json => k.printLine (Json.array items).pretty
  | .table => printLines k lines

/-! ## Expressions -/

def expressionLines (s : Screen) (r : ExpressionRow) : List String :=
  ["  " ++ r.icon.glyph s.colours ++ " " ++ s.paint .strong r.title ++ " " ++
      s.paint .faint ("(" ++ r.description ++ ")"),
    "    " ++ s.paint .faint "Created:" ++ " " ++ r.createdAt.display]

def expressionsLines (s : Screen) (rows : List ExpressionRow) : List String :=
  if rows.isEmpty then
    [s.paint .warning "No expressions yet. Submit one with `daec expressions submit`."]
  else rows.flatMap (expressionLines s)

def expressions {σ : Type} (s : Screen) (rows : List ExpressionRow) (k : Console σ) : Console σ :=
  print s (rows.map (·.json)) (expressionsLines s rows) k

/-! ## Operations -/

def operationLine (operationType cost : String) : String :=
  "  " ++ Text.fillRight 20 operationType ++ " " ++ Text.fillLeft 12 cost

def rule (width : Nat) (c : Char) : String := String.ofList (List.replicate width c)

def operationsLines (s : Screen) (rows : List OperationRow) : List String :=
  if rows.isEmpty then [s.paint .warning "No operations configured."]
  else operationLine "Operation type" "Cost (sec)" :: ("  " ++ rule 33 '-') ::
    rows.map fun r => operationLine r.operation.operationType (toString r.operation.executionTime)

/-- The operations as they were fetched, without the edits. -/
def operations {σ : Type} (s : Screen) (rows : List OperationRow) (k : Console σ) : Console σ :=
  print s (rows.map (·.operation.json)) (operationsLines s rows) k

/-! ## Agents -/

def agentLines (s : Screen) (r : AgentRow) : List String :=
  ["  " ++ r.icon.glyph s.colours ++ " " ++ s.paint .strong r.title,
    "    " ++ s.paint .faint "Last ping:" ++ " " ++ r.lastPing.display,
    "    " ++ s.paint .faint "Number of parallel calculations:" ++ " " ++ toString r.parallel ++ " (" ++
      toString r.active ++ " active)",
    "    " ++ s.paint .faint "Created:" ++ " " ++ r.createdAt.display]

def agentsLines (s : Screen) (rows : List AgentRow) : List String :=
  if rows.isEmpty then [s.paint .warning "No agents registered."] else rows.flatMap (agentLines s)

def agents {σ : Type} (s : Screen) (rows : List AgentRow) (k : Console σ) : Console σ :=
  print s (rows.map (·.json)) (agentsLines s rows) k

end Listing
end CalcConsole
