import CalcConsole.Service.Agent
import CalcConsole.Service.Expression
/-! # What a status looks like

Every status has a colour for its icon and a description for the user. -/
namespace CalcConsole

inductive Icon where
  | black | green | yellow | red
deriving DecidableEq, Repr

def Icon.name : Icon → String
  | .black => "black"
  | .green => "green"
  | .yellow => "yellow"
  | .red => "red"

def ExpressionStatus.icon : ExpressionStatus → Icon
  | .readyForComputation => .black
  | .computing => .yellow
  | .result => .green
  | .terminated => .red

def ExpressionStatus.description : ExpressionStatus → String
  | .readyForComputation => "the expression is accepted, it will be processed soon"
  | .computing => "the expression is being processed, it will be calculated soon"
  | .result => "the expression is ready"
  | .terminated => "expression parsing error"

def AgentStatus.icon : AgentStatus → Icon
  | .running => .black
  | .sleeping => .green
  | .waiting => .yellow
  | .terminated => .red

def AgentStatus.description : AgentStatus → String
  | .running => "the server is calculating expressions and waiting for new ones"
  | .sleeping => "the server is calculating the expressions and is fully occupied"
  | .waiting => "the server is waiting for new expressions"
  | .terminated => "the server is down"

end CalcConsole
