import CalcConsole.Service.Client
import CalcConsole.Views.Icons
import CalcConsole.Views.Tickets
/-! # The view of agents

The list of agents.  An agent that was seen terminated stays so; each later report of it as alive is counted. -/
namespace CalcConsole

structure AgentRow where
  id : Identifier
  status : AgentStatus
  title : String
  description : String
  icon : Icon
  lastPing : Timestamp
  parallel : Nat
  active : Nat
  createdAt : Timestamp
deriving DecidableEq

namespace AgentRow

def ofAgent (a : Agent) : AgentRow where
  id := a.id
  status := a.status
  title := "Computing server (" ++ a.status.description ++ ")"
  description := a.status.description
  icon := a.status.icon
  lastPing := a.lastPing
  parallel := a.parallel
  active := a.active
  createdAt := a.createdAt

def json (r : AgentRow) : Json :=
  .struct [
    ("id", r.id.json),
    ("status", r.status.json),
    ("title", .text r.title),
    ("description", .text r.description),
    ("last_ping", .text r.lastPing.render),
    ("parallel_calculations", .nat r.parallel),
    ("active_calculations", .nat r.active),
    ("created_at", .text r.createdAt.render)]

end AgentRow

structure AgentsView where
  agents : List Agent
  tickets : Tickets
  /-- The agents that were seen terminated. -/
  terminated : List Identifier
  /-- How often a terminated agent was reported as alive. -/
  violations : Nat
deriving DecidableEq

namespace AgentsView

variable {σ : Type}

def new : AgentsView := ⟨[], .fresh, [], 0⟩

def rows (v : AgentsView) : List AgentRow := v.agents.map .ofAgent

def beginRefresh (v : AgentsView) : Nat × AgentsView :=
  let (ticket, tickets) := v.tickets.begin
  (ticket, { v with tickets })

/-- Walks a list of reports with the agents that were seen terminated: those seen afterwards, and the reports that
contradict them. -/
def inspect (terminated : List Identifier) : List Agent → List Identifier × List Agent
  | [] => (terminated, [])
  | a :: as =>
    if a.status = .terminated then inspect (a.id :: terminated) as
    else
      let (seen, alive) := inspect terminated as
      (seen, if terminated.contains a.id then a :: alive else alive)

/-- Takes the answer to the fetch with `ticket`; a failure leaves all as it is. -/
def applyRefresh (v : AgentsView) (ticket : Nat) (answer : Except ServiceError (List Agent)) :
    Except ServiceError Applied × AgentsView × List Event :=
  match answer with
  | .error e => (.error e, v, [])
  | .ok agents =>
    match v.tickets.accept ticket "agents" with
    | (true, tickets, events) =>
      let (terminated, alive) := inspect v.terminated agents
      (.ok .replaced, ⟨agents, tickets, terminated, v.violations + alive.length⟩,
        events ++ alive.map fun a => .resurrectedAgent a.id a.status)
    | (false, tickets, events) => (.ok .stale, { v with tickets }, events)

def refresh (v : AgentsView) (c : Client) (token : Option Token) (k : Console σ) :
    Except ServiceError Applied × AgentsView × Console σ :=
  let (ticket, v) := v.beginRefresh
  let (answer, k) := c.listAgents token k
  let (r, v, events) := v.applyRefresh ticket answer
  (r, v, k.noteAll events)

end AgentsView
end CalcConsole
