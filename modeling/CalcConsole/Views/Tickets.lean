import CalcConsole.Log.Event
/-! # Tickets

Every fetch of a list takes a ticket before it starts.  Only the answer with the ticket that was given out last may
replace the list; an older one is counted and dropped. -/
namespace CalcConsole

structure Tickets where
  issued : Nat
  discarded : Nat
deriving DecidableEq, Repr

namespace Tickets

def fresh : Tickets := ⟨0, 0⟩

def begin (t : Tickets) : Nat × Tickets := (t.issued + 1, { t with issued := t.issued + 1 })

def isLatest (t : Tickets) (ticket : Nat) : Bool := ticket == t.issued

def accept (t : Tickets) (ticket : Nat) (view : String) : Bool × Tickets × List Event :=
  if t.isLatest ticket then (true, t, [])
  else (false, { t with discarded := t.discarded + 1 }, [.staleResponse view ticket t.issued])

end Tickets

inductive Applied where
  | replaced | stale
deriving DecidableEq, Repr

def Applied.name : Applied → String
  | .replaced => "replaced"
  | .stale => "stale"

inductive Notice where
  | success (message : String)
  | failure (message : String)
deriving DecidableEq, Repr

namespace Notice

def isFailure : Notice → Bool
  | .failure _ => true
  | .success _ => false

def message : Notice → String
  | .success m | .failure m => m

end Notice
end CalcConsole
