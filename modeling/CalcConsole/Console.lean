import CalcConsole.Log.Event
import CalcConsole.Service.Http
/-! # The console

All that an action of the console can change: the store that its sessions are saved in, the network, and the
transcript, which keeps events and printed texts in the order in which they came. -/
namespace CalcConsole

inductive Printed where
  | event (e : Event)
  | out (s : String)
  | err (s : String)

structure Console (σ : Type) where
  store : σ
  network : Network
  transcript : List Printed

namespace Console

variable {σ : Type}

def record (k : Console σ) (p : Printed) : Console σ := { k with transcript := k.transcript ++ [p] }

def note (k : Console σ) (e : Event) : Console σ := k.record (.event e)

def noteAll (k : Console σ) (es : List Event) : Console σ := es.foldl note k

def printLine (k : Console σ) (s : String) : Console σ := k.record (.out (s ++ "\n"))

def printAside (k : Console σ) (s : String) : Console σ := k.record (.err (s ++ "\n"))

@[simp] theorem store_record (k : Console σ) (p : Printed) : (k.record p).store = k.store := rfl

@[simp] theorem network_record (k : Console σ) (p : Printed) : (k.record p).network = k.network := rfl

@[simp] theorem store_note (k : Console σ) (e : Event) : (k.note e).store = k.store := rfl

@[simp] theorem network_note (k : Console σ) (e : Event) : (k.note e).network = k.network := rfl

@[simp] theorem store_noteAll (k : Console σ) (es : List Event) : (k.noteAll es).store = k.store := by
  induction es generalizing k with
  | nil => rfl
  | cons e es ih => exact ih (k.note e)

@[simp] theorem network_noteAll (k : Console σ) (es : List Event) : (k.noteAll es).network = k.network := by
  induction es generalizing k with
  | nil => rfl
  | cons e es ih => exact ih (k.note e)

end Console

/-! ## What a transcript shows -/

namespace Transcript

def events (t : List Printed) : List Event :=
  t.filterMap fun
    | .event e => some e
    | _ => none

def out (t : List Printed) : String :=
  String.join (t.filterMap fun
    | .out s => some s
    | _ => none)

/-- What was printed beside the output, without the log. -/
def err (t : List Printed) : String :=
  String.join (t.filterMap fun
    | .err s => some s
    | _ => none)

/-- All that goes beside the output, with the events that `shown` lets through. -/
def errWith (shown : Event → Bool) (t : List Printed) : String :=
  String.join (t.filterMap fun
    | .event e => if shown e then some (e.line ++ "\n") else none
    | .err s => some s
    | .out _ => none)

end Transcript
end CalcConsole
