import CalcConsole.Toml.Reader
/-! # Settled trees

A tree that values are laid upon, or put into, is settled: its keys stand in plain order, and each table whose first key
is `dateKey` has become the date that it stands for.  Such a date is written a little more freely than one that stands
in a text by itself: a day may have a 24th hour, and an offset any minutes. -/
namespace CalcConsole
namespace Toml

open Text (dropLead?)

/-- The key by which a table stands for a date. -/
def dateKey : String := "$__toml_private_datetime"

/-- An offset of at most a day. -/
def looseOffset? (cs : List Char) : Option Offset :=
  match cs with
  | ['Z'] | ['z'] => some .utc
  | '+' :: cs => (clock? cs).map fun m => .minutes m
  | '-' :: cs => (clock? cs).map fun m => .minutes (-(m : Int))
  | _ => none
where
  clock? (cs : List Char) : Option Nat := do
    let (hours, cs) ← field? 2 0 24 cs
    let (minutes, cs) ← field? 2 0 99 (← dropLead? [':'] cs)
    if hours * 60 + minutes ≤ 1440 ∧ cs = [] then some (hours * 60 + minutes) else none

/-- A time of day alone, or a date, behind which a time may stand, and behind that an offset. -/
def looseDate? (cs : List Char) : Option Datetime :=
  if cs[2]? = some ':' then do
    let (time, cs) ← time? 24 cs
    if cs = [] then some ⟨none, some time, none⟩ else none
  else do
    let (date, cs) ← date? cs
    if cs = [] then some ⟨some date, none, none⟩
    else
      let (time, cs) ← time? 24 (← afterMark? cs)
      if cs = [] then some ⟨some date, some time, none⟩
      else (looseOffset? cs).map fun offset => ⟨some date, some time, some offset⟩

def markedDate? : Toml → Option Datetime
  | .string s => looseDate? s.toList
  | _ => none

mutual

/-- The settled tree; `none` where a table has the mark of a date and spells none.  All else in such a table is passed
over. -/
def settle? : Toml → Option Toml
  | .table [] => some (.table [])
  | .table (e :: es) =>
    if e.1 = dateKey then (markedDate? e.2).map .datetime
    else (settle? e.2).bind fun v => (settleEntries? es).map fun es => .table (put e.1 v es)
  | .array items => (settleItems? items).map .array
  | v => some v

def settleEntries? : List (String × Toml) → Option Entries
  | [] => some []
  | e :: es => (settle? e.2).bind fun v => (settleEntries? es).map fun es => put e.1 v es

def settleItems? : List Toml → Option (List Toml)
  | [] => some []
  | v :: vs => (settle? v).bind fun v => (settleItems? vs).map fun vs => v :: vs

end

def readSettled? (s : String) : Option Toml := (read? s).bind settle?

end Toml
end CalcConsole
