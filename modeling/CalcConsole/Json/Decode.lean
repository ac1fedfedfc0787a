import CalcConsole.Json.Fault
import CalcConsole.Timestamp
/-! # Decoding JSON

A decoder is a function from a value to what it means or to the first `Fault`, in the order of the text.  `ofText` runs
one on a whole text, which may hold nothing behind its value. -/
namespace CalcConsole
namespace Json

abbrev Decoder (α : Type) := Json → Except Fault α

/-- Passes over a value, of which only the form is looked at. -/
def skip (v : Json) : Except Fault Unit := if v.intact then .ok () else .error .malformed

def decodeString : Decoder String
  | .string (some s) => .ok s
  | v => .error (v.unfit "a string")

def decodeBool : Decoder Bool
  | .bool b => .ok b
  | v => .error (v.unfit "a boolean")

def decodeUnit : Decoder Unit
  | .null => .ok ()
  | v => .error (v.unfit "unit")

/-- A double; integers are rounded to one. -/
def decodeReal : Decoder Binary64
  | .number (.real x) => .ok x
  | .number (.whole n) =>
    match Binary64.ofNat? n.natAbs with
    | some x => .ok (x.withSign (n < 0))
    | none => .error .malformed
  | v => .error (v.unfit "f64")

def decodeNat (bits : Nat) : Decoder Nat
  | .number (.whole n) =>
    if 0 ≤ n ∧ n < twoTo bits then .ok n.toNat else .error (.outOfRange n ("u" ++ toString bits))
  | v => .error (v.unfit ("u" ++ toString bits))

def toInt64? : Json → Option Int
  | .number (.whole n) => if -(signedBound : Int) ≤ n ∧ n < signedBound then some n else none
  | _ => none

def decodeTimestamp : Decoder Timestamp
  | .string (some s) =>
    match Timestamp.read? s with
    | some t => .ok t
    | none => .error .badTimestamp
  | v => .error (v.unfit "an RFC 3339 formatted date and time string")

def decodeOption {α : Type} (f : Decoder α) : Decoder (Option α)
  | .null => .ok none
  | v => (f v).map some

def decodeItems {α : Type} (f : Decoder α) : List Json → Except Fault (List α)
  | [] => .ok []
  | v :: vs => do
    let a ← f v
    let as ← decodeItems f vs
    return a :: as

def decodeList {α : Type} (f : Decoder α) : Decoder (List α)
  | .array items => decodeItems f items
  | v => .error (v.unfit "a sequence")

def variant {α : Type} (all : List (String × α)) (name : String) : Except Fault α :=
  match all.find? (·.1 = name) with
  | some a => .ok a.2
  | none => .error (.unknownVariant name (all.map (·.1)))

/-- One of several named alternatives: a string with its name, or an object whose one member has that name and the
value `null`. -/
def decodeVariant {α : Type} (all : List (String × α)) : Decoder α
  | .string (some s) => variant all s
  | .object ((some k, v) :: rest) => do
    let a ← variant all k
    decodeUnit v
    if rest.isEmpty then return a else throw .malformed
  | _ => .error .malformed

/-- The nesting that a kept value may have at the top of a text. -/
def topRoom : Nat := 128

def ofDocument {α : Type} (f : Decoder α) (d : Document) : Except Fault α :=
  match f d.value with
  | .error e => .error e
  | .ok a => if d.ended then .ok a else .error .malformed

def ofText {α : Type} (f : Decoder α) (s : String) : Except Fault α := ofDocument f (read s)

end Json
end CalcConsole
