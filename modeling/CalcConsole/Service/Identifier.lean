import CalcConsole.Json.Decode
/-! # Identifiers

The service names things by integers or by strings, and both read as the same text.  A reference that may be missing
comes as `null`, as an identifier, or as a number beside the mark whether it is valid. -/
namespace CalcConsole

structure Identifier where
  text : String
deriving DecidableEq, Repr

namespace Identifier

open Json (Decoder)

def json (i : Identifier) : Json := .text i.text

/-- The identifier that a value spells, if it is an integer of 64 bits or a string. -/
def ofJson? : Json → Option Identifier
  | .string (some s) => some ⟨s⟩
  | v => v.toInt64?.map fun n => ⟨String.ofList (Text.intChars n)⟩

def decode (room : Nat) : Decoder Identifier := fun v =>
  if !v.storable room then .error .malformed
  else match ofJson? v with
    | some i => .ok i
    | none => .error (.noAlternative "RawId")

/-- The member `Int32`, which is read before it is known to be valid, and the member `Valid`. -/
structure Reference where
  number : Option Int
  valid : Option Bool

/-- Walks the members of a reference; each of the two may come once. -/
def Reference.scan (r : Reference) : List (Option String × Json) → Option Reference
  | [] => some r
  | (k, v) :: rest =>
    if k = some "Int32" then
      if r.number.isSome then none else
        match v.toInt64? with
        | some n => scan { r with number := some n } rest
        | none => none
    else if k = some "Valid" then
      if r.valid.isSome then none else
        match v with
        | .bool b => scan { r with valid := some b } rest
        | _ => none
    else scan r rest

/-- A number with the mark whether it is valid. -/
def Reference.ofJson? : Json → Option (Int × Bool)
  | .object members =>
    match scan ⟨none, none⟩ members with
    | some ⟨some n, some b⟩ => some (n, b)
    | _ => none
  | _ => none

/-- A reference that is present but may be marked as invalid. -/
def decodeReference (room : Nat) : Decoder (Option Identifier) := fun v =>
  if !v.storable room then .error .malformed
  else match Reference.ofJson? v with
    | some (n, true) => .ok (some ⟨String.ofList (Text.intChars n)⟩)
    | some (_, false) => .ok none
    | none =>
      match ofJson? v with
      | some i => .ok (some i)
      | none => .error (.noAlternative "RawNullableId")

/-- A reference that may be missing. -/
def decodeNullable (room : Nat) : Decoder (Option Identifier)
  | .null => .ok none
  | v => decodeReference room v

end Identifier
end CalcConsole
