import CalcConsole.Json.Decode
/-! # Records

A `Shape` names the fields of a record, in order, with the key and the alias of each.  `scan` walks the members of an
object, or the items of an array that lists the fields in order, and fills one slot for each field.  A field may come
once, under either of its names; a key that names no field is passed over. -/
namespace CalcConsole
namespace Json

/-- What a record with fields `F` looks like, where the field `f` holds a `T f`. -/
structure Shape (F : Type) (T : F → Type) where
  name : String
  fields : List F
  key : F → String
  alias? : F → Option String
  /-- Whether an array that ends before the field leaves it out. -/
  optional : F → Bool
  decode : (f : F) → Decoder (T f)

def Slots {F : Type} (T : F → Type) := (f : F) → Option (T f)

namespace Slots

variable {F : Type} {T : F → Type}

def empty : Slots T := fun _ => none

def set [DecidableEq F] (s : Slots T) (f : F) (x : T f) : Slots T :=
  fun g => if h : g = f then some (h ▸ x) else s g

@[simp] theorem set_self [DecidableEq F] (s : Slots T) (f : F) (x : T f) : s.set f x f = some x := by simp [set]

theorem set_of_ne [DecidableEq F] (s : Slots T) {f g : F} (x : T f) (h : g ≠ f) : s.set f x g = s g := by
  simp [set, h]

end Slots

namespace Shape

variable {F : Type} {T : F → Type}

def field? (sh : Shape F T) (k : String) : Option F := sh.fields.find? fun f => sh.key f = k || sh.alias? f = some k

def described (sh : Shape F T) : String :=
  "struct " ++ sh.name ++ " with " ++ toString sh.fields.length ++
    (if sh.fields.length = 1 then " element" else " elements")

/-- Fills slots from the members of an object: all that was read, and the fault that ended it. -/
def scan [DecidableEq F] (sh : Shape F T) (s : Slots T) : List (Option String × Json) → Slots T × Option Fault
  | [] => (s, none)
  | (none, _) :: _ => (s, some .malformed)
  | (some k, v) :: rest =>
    match sh.field? k with
    | none =>
      match skip v with
      | .error e => (s, some e)
      | .ok () => scan sh s rest
    | some f =>
      if (s f).isSome then (s, some (.duplicateField (sh.key f)))
      else
        match sh.decode f v with
        | .error e => (s, some e)
        | .ok x => scan sh (s.set f x) rest

/-- Fills slots from the items of an array, from field number `i` on. -/
def fill [DecidableEq F] (sh : Shape F T) (s : Slots T) (i : Nat) : List F → List Json → Slots T × Option Fault
  | [], [] => (s, none)
  | [], _ :: _ => (s, some .malformed)
  | f :: fs, [] => if sh.optional f then fill sh s (i + 1) fs [] else (s, some (.wrongLength i sh.described))
  | f :: fs, v :: vs =>
    match sh.decode f v with
    | .error e => (s, some e)
    | .ok x => fill sh (s.set f x) (i + 1) fs vs

def gather [DecidableEq F] (sh : Shape F T) : Json → Slots T × Option Fault
  | .object members => sh.scan .empty members
  | .array items => sh.fill .empty 0 sh.fields items
  | v => (.empty, some (v.unfit ("struct " ++ sh.name)))

def slots [DecidableEq F] (sh : Shape F T) (v : Json) : Except Fault (Slots T) :=
  match sh.gather v with
  | (s, none) => .ok s
  | (_, some e) => .error e

def need (sh : Shape F T) (s : Slots T) (f : F) : Except Fault (T f) :=
  match s f with
  | some x => .ok x
  | none => .error (.missingField (sh.key f))

end Shape
end Json
end CalcConsole
