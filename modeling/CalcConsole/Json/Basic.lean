import CalcConsole.Number.Layout
import CalcConsole.Text.Digits
/-! # JSON values

`Json` is what a text presents when it is read from left to right.  A text that goes wrong still presents all that
stands before the fault, and `broken` marks the place: an array or object that is cut short ends in a broken part.  So a
decoder that walks a value in order meets the first fault of the text where the text has it. -/
namespace CalcConsole

/-- A number as its literal gives it: an integer of 64 bits, or else a double, or else out of every range. -/
inductive Json.Number where
  | whole (n : Int)
  | real (x : Binary64)
  | beyond
deriving DecidableEq

/-- A string is `none` when one of its escapes names no character. -/
inductive Json where
  | null
  | bool (b : Bool)
  | number (n : Json.Number)
  | string (s : Option String)
  | array (items : List Json)
  | object (members : List (Option String × Json))
  | broken

namespace Json

instance : Inhabited Json := ⟨.null⟩

def text (s : String) : Json := .string (some s)

def nat (n : Nat) : Json := .number (.whole n)

def real (x : Binary64) : Json := .number (.real x)

def struct (members : List (String × Json)) : Json := .object (members.map fun m => (some m.1, m.2))

def ofOption {α : Type} (f : α → Json) : Option α → Json
  | none => .null
  | some a => f a

mutual

/-- Whether the value has no broken part: the text that presents it is JSON up to its end. -/
def intact : Json → Bool
  | .null | .bool _ | .number _ | .string _ => true
  | .array items => intactItems items
  | .object members => intactMembers members
  | .broken => false

def intactItems : List Json → Bool
  | [] => true
  | v :: vs => intact v && intactItems vs

def intactMembers : List (Option String × Json) → Bool
  | [] => true
  | m :: ms => intact m.2 && intactMembers ms

end

mutual

/-- Whether the value can be kept as it stands: intact, every string and number readable, and nested no deeper than
`room` allows. -/
def storable : (room : Nat) → Json → Bool
  | _, .null | _, .bool _ => true
  | _, .number n => n != .beyond
  | _, .string s => s.isSome
  | room, .array items => 1 < room && storableItems (room - 1) items
  | room, .object members => 1 < room && storableMembers (room - 1) members
  | _, .broken => false

def storableItems : (room : Nat) → List Json → Bool
  | _, [] => true
  | room, v :: vs => storable room v && storableItems room vs

def storableMembers : (room : Nat) → List (Option String × Json) → Bool
  | _, [] => true
  | room, m :: ms => m.1.isSome && storable room m.2 && storableMembers room ms

end

end Json
end CalcConsole
