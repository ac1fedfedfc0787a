import CalcConsole.Json.Basic
import CalcConsole.Text.Hex
/-! # Writing JSON

Two forms of the same value: `compact` without a blank, `pretty` with one member or item to a line.  A string escapes
the quote, the backslash and the control characters below the space, and holds all other characters as they are. -/
namespace CalcConsole
namespace Json

open Text (hexLower)

def escapedChar (c : Char) : List Char :=
  if c = '"' then ['\\', '"']
  else if c = '\\' then ['\\', '\\']
  else if c = '\x08' then ['\\', 'b']
  else if c = '\t' then ['\\', 't']
  else if c = '\n' then ['\\', 'n']
  else if c = '\x0c' then ['\\', 'f']
  else if c = '\r' then ['\\', 'r']
  else if c.toNat < 0x20 then ['\\', 'u', '0', '0', hexLower (c.toNat / 16), hexLower (c.toNat % 16)]
  else [c]

def stringChars (cs : List Char) : List Char := '"' :: cs.flatMap escapedChar ++ ['"']

def numberChars : Number → List Char
  | .whole n => Text.intChars n
  | .real x => x.marked
  | .beyond => []

def keyChars (k : Option String) : List Char := stringChars ((k.getD "").toList)

mutual

def compactChars : Json → List Char
  | .null => ['n', 'u', 'l', 'l']
  | .bool true => ['t', 'r', 'u', 'e']
  | .bool false => ['f', 'a', 'l', 's', 'e']
  | .number n => numberChars n
  | .string s => keyChars s
  | .array items => '[' :: compactItems items ++ [']']
  | .object members => '\x7b' :: compactMembers members ++ ['\x7d']
  | .broken => []

def compactItems : List Json → List Char
  | [] => []
  | [v] => compactChars v
  | v :: vs => compactChars v ++ ',' :: compactItems vs

def compactMembers : List (Option String × Json) → List Char
  | [] => []
  | [m] => keyChars m.1 ++ ':' :: compactChars m.2
  | m :: ms => keyChars m.1 ++ ':' :: compactChars m.2 ++ ',' :: compactMembers ms

end

def newLine (depth : Nat) : List Char := '\n' :: List.replicate (2 * depth) ' '

mutual

/-- The value with two blanks of indent for each level; an empty array or object stays on its line. -/
def prettyChars : (depth : Nat) → Json → List Char
  | _, .array [] => ['[', ']']
  | depth, .array items => '[' :: prettyItems (depth + 1) items ++ newLine depth ++ [']']
  | _, .object [] => ['\x7b', '\x7d']
  | depth, .object members => '\x7b' :: prettyMembers (depth + 1) members ++ newLine depth ++ ['\x7d']
  | _, v => compactChars v

def prettyItems : (depth : Nat) → List Json → List Char
  | _, [] => []
  | depth, [v] => newLine depth ++ prettyChars depth v
  | depth, v :: vs => newLine depth ++ prettyChars depth v ++ ',' :: prettyItems depth vs

def prettyMembers : (depth : Nat) → List (Option String × Json) → List Char
  | _, [] => []
  | depth, [m] => newLine depth ++ keyChars m.1 ++ ':' :: ' ' :: prettyChars depth m.2
  | depth, m :: ms =>
    newLine depth ++ keyChars m.1 ++ ':' :: ' ' :: prettyChars depth m.2 ++ ',' :: prettyMembers depth ms

end

def compact (v : Json) : String := String.ofList (compactChars v)

def pretty (v : Json) : String := String.ofList (prettyChars 0 v)

/-! ## One member for each key -/

/-- Puts a member in the order of the keys; a member with the same key gives way. -/
def putMember (k : Option String) (v : Json) : List (Option String × Json) → List (Option String × Json)
  | [] => [(k, v)]
  | m :: ms =>
    if m.1 = k then (k, v) :: ms
    else if k.getD "" < m.1.getD "" then (k, v) :: m :: ms
    else m :: putMember k v ms

mutual

/-- The value with the members of its objects in the order of their keys, the last one of each key. -/
def sorted : Json → Json
  | .array items => .array (sortedItems items)
  | .object members => .object (sortedMembers [] members)
  | v => v

def sortedItems : List Json → List Json
  | [] => []
  | v :: vs => sorted v :: sortedItems vs

def sortedMembers (done : List (Option String × Json)) :
    List (Option String × Json) → List (Option String × Json)
  | [] => done
  | m :: ms => sortedMembers (putMember m.1 (sorted m.2) done) ms

end

end Json
end CalcConsole
