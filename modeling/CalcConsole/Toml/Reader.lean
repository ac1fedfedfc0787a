import CalcConsole.Toml.Lexeme
import CalcConsole.Toml.Tree
/-! # Reading TOML

A text is a list of statements, one to a line, and `read?` gives the table that they describe. -/
namespace CalcConsole
namespace Toml

open Text (dropLead?)

/-- How deep arrays and inline tables may lie in one another. -/
def maxDepth : Nat := 79

/-- A value that is neither an array nor an inline table. -/
def scalar? (cs : List Char) : Option (Toml × List Char) :=
  match cs with
  | [] => none
  | c :: _ =>
    if c = '"' ∨ c = '\'' then (string? cs).map fun r => (.string r.1, r.2)
    else if c = 't' then (dropLead? ['t', 'r', 'u', 'e'] cs).map fun r => (.boolean true, r)
    else if c = 'f' then (dropLead? ['f', 'a', 'l', 's', 'e'] cs).map fun r => (.boolean false, r)
    else
      match datetime? cs, real? cs, integer? cs with
      | some r, _, _ => some (.datetime r.1, r.2)
      | _, some r, _ => some (.real r.1, r.2)
      | _, _, some r => some (.integer r.1, r.2)
      | _, _, _ => none

mutual

/-- A value, in which arrays and inline tables lie at most `depth` deep. -/
def value? : (fuel depth : Nat) → List Char → Option (Toml × List Char)
  | 0, _, _ => none
  | fuel + 1, depth, cs =>
    match cs with
    | '[' :: cs =>
      if depth = 0 then none
      else (items? fuel (depth - 1) cs).map fun r => (.array r.1, r.2)
    | '\x7b' :: cs =>
      if depth = 0 then none
      else match skipBlanks cs with
        | '\x7d' :: cs => some (.table [], cs)
        | cs => do
          let (pairs, cs) ← pairs? fuel (depth - 1) cs
          (Statement.inlineTable? pairs).map fun t => (t, cs)
    | cs => scalar? cs

/-- The items of an array up to its bracket; a comma may follow the last. -/
def items? : (fuel depth : Nat) → List Char → Option (List Toml × List Char)
  | 0, _, _ => none
  | fuel + 1, depth, cs => do
    match ← filler? cs with
    | ']' :: cs => some ([], cs)
    | cs =>
      let (v, cs) ← value? fuel depth cs
      match ← filler? cs with
      | ',' :: cs =>
        let (vs, cs) ← items? fuel depth cs
        some (v :: vs, cs)
      | ']' :: cs => some ([v], cs)
      | _ => none

/-- The pairs of an inline table up to its brace; no comma follows the last. -/
def pairs? : (fuel depth : Nat) → List Char → Option (List (List String × String × Toml) × List Char)
  | 0, _, _ => none
  | fuel + 1, depth, cs => do
    let ((path, key), cs) ← key? maxParts cs
    let (v, cs) ← value? fuel depth (skipBlanks (← dropLead? ['='] cs))
    match skipBlanks cs with
    | ',' :: cs =>
      let (ps, cs) ← pairs? fuel depth cs
      some ((path, key, v) :: ps, cs)
    | '\x7d' :: cs => some ([(path, key, v)], cs)
    | _ => none

end

def pair? (cs : List Char) : Option (Statement × List Char) := do
  let ((path, key), cs) ← key? maxParts cs
  let cs := skipBlanks (← dropLead? ['='] cs)
  let (v, cs) ← value? (2 * cs.length + 1) maxDepth cs
  some (.pair path key v, ← lineEnd? cs)

def header? (cs : List Char) : Option (Statement × List Char) :=
  match dropLead? ['[', '['] cs with
  | some cs => do
    let ((path, key), cs) ← key? maxParts cs
    some (.item path key, ← lineEnd? (← dropLead? [']', ']'] cs))
  | none => do
    let ((path, key), cs) ← key? maxParts (← dropLead? ['['] cs)
    some (.header path key, ← lineEnd? (← dropLead? [']'] cs))

def statements? : (fuel : Nat) → List Char → Option (List Statement)
  | 0, _ => none
  | fuel + 1, cs =>
    match skipBlanks cs with
    | [] => some []
    | c :: cs =>
      if c = '#' ∨ c = '\n' ∨ c = '\r' then (lineEnd? (c :: cs)).bind (statements? fuel)
      else do
        let (s, cs) ← if c = '[' then header? (c :: cs) else pair? (c :: cs)
        let ss ← statements? fuel cs
        some (s :: ss)

/-- A text may start with the mark of its byte order. -/
def dropMark (cs : List Char) : List Char :=
  match cs with
  | '\ufeff' :: cs => cs
  | cs => cs

def readChars? (cs : List Char) : Option Toml := (statements? (cs.length + 1) (dropMark cs)).bind Statement.table?

def read? (s : String) : Option Toml := readChars? s.toList

end Toml
end CalcConsole
