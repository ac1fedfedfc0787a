import CalcConsole.Toml.Basic
/-! # Tables in the making

While a text is read, each table remembers how it came to be, which decides whether it may still be added to: by its
own header, because a longer header passes through it, or by a key with dots. -/
namespace CalcConsole
namespace Toml

inductive Origin where
  | header | passed | dotted
deriving DecidableEq, Repr

inductive Draft where
  | value (v : Toml)
  | table (origin : Origin) (entries : List (String × Draft))
  /-- An array of tables, each of which has a header. -/
  | tables (items : List (List (String × Draft)))

namespace Draft

abbrev Drafts := List (String × Draft)

def find? (es : Drafts) (k : String) : Option Draft := (List.find? (·.1 = k) es).map (·.2)

/-- Puts a draft in the place of the one with the same key, or else at the end. -/
def put (k : String) (d : Draft) : Drafts → Drafts
  | [] => [(k, d)]
  | e :: es => if e.1 = k then (k, d) :: es else e :: put k d es

/-- Changes the table that `path` leads to with `f`, which learns how that table came to be.  Tables that are missing on
the way are made.  The path of a dotted key stays within tables that have no header; an array of tables is entered at
its last one. -/
def descend (dottedKey : Bool) (f : Origin → Drafts → Option Drafts) :
    (path : List String) → Origin → Drafts → Option Drafts
  | [], o, es => f o es
  | k :: path, _, es =>
    match find? es k with
    | none =>
      let o := if dottedKey then .dotted else .passed
      (descend dottedKey f path o []).map fun sub => put k (.table o sub) es
    | some (.value _) => none
    | some (.table o sub) =>
      if dottedKey && o == .header then none
      else (descend dottedKey f path o sub).map fun sub => put k (.table o sub) es
    | some (.tables items) =>
      match items.getLast? with
      | none => none
      | some sub =>
        (descend dottedKey f path .header sub).map fun sub => put k (.tables (items.dropLast ++ [sub])) es

/-- Adds `key = v` to a table, below the dotted `path`.  Only a table that dotted keys have made takes the entry of a
dotted key, and no other takes a plain one. -/
def addPair (path : List String) (key : String) (v : Toml) (o : Origin) (es : Drafts) : Option Drafts :=
  descend true (fun o es =>
    if (o == .dotted) == path.isEmpty || (find? es key).isSome then none else some (es ++ [(key, .value v)])) path o es

/-- Opens the table `key` under its own header.  One that longer headers have passed through moves to the end. -/
def openTable (key : String) (_ : Origin) (es : Drafts) : Option Drafts :=
  match find? es key with
  | none => some (es ++ [(key, .table .header [])])
  | some (.table .passed sub) => some (es.filter (·.1 ≠ key) ++ [(key, .table .header sub)])
  | some _ => none

/-- Opens one more table in the array `key`. -/
def openItem (key : String) (_ : Origin) (es : Drafts) : Option Drafts :=
  match find? es key with
  | none => some (es ++ [(key, .tables [[]])])
  | some (.tables items) => some (put key (.tables (items ++ [[]])) es)
  | some _ => none

mutual

def done : Draft → Toml
  | .value v => v
  | .table _ es => .table (doneEntries es)
  | .tables items => .array (doneItems items)

def doneEntries : List (String × Draft) → Entries
  | [] => []
  | e :: es => (e.1, done e.2) :: doneEntries es

def doneItems : List (List (String × Draft)) → List Toml
  | [] => []
  | i :: is => .table (doneEntries i) :: doneItems is

end

end Draft

/-! ## Statements -/

/-- What a line of a text can say. -/
inductive Statement where
  | pair (path : List String) (key : String) (v : Toml)
  | header (path : List String) (key : String)
  | item (path : List String) (key : String)

namespace Statement

/-- The whole tree, and the path of the header that the next pairs stand under. -/
structure State where
  root : Draft.Drafts
  under : List String

def run (s : State) : Statement → Option State
  | .pair path key v =>
    (Draft.descend false (Draft.addPair path key v) s.under .header s.root).map fun root => { s with root }
  | .header path key =>
    (Draft.descend false (Draft.openTable key) path .header s.root).map fun root => ⟨root, path ++ [key]⟩
  | .item path key =>
    (Draft.descend false (Draft.openItem key) path .header s.root).map fun root => ⟨root, path ++ [key]⟩

def runAll (s : State) : List Statement → Option State
  | [] => some s
  | x :: xs => (run s x).bind fun s => runAll s xs

/-- The table that the statements of a text describe. -/
def table? (xs : List Statement) : Option Toml :=
  (runAll ⟨[], []⟩ xs).map fun s => .table (Draft.doneEntries s.root)

def inlineTable? (pairs : List (List String × String × Toml)) : Option Toml :=
  (pairs.foldlM (fun es p => Draft.addPair p.1 p.2.1 p.2.2 .header es) []).map fun es =>
    .table (Draft.doneEntries es)

end Statement
end Toml
end CalcConsole
