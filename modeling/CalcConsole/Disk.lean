import CalcConsole.Text.Blank
/-! # Files

A `Disk` is a tree of folders and files, kept as a list of places.  A path is followed from the root, or from a working
folder, one segment at a time, and each operation gives the new disk or the error that the system would report. -/
namespace CalcConsole

inductive FileError where
  | notFound
  | exists
  | notFolder
  | isFolder
  | nameTooLong
  | nulInPath
  | notText
deriving DecidableEq, Repr

def FileError.message : FileError → String
  | .notFound => "No such file or directory (os error 2)"
  | .exists => "File exists (os error 17)"
  | .notFolder => "Not a directory (os error 20)"
  | .isFolder => "Is a directory (os error 21)"
  | .nameTooLong => "File name too long (os error 36)"
  | .nulInPath => "file name contained an unexpected NUL byte"
  | .notText => "stream did not contain valid UTF-8"

/-- A place on a disk: the names from the root down. -/
abbrev Place := List String

inductive Entry where
  | folder
  | file (content : ByteArray) (mode : Nat)

structure Disk where
  entries : List (Place × Entry)

namespace Disk

def empty : Disk := ⟨[]⟩

/-- What stands at a place; the root is always a folder. -/
def at? (d : Disk) (p : Place) : Option Entry :=
  if p = [] then some .folder else (d.entries.find? (·.1 = p)).map (·.2)

def put (d : Disk) (p : Place) (e : Entry) : Disk := ⟨(p, e) :: d.entries.filter (·.1 ≠ p)⟩

/-- Takes away all that stands at a place or below it. -/
def remove (d : Disk) (p : Place) : Disk := ⟨d.entries.filter fun x => !p.isPrefixOf x.1⟩

theorem at?_put_self (d : Disk) (p : Place) (e : Entry) (h : p ≠ []) : (d.put p e).at? p = some e := by
  simp [at?, put, h]

theorem at?_put_of_ne (d : Disk) {p q : Place} (e : Entry) (h : q ≠ p) : (d.put p e).at? q = d.at? q := by
  by_cases hq : q = []
  · simp [at?, hq]
  · have hpq : ¬ p = q := fun hc => h hc.symm
    simp only [at?, put, hq, if_false, List.find?_cons, hpq, decide_false, List.find?_filter]
    congr 2
    funext x
    by_cases hx : x.1 = q
    · simp [hx, h]
    · simp [hx]

end Disk

/-! ## Paths -/

namespace Path

/-- The segments of a path, without empty ones and without those that stay where they are. -/
def segments (path : String) : List String :=
  (Text.splitOn '/' path).filter fun s => s ≠ "" ∧ s ≠ "."

def isAbsolute (path : String) : Bool := path.toList.head? = some '/'

/-- The file `name` in a folder; a name that starts at the root leads there instead. -/
def join (folder name : String) : String :=
  if isAbsolute name then name
  else if folder = "" then name
  else if folder.toList.getLast? = some '/' then folder ++ name
  else folder ++ "/" ++ name

end Path

namespace Disk

/-- The longest name that a file may have, in bytes. -/
def maxName : Nat := 255

/-- The place that segments lead to from `p`: all but the last have to be folders. -/
def follow (d : Disk) (p : Place) : List String → Except FileError Place
  | [] => .ok p
  | s :: rest =>
    match d.at? p with
    | none => .error .notFound
    | some (.file _ _) => .error .notFolder
    | some .folder =>
      if s = ".." then follow d p.dropLast rest
      else if maxName < s.utf8ByteSize then .error .nameTooLong
      else follow d (p ++ [s]) rest

/-- The segments of a path from the root, taken from the working folder when the path is relative. -/
def absolute (cwd : Place) (path : String) : List String :=
  if Path.isAbsolute path then Path.segments path else cwd ++ Path.segments path

def locate (d : Disk) (cwd : Place) (path : String) : Except FileError Place :=
  if path.toList.contains '\x00' then .error .nulInPath else d.follow [] (absolute cwd path)

def contains (d : Disk) (cwd : Place) (path : String) : Bool :=
  match d.locate cwd path with
  | .ok p => (d.at? p).isSome
  | .error _ => false

def read (d : Disk) (cwd : Place) (path : String) : Except FileError ByteArray := do
  let p ← d.locate cwd path
  match d.at? p with
  | none => throw .notFound
  | some .folder => throw .isFolder
  | some (.file content _) => return content

def readText (d : Disk) (cwd : Place) (path : String) : Except FileError String := do
  match String.fromUTF8? (← d.read cwd path) with
  | some s => return s
  | none => throw .notText

/-- Puts `content` into a file.  A file that is new has the mode `created`; any file gets the mode `forced`, if there is
one. -/
def write (d : Disk) (cwd : Place) (path : String) (content : ByteArray) (created : Nat) (forced : Option Nat) :
    Except FileError Disk := do
  let p ← d.locate cwd path
  match d.at? p with
  | some .folder => throw .isFolder
  | some (.file _ mode) => return d.put p (.file content (forced.getD mode))
  | none => return d.put p (.file content (forced.getD created))

def isFolder (d : Disk) (segments : List String) : Bool :=
  match d.follow [] segments with
  | .ok p => match d.at? p with
    | some .folder => true
    | _ => false
  | .error _ => false

def makeFolder (d : Disk) (segments : List String) : Except FileError Disk := do
  let p ← d.follow [] segments
  match d.at? p with
  | some _ => throw .exists
  | none => return d.put p .folder

/-- Makes the folder with the given segments, last one first, and those above it that are missing. -/
def makeFolders (d : Disk) : (reversed : List String) → Except FileError Disk
  | [] => .ok d
  | s :: above =>
    match d.makeFolder (s :: above).reverse with
    | .ok d => .ok d
    | .error .notFound =>
      match makeFolders d above with
      | .error e => .error e
      | .ok d =>
        match d.makeFolder (s :: above).reverse with
        | .ok d => .ok d
        | .error e => if d.isFolder (s :: above).reverse then .ok d else .error e
    | .error e => if d.isFolder (s :: above).reverse then .ok d else .error e

def makeParents (d : Disk) (cwd : Place) (path : String) : Except FileError Disk :=
  if path.toList.contains '\x00' then .error .nulInPath
  else d.makeFolders (absolute cwd path).reverse.tail

end Disk
end CalcConsole
