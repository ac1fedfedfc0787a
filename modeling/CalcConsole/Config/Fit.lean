import CalcConsole.Config.Basic
import CalcConsole.Toml.Reader
/-! # Reading settings from a tree

A tree fits when each setting in it has a value of the right kind; keys that name no setting are passed over.  A section
is a table, or an array of its settings in order. -/
namespace CalcConsole

/-- Where a tree comes from, which decides on some forms that are seldom written. -/
inductive TreeSource where
  /-- A text that is read as it stands. -/
  | text
  /-- Files that were laid upon each other. -/
  | layers
deriving DecidableEq, Repr

namespace Config

/-- A text; in layers, a date counts as the text that it was. -/
def textOf? (source : TreeSource) : Toml → Option String
  | .string s => some s
  | .datetime d => if source = .layers then some (String.ofList (Toml.datetimeChars d)) else none
  | _ => none

def timeoutOf? : Toml → Option Nat
  | .integer n => if 0 ≤ n then some n.toNat else none
  | _ => none

def policy? (name : String) : Option ClearInput := (ClearInput.all.find? (·.1 = name)).map (·.2)

/-- A policy by its name, or as the one key of a table with nothing in it. -/
def clearInputOf? : Toml → Option ClearInput
  | .string s => policy? s
  | .table [(k, .table [])] | .table [(k, .array [])] => policy? k
  | _ => none

def read? (source : TreeSource) : (s : Setting) → Toml → Option s.Value
  | .baseUrl, v | .sessionName, v | .logLevel, v => textOf? source v
  | .timeoutMs, v => timeoutOf? v
  | .sessionFolder, v => (textOf? source v).map some
  | .clearInput, v => clearInputOf? v

def readEntries (source : TreeSource) (c : Config) (es : Toml.Entries) : List Setting → Option Config
  | [] => some c
  | s :: ss =>
    match Toml.get? es s.key with
    | none => readEntries source c es ss
    | some v => (read? source s v).bind fun x => readEntries source (c.set s x) es ss

/-- Takes over the settings of a section that stand in an array.  Items beyond them are passed over only in a text. -/
def readItems (source : TreeSource) (c : Config) : List Setting → List Toml → Option Config
  | _, [] => some c
  | [], _ :: _ => if source = .text then some c else none
  | s :: ss, v :: vs => (read? source s v).bind fun x => readItems source (c.set s x) ss vs

/-- Takes over a section.  In a text, a date stands for a section without settings. -/
def readSection (source : TreeSource) (c : Config) (s : ConfigSection) : Toml → Option Config
  | .table es => readEntries source c es s.settings
  | .array items => readItems source c s.settings items
  | .datetime _ => if source = .text then some c else none
  | _ => none

def readSections (source : TreeSource) (c : Config) (es : Toml.Entries) : List ConfigSection → Option Config
  | [] => some c
  | s :: ss =>
    match Toml.get? es s.name with
    | none => readSections source c es ss
    | some v => (readSection source c s v).bind fun c => readSections source c es ss

/-- The settings of a tree, if it fits; those that it does not have are the built-in ones. -/
def ofTree? (source : TreeSource) : Toml → Option Config
  | .table es => readSections source builtIn es ConfigSection.all
  | _ => none

def ofText? (s : String) : Option Config := (Toml.read? s).bind (ofTree? .text)

end Config
end CalcConsole
