import CalcConsole.Toml.Basic
import CalcConsole.Text.Hex
/-! # Writing TOML

One entry to a line and one table to a block, with a blank line between blocks.  A string takes the first of these
forms that can hold it: basic, literal, basic of several lines, literal of several lines; what none can hold as it is
gets escapes in a basic one.  A tab does not count for this, although a basic string has an escape for it. -/
namespace CalcConsole
namespace Toml

/-! ## Strings -/

def isControl (c : Char) : Bool := c.toNat < 0x20 || c.toNat == 0x7f

/-- Control characters other than tabs and line feeds. -/
def isHidden (c : Char) : Bool := isControl c && c != '\t' && c != '\n'

/-- The longest run of `x` in a text, where `run` of them stand right before it. -/
def longestRun (x : Char) (run : Nat) : List Char → Nat
  | [] => run
  | c :: cs => if c = x then longestRun x (run + 1) cs else max run (longestRun x 0 cs)

inductive Form where
  | basic | literal | multiBasic | multiLiteral
deriving DecidableEq, Repr

def hasHidden (cs : List Char) : Bool := cs.any isHidden

def formOf (cs : List Char) : Form :=
  if !hasHidden cs && !cs.contains '\n' && !cs.contains '\\' && !cs.contains '"' then .basic
  else if !hasHidden cs && !cs.contains '\n' && !cs.contains '\'' then .literal
  else if !hasHidden cs && !cs.contains '\\' && longestRun '"' 0 cs ≤ 2 then .multiBasic
  else if !hasHidden cs && longestRun '\'' 0 cs ≤ 2 then .multiLiteral
  else if cs.contains '\n' then .multiBasic
  else .basic

open Text (hexUpper)

/-- A character between quotes; a line feed stays as it is in a string of several lines. -/
def escapedChar (multi : Bool) (c : Char) : List Char :=
  if c = '\x08' then ['\\', 'b']
  else if c = '\t' then ['\\', 't']
  else if c = '\n' then if multi then ['\n'] else ['\\', 'n']
  else if c = '\x0c' then ['\\', 'f']
  else if c = '\r' then ['\\', 'r']
  else if c = '\\' then ['\\', '\\']
  else if isControl c then ['\\', 'u', '0', '0', hexUpper (c.toNat / 16), hexUpper (c.toNat % 16)]
  else [c]

/-- The text between quotes: of a run of quotes, each one that would be the third takes a backslash, and on a single
line every quote does. -/
def escapedChars (multi : Bool) (run : Nat) : List Char → List Char
  | [] => []
  | c :: cs =>
    if c = '"' then
      if multi && run < 2 then '"' :: escapedChars multi (run + 1) cs
      else '\\' :: '"' :: escapedChars multi 0 cs
    else escapedChar multi c ++ escapedChars multi 0 cs

def leadBreak (cs : List Char) : List Char := if cs.contains '\n' then ['\n'] else []

def basicChars (cs : List Char) : List Char := '"' :: escapedChars false 0 cs ++ ['"']

def literalChars (cs : List Char) : List Char := '\'' :: cs ++ ['\'']

def stringChars (cs : List Char) : List Char :=
  match formOf cs with
  | .basic => basicChars cs
  | .literal => literalChars cs
  | .multiBasic => ['"', '"', '"'] ++ leadBreak cs ++ escapedChars true 0 cs ++ ['"', '"', '"']
  | .multiLiteral => ['\'', '\'', '\''] ++ leadBreak cs ++ cs ++ ['\'', '\'', '\'']

def isBareChar (c : Char) : Bool := c.isAlphanum || c == '-' || c == '_'

/-- A key without quotes if it can do so, and else on one line. -/
def keyChars (cs : List Char) : List Char :=
  if !cs.isEmpty && cs.all isBareChar then cs
  else if formOf cs = .literal then literalChars cs
  else basicChars cs

def keyText (k : String) : List Char := keyChars k.toList

/-! ## Numbers, dates and times -/

def signed (negative : Bool) (cs : List Char) : List Char := if negative then '-' :: cs else cs

def realChars : Real → List Char
  | .finite x => x.pointed
  | .infinity negative => signed negative ['i', 'n', 'f']
  | .nan => ['n', 'a', 'n']

open Text (padZeros)

def dateChars (d : Date) : List Char :=
  padZeros 4 d.year ++ '-' :: padZeros 2 d.month ++ '-' :: padZeros 2 d.day

/-- The digits of a fraction without zeros at the end. -/
def fractionChars (nano : Nat) : List Char :=
  if nano = 0 then [] else '.' :: ((padZeros 9 nano).reverse.dropWhile (· == '0')).reverse

def timeChars (t : Time) : List Char :=
  padZeros 2 t.hour ++ ':' :: padZeros 2 t.minute ++ ':' :: padZeros 2 t.second ++ fractionChars t.nano

def offsetChars : Offset → List Char
  | .utc => ['Z']
  | .minutes m =>
    (if m < 0 then '-' else '+') :: padZeros 2 (m.natAbs / 60) ++ ':' :: padZeros 2 (m.natAbs % 60)

def datetimeChars (d : Datetime) : List Char :=
  (match d.date, d.time with
    | some d, some t => dateChars d ++ 'T' :: timeChars t
    | some d, none => dateChars d
    | none, some t => timeChars t
    | none, none => []) ++
  (match d.offset with
    | some o => offsetChars o
    | none => [])

/-! ## Values -/

mutual

def valueChars : Toml → List Char
  | .string s => stringChars s.toList
  | .integer n => Text.intChars n
  | .real x => realChars x
  | .boolean true => ['t', 'r', 'u', 'e']
  | .boolean false => ['f', 'a', 'l', 's', 'e']
  | .datetime d => datetimeChars d
  | .array [] => ['[', ']']
  | .array [v] => '[' :: valueChars v ++ [']']
  | .array items => '[' :: itemChars items ++ ['\n', ']']
  | .table [] => ['\x7b', '\x7d']
  | .table entries => '\x7b' :: ' ' :: pairChars entries ++ [' ', '\x7d']

def itemChars : List Toml → List Char
  | [] => []
  | v :: vs => '\n' :: ' ' :: ' ' :: ' ' :: ' ' :: valueChars v ++ ',' :: itemChars vs

def pairChars : List (String × Toml) → List Char
  | [] => []
  | [e] => keyText e.1 ++ ' ' :: '=' :: ' ' :: valueChars e.2
  | e :: es => keyText e.1 ++ ' ' :: '=' :: ' ' :: valueChars e.2 ++ ',' :: ' ' :: pairChars es

end

/-! ## Blocks -/

def entryLine (e : String × Toml) : List Char := keyText e.1 ++ ' ' :: '=' :: ' ' :: valueChars e.2 ++ ['\n']

/-- An array that holds tables and nothing else is written as blocks. -/
def isBlockArray : Toml → Bool
  | .array items => !items.isEmpty && items.all isTable
  | _ => false

/-- The lines of a table's own block: the entries that have no block of their own. -/
def ownLines (es : Entries) : List Char :=
  (es.filter fun e => !isTable e.2 && !isBlockArray e.2).flatMap entryLine

def pathChars (path : List String) : List Char := ['.'].intercalate (path.map keyText)

def headerLine (path : List String) : List Char := '[' :: pathChars path ++ [']', '\n']

def itemLine (path : List String) : List Char := '[' :: '[' :: pathChars path ++ [']', ']', '\n']

/-- Whether a table has a header of its own, which one that holds nothing but tables does not need. -/
def showsHeader (es : Entries) : Bool := es.isEmpty || !(ownLines es).isEmpty

mutual

/-- The blocks of a value that stands at `path`: those of a table, with its header if it shows one, or one for each
table of an array, followed by those of the tables in it. -/
def valueBlocks (path : List String) : Toml → List (List Char)
  | .table es => (if showsHeader es then [headerLine path ++ ownLines es] else []) ++ entryBlocks path es
  | .array items => if !items.isEmpty && items.all isTable then itemBlocks path items else []
  | _ => []

def entryBlocks (path : List String) : List (String × Toml) → List (List Char)
  | [] => []
  | e :: es => valueBlocks (path ++ [e.1]) e.2 ++ entryBlocks path es

def itemBlocks (path : List String) : List Toml → List (List Char)
  | [] => []
  | .table es :: vs => (itemLine path ++ ownLines es) :: entryBlocks path es ++ itemBlocks path vs
  | _ :: vs => itemBlocks path vs

end

/-- The blocks of a text: the entries that stand under no header, and then one for each table. -/
def blocks (t : Toml) : List (List Char) :=
  match t with
  | .table es => (if (ownLines es).isEmpty then [] else [ownLines es]) ++ entryBlocks [] es
  | _ => []

def printChars (t : Toml) : List Char := ['\n'].intercalate (blocks t)

def print (t : Toml) : String := String.ofList (printChars t)

end Toml
end CalcConsole
