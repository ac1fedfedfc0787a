import CalcConsole.Text.Blank
import CalcConsole.Toml.Basic
import CalcConsole.Text.Hex
/-! # The parts of a TOML text

Blanks, comments, strings, numbers and dates.  Each reader takes its part from the front and gives what follows. -/
namespace CalcConsole
namespace Toml

open Text (dropLead? hexValue? spanDigits natOf)

def isBlank (c : Char) : Bool := c == ' ' || c == '\t'

def skipBlanks (cs : List Char) : List Char := cs.dropWhile isBlank

/-- The characters that a comment may hold, and a string as they are, quotes and backslashes apart. -/
def isPrintable (c : Char) : Bool := c == '\t' || (0x20 ≤ c.toNat && c.toNat ≠ 0x7f)

/-- The end of a line: a line feed, with a carriage return before it or not. -/
def newline? : List Char → Option (List Char)
  | '\n' :: cs => some cs
  | '\r' :: '\n' :: cs => some cs
  | _ => none

def skipComment (cs : List Char) : List Char :=
  match cs with
  | '#' :: cs => cs.dropWhile isPrintable
  | cs => cs

/-- The rest of a line that holds nothing but a comment. -/
def lineEnd? (cs : List Char) : Option (List Char) :=
  match skipComment (skipBlanks cs) with
  | [] => some []
  | cs => newline? cs

mutual

def filler? : List Char → Option (List Char)
  | [] => some []
  | '\r' :: '\n' :: cs => filler? cs
  | c :: cs =>
    if isBlank c || c == '\n' then filler? cs
    else if c == '\r' then none
    else if c == '#' then afterComment? cs
    else some (c :: cs)

/-- Passes over the rest of a comment, which has to end with its line. -/
def afterComment? : List Char → Option (List Char)
  | [] => none
  | '\r' :: '\n' :: cs => filler? cs
  | c :: cs => if c == '\n' then filler? cs else if isPrintable c then afterComment? cs else none

end

/-! ## Strings -/

def hexChar? (ds : List Char) : Option Char := do
  let n ← ds.foldlM (fun acc d => (hexValue? d).map (acc * 16 + ·)) 0
  if n.isValidChar then some (Char.ofNat n) else none

def escaped? (c : Char) : Option Char :=
  if c = 'b' then some '\x08' else if c = 't' then some '\t' else if c = 'n' then some '\n'
  else if c = 'f' then some '\x0c' else if c = 'r' then some '\r' else if c = '"' then some '"'
  else if c = '\\' then some '\\' else none

def escape? : List Char → Option (Char × List Char)
  | 'u' :: cs => if cs.length < 4 then none else (hexChar? (cs.take 4)).map fun c => (c, cs.drop 4)
  | 'U' :: cs => if cs.length < 8 then none else (hexChar? (cs.take 8)).map fun c => (c, cs.drop 8)
  | e :: cs => (escaped? e).map fun c => (c, cs)
  | [] => none

def basic? : (fuel : Nat) → List Char → Option (List Char × List Char)
  | 0, _ => none
  | _ + 1, [] => none
  | fuel + 1, c :: cs =>
    if c = '"' then some ([], cs)
    else if c = '\\' then (escape? cs).bind fun e => (basic? fuel e.2).map fun r => (e.1 :: r.1, r.2)
    else if isPrintable c then (basic? fuel cs).map fun r => (c :: r.1, r.2)
    else none

def literal? : List Char → Option (List Char × List Char)
  | [] => none
  | c :: cs =>
    if c = '\'' then some ([], cs)
    else if isPrintable c then (literal? cs).map fun r => (c :: r.1, r.2)
    else none

/-- The quotes that end a string of several lines: three, before which one or two may belong to the string. -/
def closing? (quote : Char) (cs : List Char) : Option (List Char × List Char) :=
  match dropLead? [quote, quote, quote] cs with
  | none => none
  | some rest =>
    match rest with
    | a :: b :: rest' =>
      if a = quote then if b = quote then some ([quote, quote], rest') else some ([quote], b :: rest')
      else some ([], rest)
    | [a] => if a = quote then some ([quote], []) else some ([], rest)
    | [] => some ([], rest)

def skipLines : List Char → List Char
  | '\r' :: '\n' :: cs => skipLines cs
  | c :: cs => if isBlank c || c == '\n' then skipLines cs else c :: cs
  | [] => []

/-- What follows a backslash at the end of a line: the next character that is no blank, on a later line. -/
def folded? (cs : List Char) : Option (List Char) := (newline? (skipBlanks cs)).map skipLines

def multiBasic? : (fuel : Nat) → List Char → Option (List Char × List Char)
  | 0, _ => none
  | fuel + 1, cs =>
    match closing? '"' cs with
    | some r => some r
    | none =>
      match cs with
      | [] => none
      | '\\' :: cs =>
        match folded? cs with
        | some cs => multiBasic? fuel cs
        | none => (escape? cs).bind fun e => (multiBasic? fuel e.2).map fun r => (e.1 :: r.1, r.2)
      | c :: cs' =>
        match newline? cs with
        | some cs => (multiBasic? fuel cs).map fun r => ('\n' :: r.1, r.2)
        | none => if isPrintable c then (multiBasic? fuel cs').map fun r => (c :: r.1, r.2) else none

def multiLiteral? : (fuel : Nat) → List Char → Option (List Char × List Char)
  | 0, _ => none
  | fuel + 1, cs =>
    match closing? '\'' cs with
    | some r => some r
    | none =>
      match cs with
      | [] => none
      | c :: cs' =>
        match newline? cs with
        | some cs => (multiLiteral? fuel cs).map fun r => ('\n' :: r.1, r.2)
        | none => if isPrintable c then (multiLiteral? fuel cs').map fun r => (c :: r.1, r.2) else none

/-- The text of a string of several lines starts behind a line break at its opening quotes. -/
def dropNewline (cs : List Char) : List Char := (newline? cs).getD cs

/-- A string of any of the four kinds. -/
def string? (cs : List Char) : Option (String × List Char) :=
  let made (r : List Char × List Char) := (String.ofList r.1, r.2)
  match dropLead? ['"', '"', '"'] cs, dropLead? ['\'', '\'', '\''] cs with
  | some r, _ => (multiBasic? (r.length + 1) (dropNewline r)).map made
  | _, some r => (multiLiteral? (r.length + 1) (dropNewline r)).map made
  | _, _ =>
    match cs with
    | '"' :: r => (basic? (r.length + 1) r).map made
    | '\'' :: r => (literal? r).map made
    | _ => none

/-! ## Keys -/

def isKeyChar (c : Char) : Bool := c.isAlphanum || c == '-' || c == '_'

def simpleKey? (cs : List Char) : Option (String × List Char) :=
  match cs with
  | '"' :: r => (basic? (r.length + 1) r).map fun r => (String.ofList r.1, r.2)
  | '\'' :: r => (literal? r).map fun r => (String.ofList r.1, r.2)
  | cs =>
    match cs.takeWhile isKeyChar with
    | [] => none
    | k => some (String.ofList k, cs.dropWhile isKeyChar)

def maxParts : Nat := 79

/-- A key with its parts, between which a point stands: those before the last, and the last. -/
def key? : (fuel : Nat) → List Char → Option ((List String × String) × List Char)
  | 0, _ => none
  | fuel + 1, cs => do
    let (k, cs) ← simpleKey? (skipBlanks cs)
    match skipBlanks cs with
    | '.' :: cs =>
      let ((path, last), cs) ← key? fuel cs
      some ((k :: path, last), cs)
    | cs => some (([], k), cs)

/-! ## Numbers -/

/-- Digits with single underscores between them, and what follows. -/
def spanNumber (isDigit : Char → Bool) : List Char → Option (List Char × List Char)
  | [] => none
  | [c] => if isDigit c then some ([c], []) else none
  | c :: d :: cs =>
    if !isDigit c then none
    else if d == '_' then (spanNumber isDigit cs).map fun r => (c :: r.1, r.2)
    else if isDigit d then (spanNumber isDigit (d :: cs)).map fun r => (c :: r.1, r.2)
    else some ([c], d :: cs)

def sign (cs : List Char) : Bool × List Char :=
  match cs with
  | '-' :: cs => (true, cs)
  | '+' :: cs => (false, cs)
  | cs => (false, cs)

/-- Decimal digits of which the first is zero only when it stands alone. -/
def wholePart? (cs : List Char) : Option (List Char × List Char) :=
  match cs with
  | '0' :: cs => some (['0'], cs)
  | cs => spanNumber Char.isDigit cs

def exponent? (cs : List Char) : Option (Int × List Char) :=
  match cs with
  | 'e' :: cs | 'E' :: cs =>
    let (negative, cs) := sign cs
    (spanNumber Char.isDigit cs).map fun r => (if negative then -(natOf r.1 : Int) else natOf r.1, r.2)
  | _ => none

/-- A decimal as a double; one that is too large is an infinity below zero and no number above it. -/
def rounded? (negative : Bool) (digits : List Char) (exponent : Int) : Option Real :=
  match Binary64.ofDecimal? negative (natOf digits) exponent with
  | some x => some (.finite x)
  | none => if negative then some (.infinity true) else none

def real? (cs : List Char) : Option (Real × List Char) :=
  let (negative, cs) := sign cs
  match dropLead? ['i', 'n', 'f'] cs, dropLead? ['n', 'a', 'n'] cs with
  | some r, _ => some (.infinity negative, r)
  | _, some r => some (.nan, r)
  | _, _ => do
    let (whole, cs) ← wholePart? cs
    match cs with
    | '.' :: cs =>
      let (fraction, cs) ← spanNumber Char.isDigit cs
      let places : Int := fraction.length
      match exponent? cs with
      | some (e, cs) => (rounded? negative (whole ++ fraction) (e - places)).map fun x => (x, cs)
      | none => (rounded? negative (whole ++ fraction) (-places)).map fun x => (x, cs)
    | cs =>
      let (e, cs) ← exponent? cs
      (rounded? negative whole e).map fun x => (x, cs)

def natOfBase (base : Nat) (ds : List Char) : Nat := ds.foldl (fun acc d => acc * base + (hexValue? d).getD 0) 0

def isBaseDigit (base : Nat) (c : Char) : Bool := (hexValue? c).any (· < base)

def integer? (cs : List Char) : Option (Int × List Char) :=
  let based (base : Nat) (cs : List Char) := do
    let (ds, cs) ← spanNumber (isBaseDigit base) cs
    let n := natOfBase base ds
    if n < signedBound then some ((n : Int), cs) else none
  match cs with
  | '0' :: 'x' :: cs => based 16 cs
  | '0' :: 'o' :: cs => based 8 cs
  | '0' :: 'b' :: cs => based 2 cs
  | cs => do
    let (negative, cs) := sign cs
    let (ds, cs) ← wholePart? cs
    let n := natOf ds
    if negative then if n ≤ signedBound then some (-(n : Int), cs) else none
    else if n < signedBound then some ((n : Int), cs) else none

/-! ## Dates and times -/

/-- A number of exactly `count` digits, within bounds. -/
def field? (count low high : Nat) (cs : List Char) : Option (Nat × List Char) :=
  let (ds, rest) := spanDigits count cs
  let n := natOf ds
  if ds.length = count ∧ low ≤ n ∧ n ≤ high then some (n, rest) else none

def date? (cs : List Char) : Option (Date × List Char) := do
  let (year, cs) ← field? 4 0 9999 cs
  let (month, cs) ← field? 2 1 12 (← dropLead? ['-'] cs)
  let (day, cs) ← field? 2 1 31 (← dropLead? ['-'] cs)
  if day ≤ Calendar.daysIn year month then some (⟨year, month, day⟩, cs) else none

/-- A fraction of a second in nanoseconds, of which nine digits count. -/
def fraction (cs : List Char) : Nat × List Char :=
  match cs with
  | '.' :: rest =>
    match spanDigits 9 rest with
    | ([], _) => (0, cs)
    | (ds, rest) => (natOf ds * tenTo (9 - ds.length), rest.dropWhile Char.isDigit)
  | cs => (0, cs)

def time? (lastHour : Nat) (cs : List Char) : Option (Time × List Char) := do
  let (hour, cs) ← field? 2 0 lastHour cs
  let (minute, cs) ← field? 2 0 59 (← dropLead? [':'] cs)
  let (second, cs) ← field? 2 0 60 (← dropLead? [':'] cs)
  let (nano, cs) := fraction cs
  some (⟨hour, minute, second, nano⟩, cs)

def offset? (cs : List Char) : Option (Offset × List Char) :=
  match cs with
  | 'Z' :: cs | 'z' :: cs => some (.utc, cs)
  | '+' :: cs => (clock? cs).map fun r => (.minutes r.1, r.2)
  | '-' :: cs => (clock? cs).map fun r => (.minutes (-(r.1 : Int)), r.2)
  | _ => none
where
  clock? (cs : List Char) : Option (Nat × List Char) := do
    let (hour, cs) ← field? 2 0 23 cs
    let (minute, cs) ← field? 2 0 59 (← dropLead? [':'] cs)
    some (hour * 60 + minute, cs)

def afterMark? : List Char → Option (List Char)
  | 'T' :: cs | 't' :: cs | ' ' :: cs => some cs
  | _ => none

def timeOfDay? (cs : List Char) : Option ((Time × Option Offset) × List Char) :=
  match afterMark? cs with
  | some cs =>
    (time? 23 cs).map fun r =>
      match offset? r.2 with
      | some o => ((r.1, some o.1), o.2)
      | none => ((r.1, none), r.2)
  | none => none

def datetime? (cs : List Char) : Option (Datetime × List Char) :=
  match date? cs with
  | some (date, cs) =>
    match timeOfDay? cs with
    | some ((time, offset), cs) => some (⟨some date, some time, offset⟩, cs)
    | none => some (⟨some date, none, none⟩, cs)
  | none => (time? 23 cs).map fun r => (⟨none, some r.1, none⟩, r.2)

end Toml
end CalcConsole
