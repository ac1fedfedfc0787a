import CalcConsole.Text.Blank
import CalcConsole.Text.Digits
/-! # Time stamps

An instant of UTC, to the nanosecond, with leap seconds.  `read?` takes the forms that RFC 3339 allows and some that it
does not: blanks between the parts, short numbers, years with a sign, any number of digits in the fraction.
`render` writes the one standard form. -/
namespace CalcConsole
namespace Calendar

def isLeapYear (y : Int) : Bool := y % 4 == 0 && (y % 100 != 0 || y % 400 == 0)

def daysIn (y : Int) (month : Nat) : Nat :=
  match month with
  | 2 => if isLeapYear y then 29 else 28
  | 4 | 6 | 9 | 11 => 30
  | _ => 31

/-- The years that a time stamp can name. -/
def isYear (y : Int) : Bool := -262143 ≤ y && y ≤ 262142

def isDate (y : Int) (month day : Nat) : Bool :=
  isYear y && 1 ≤ month && month ≤ 12 && 1 ≤ day && day ≤ daysIn y month

/-- The day before and the day after, as year, month and day. -/
def pred (y : Int) (month day : Nat) : Int × Nat × Nat :=
  if 1 < day then (y, month, day - 1)
  else if 1 < month then (y, month - 1, daysIn y (month - 1))
  else (y - 1, 12, 31)

def succ (y : Int) (month day : Nat) : Int × Nat × Nat :=
  if day < daysIn y month then (y, month, day + 1)
  else if month < 12 then (y, month + 1, 1)
  else (y + 1, 1, 1)

end Calendar

/-- An instant in UTC.  The second 60 is a leap second. -/
structure Timestamp where
  year : Int
  month : Nat
  day : Nat
  hour : Nat
  minute : Nat
  second : Nat
  nano : Nat
  date_valid : Calendar.isDate year month day = true
  hour_lt : hour < 24
  minute_lt : minute < 60
  second_le : second ≤ 60
  nano_lt : nano < 1000000000
deriving DecidableEq

namespace Timestamp

def make? (year : Int) (month day hour minute second nano : Nat) : Option Timestamp :=
  if h : Calendar.isDate year month day = true ∧ hour < 24 ∧ minute < 60 ∧ second ≤ 60 ∧ nano < 1000000000 then
    some ⟨year, month, day, hour, minute, second, nano, h.1, h.2.1, h.2.2.1, h.2.2.2.1, h.2.2.2.2⟩
  else none

/-- The instant at which a clock that is `offset` minutes ahead of UTC shows the given time. -/
def ofLocal? (year : Int) (month day hour minute second nano : Nat) (offset : Int) : Option Timestamp :=
  if !(Calendar.isDate year month day && hour < 24 && minute < 60 && second ≤ 60) then none
  else
    let m : Int := (hour * 60 + minute : Nat) - offset
    let (y, mo, d) :=
      if m < 0 then Calendar.pred year month day
      else if m < 1440 then (year, month, day)
      else Calendar.succ year month day
    let m := (m % 1440).toNat
    make? y mo d (m / 60) (m % 60) second nano

/-! ## Reading -/

open Text (trimStart spanDigits natOf)

/-- A number of one to `max` digits after blanks. -/
def number? (max : Nat) (cs : List Char) : Option (Nat × List Char) :=
  match spanDigits max (trimStart cs) with
  | ([], _) => none
  | (ds, rest) => some (natOf ds, rest)

/-- A year: four digits at most, or any number of them after a sign. -/
def year? (cs : List Char) : Option (Int × List Char) :=
  match trimStart cs with
  | '-' :: cs =>
    match spanDigits cs.length cs with
    | ([], _) => none
    | (ds, rest) => some (-(natOf ds : Int), rest)
  | '+' :: cs =>
    match spanDigits cs.length cs with
    | ([], _) => none
    | (ds, rest) => some ((natOf ds : Int), rest)
  | cs =>
    match spanDigits 4 cs with
    | ([], _) => none
    | (ds, rest) => some ((natOf ds : Int), rest)

/-- What follows the mark `c`, which may have blanks before it. -/
def mark? (c : Char) (cs : List Char) : Option (List Char) :=
  match trimStart cs with
  | x :: rest => if x = c then some rest else none
  | [] => none

/-- A fraction of a second in nanoseconds: nine digits count and more are passed over. -/
def fraction? : List Char → Option (Nat × List Char)
  | '.' :: cs =>
    match spanDigits 9 cs with
    | ([], _) => none
    | (ds, rest) => some (natOf ds * tenTo (9 - ds.length), rest.dropWhile Char.isDigit)
  | cs => some (0, cs)

def twoDigits? : List Char → Option (Nat × List Char)
  | a :: b :: rest => if a.isDigit && b.isDigit then some (natOf [a, b], rest) else none
  | _ => none

/-- Hours and minutes of an offset, with colons, blanks or nothing between them, as minutes. -/
def offsetDigits? (cs : List Char) : Option (Nat × List Char) := do
  let (h, cs) ← twoDigits? cs
  let (m, cs) ← twoDigits? (cs.dropWhile (fun c => c == ':' || Text.isBlank c))
  if h < 24 && m < 60 then some (h * 60 + m, cs) else none

def offset? (cs : List Char) : Option (Int × List Char) :=
  if (cs.take 3).map Char.toUpper == ['U', 'T', 'C'] then some (0, cs.drop 3)
  else match cs with
    | 'Z' :: rest | 'z' :: rest => some (0, rest)
    | '+' :: rest => (offsetDigits? rest).map fun (m, r) => ((m : Int), r)
    | '-' :: rest | '−' :: rest => (offsetDigits? rest).map fun (m, r) => (-(m : Int), r)
    | _ => none

def readChars? (cs : List Char) : Option Timestamp := do
  let (year, cs) ← year? cs
  let (month, cs) ← number? 2 (← mark? '-' cs)
  let (day, cs) ← number? 2 (← mark? '-' cs)
  let cs ← match cs with
    | 'T' :: cs | 't' :: cs | ' ' :: cs => some cs
    | _ => none
  let (hour, cs) ← number? 2 cs
  let (minute, cs) ← number? 2 (← mark? ':' cs)
  let (second, cs) ← number? 2 (← mark? ':' cs)
  let (nano, cs) ← fraction? cs
  let (offset, cs) ← offset? (trimStart cs)
  if (trimStart cs).isEmpty then ofLocal? year month day hour minute second nano offset else none

def read? (s : String) : Option Timestamp := readChars? s.toList

/-! ## Writing -/

/-- Four digits, or more after a sign for a year outside 0 to 9999. -/
def yearChars (y : Int) : List Char :=
  match y with
  | .ofNat n => if n ≤ 9999 then Text.padZeros 4 n else '+' :: Text.padZeros 4 n
  | .negSucc n => '-' :: Text.padZeros 4 (n + 1)

/-- The fewest of three, six or nine digits that lose nothing, and none for a whole second. -/
def fractionChars (nano : Nat) : List Char :=
  if nano = 0 then []
  else if nano % 1000000 = 0 then '.' :: Text.padZeros 3 (nano / 1000000)
  else if nano % 1000 = 0 then '.' :: Text.padZeros 6 (nano / 1000)
  else '.' :: Text.padZeros 9 nano

def dateChars (t : Timestamp) : List Char :=
  yearChars t.year ++ '-' :: Text.padZeros 2 t.month ++ '-' :: Text.padZeros 2 t.day

def clockChars (t : Timestamp) : List Char :=
  Text.padZeros 2 t.hour ++ ':' :: Text.padZeros 2 t.minute ++ ':' :: Text.padZeros 2 t.second

def chars (t : Timestamp) : List Char :=
  t.dateChars ++ 'T' :: t.clockChars ++ fractionChars t.nano ++ ['Z']

def render (t : Timestamp) : String := String.ofList t.chars

def display (t : Timestamp) : String := String.ofList (t.dateChars ++ ' ' :: t.clockChars)

end Timestamp
end CalcConsole
