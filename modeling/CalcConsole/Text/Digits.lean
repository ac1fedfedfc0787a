import CalcConsole.Number.Power
import CalcConsole.Text.Blank
/-! # Numbers in decimal

Writing goes through `Nat.toDigits`, and `natOf` reads such digits back. -/
namespace CalcConsole
namespace Text

def natChars (n : Nat) : List Char := Nat.toDigits 10 n

def intChars : Int → List Char
  | .ofNat n => natChars n
  | .negSucc n => '-' :: natChars (n + 1)

def natOf (cs : List Char) : Nat := Nat.ofDigitChars 10 cs 0

theorem natOf_natChars (n : Nat) : natOf (natChars n) = n := Nat.ofDigitChars_toDigits (by decide) (by decide)

def padZeros (width n : Nat) : List Char :=
  let ds := natChars n
  List.replicate (width - ds.length) '0' ++ ds

/-- At most `max` digits from the front, and what follows them. -/
def spanDigits : (max : Nat) → List Char → List Char × List Char
  | 0, cs => ([], cs)
  | _ + 1, [] => ([], [])
  | max + 1, c :: cs => if c.isDigit then
      let (ds, rest) := spanDigits max cs
      (c :: ds, rest)
    else ([], c :: cs)

/-- A number of one digit or more, after a plus sign or none. -/
def readNat? (s : String) : Option Nat :=
  let cs := match s.toList with
    | '+' :: cs => cs
    | cs => cs
  if cs.isEmpty || !cs.all Char.isDigit then none else some (natOf cs)

def readU64? (s : String) : Option Nat := (readNat? s).filter (· < unsignedBound)

/-- A number of 64 bits, with a sign or without. -/
def readI64? (s : String) : Option Int :=
  match s.toList with
  | '-' :: cs =>
    if cs.isEmpty || !cs.all Char.isDigit || signedBound < natOf cs then none else some (-(natOf cs : Int))
  | _ => ((readNat? s).filter (· < signedBound)).map Int.ofNat

/-- Why digits behind those of `n` are no number up to `bound`: one of them is no digit, or they go beyond, whichever comes
first. -/
def digitsFault? (beyond : String) (bound : Nat) : (n : Nat) → List Char → Option String
  | _, [] => none
  | n, c :: cs =>
    let m := 10 * n + (c.toNat - '0'.toNat)
    if !c.isDigit then some "invalid digit found in string"
    else if bound < m then some beyond
    else digitsFault? beyond bound m cs

def i64Fault? (s : String) : Option String :=
  match s.toList with
  | [] => some "cannot parse integer from empty string"
  | ['+'] | ['-'] => some "invalid digit found in string"
  | '-' :: cs => digitsFault? "number too small to fit in target type" signedBound 0 cs
  | '+' :: cs | cs => digitsFault? "number too large to fit in target type" (signedBound - 1) 0 cs

def isDigits (cs : List Char) : Bool := !cs.isEmpty && cs.all Char.isDigit

def dropSign (cs : List Char) : List Char :=
  match cs with
  | '+' :: cs | '-' :: cs => cs
  | cs => cs

/-- Whether a text is a number as people write it: a sign or none, and then an infinity, no number at all (`nan`), or
digits with a point and an exponent or without. -/
def isNumber (cs : List Char) : Bool :=
  let cs := dropSign cs
  let whole := cs.takeWhile Char.isDigit
  let (fraction, rest) := match cs.dropWhile Char.isDigit with
    | '.' :: cs => (cs.takeWhile Char.isDigit, cs.dropWhile Char.isDigit)
    | cs => ([], cs)
  ["inf", "infinity", "nan"].contains (lowerAscii (String.ofList cs)) ||
    isDigits (whole ++ fraction) && match rest with
      | [] => true
      | 'e' :: cs | 'E' :: cs => isDigits (dropSign cs)
      | _ => false

end Text
end CalcConsole
