import CalcConsole.Json.Basic
import CalcConsole.Text.Blank
import CalcConsole.Text.Hex
import CalcConsole.Text.Utf8
/-! # Reading JSON

`read` turns any text into a `Document`: the value that it presents, and whether the text holds that value and nothing
else.  Numbers are read in two steps that each round: up to 64 bits of leading digits, then a power of ten. -/
namespace CalcConsole
namespace Json

def isSpace (c : Char) : Bool := c == ' ' || c == '\n' || c == '\t' || c == '\r'

def skipSpace (cs : List Char) : List Char := cs.dropWhile isSpace

/-! ## Numbers -/

/-- Digits taken into `acc` for as long as it stays below 2^64, and those left over. -/
def absorb (acc : Nat) : List Char → Nat × List Char
  | [] => (acc, [])
  | c :: cs =>
    let acc' := acc * 10 + (c.toNat - 48)
    if unsignedBound ≤ acc' then (acc, c :: cs) else absorb acc' cs

def pow10? (e : Nat) : Option Binary64 := Binary64.ofNat? (tenTo e)

/-- `x * 10 ^ e`, one rounded step for each 308 places; `none` when it is too large. -/
def scaleBy : (fuel : Nat) → Binary64 → Int → Option Binary64
  | 0, x, _ => some x
  | fuel + 1, x, e =>
    if e.natAbs ≤ 308 then
      (pow10? e.natAbs).bind fun p => if 0 ≤ e then x.mul? p else x.div? p
    else if x.isZero then some x
    else if 0 ≤ e then none
    else ((pow10? 308).bind x.div?).bind fun y => scaleBy fuel y (e + 308)

def realOf (negative : Bool) (significand : Nat) (exponent : Int) : Number :=
  match (Binary64.ofNat? significand).bind fun x => scaleBy 4 x exponent with
  | some x => .real (x.withSign negative)
  | none => .beyond

structure Literal where
  negative : Bool
  whole : List Char
  fraction : List Char
  hasFraction : Bool
  exponent : Option Int

/-- The largest exponent that is not taken for endless. -/
def maxExponent : Nat := 2147483647

def Literal.value (l : Literal) : Number :=
  let n := Text.natOf l.whole
  if !l.hasFraction && l.exponent.isNone && n < unsignedBound && (!l.negative || (0 < n && n ≤ signedBound)) then
    .whole (if l.negative then -(n : Int) else n)
  else
    let (sig, dropped) := absorb 0 l.whole
    let (sig, unread) := absorb sig l.fraction
    let places : Int := dropped.length - (l.fraction.length - unread.length : Nat)
    match l.exponent with
    | none => realOf l.negative sig places
    | some e =>
      if maxExponent < e.natAbs then
        if sig ≠ 0 ∧ 0 < e then .beyond else .real (Binary64.zero l.negative)
      else realOf l.negative sig (places + e)

/-- The exponent part, if the text has one; `none` when it has a mark without digits. -/
def readExponent (cs : List Char) : Option (Option Int × List Char) :=
  match cs with
  | 'e' :: r | 'E' :: r =>
    let (negative, r) := match r with
      | '+' :: r => (false, r)
      | '-' :: r => (true, r)
      | r => (false, r)
    match Text.spanDigits r.length r with
    | ([], _) => none
    | (ds, rest) => some (some (if negative then -(Text.natOf ds : Int) else Text.natOf ds), rest)
  | cs => some (none, cs)

/-- A number from its first digit on; no digit follows a leading zero. -/
def readUnsigned (negative : Bool) (cs : List Char) : Option (Number × List Char) := do
  let (whole, rest) := Text.spanDigits cs.length cs
  match whole with
  | [] => none
  | '0' :: _ :: _ => none
  | _ => pure ()
  match rest with
  | '.' :: r =>
    let (fraction, r) := Text.spanDigits r.length r
    if fraction.isEmpty then none
    let (exponent, r) ← readExponent r
    some (Literal.value ⟨negative, whole, fraction, true, exponent⟩, r)
  | r =>
    let (exponent, r) ← readExponent r
    some (Literal.value ⟨negative, whole, [], false, exponent⟩, r)

def readNumber (cs : List Char) : Option (Number × List Char) :=
  match cs with
  | '-' :: r => readUnsigned true r
  | r => readUnsigned false r

/-! ## Strings -/

open Text (hexValue?)

def unit? (a b c d : Char) : Option Nat := do
  some (((← hexValue? a) * 16 + (← hexValue? b)) * 256 + ((← hexValue? c) * 16 + (← hexValue? d)))

def isHigh (u : Nat) : Bool := 0xd800 ≤ u && u ≤ 0xdbff

def isLow (u : Nat) : Bool := 0xdc00 ≤ u && u ≤ 0xdfff

def escaped? (c : Char) : Option Char :=
  if c = '"' then some '"' else if c = '\\' then some '\\' else if c = '/' then some '/'
  else if c = 'b' then some '\x08' else if c = 'f' then some '\x0c' else if c = 'n' then some '\n'
  else if c = 'r' then some '\r' else if c = 't' then some '\t' else none

/-- What a string is made of: characters, and halves of surrogate pairs that escapes name. -/
inductive Piece where
  | char (c : Char)
  | half (u : Nat)

def Piece.ofUnit (u : Nat) : Piece := if isHigh u || isLow u then .half u else .char (Char.ofNat u)

/-- The pieces of a string behind its opening quote, and what follows the closing one; `none` when the string does not
end or holds a bad escape or a control character. -/
def readPieces : List Char → Option (List Piece × List Char)
  | [] => none
  | '"' :: rest => some ([], rest)
  | '\\' :: 'u' :: a :: b :: c :: d :: rest =>
    match unit? a b c d with
    | some u => (readPieces rest).map fun r => (.ofUnit u :: r.1, r.2)
    | none => none
  | '\\' :: e :: rest =>
    match escaped? e with
    | some c => (readPieces rest).map fun r => (.char c :: r.1, r.2)
    | none => none
  | c :: rest =>
    if c = '\\' || c.toNat < 0x20 then none else (readPieces rest).map fun r => (.char c :: r.1, r.2)

/-- The characters of the pieces; `none` when half of a pair stands alone. -/
def joinPieces : List Piece → Option (List Char)
  | [] => some []
  | .char c :: ps => (joinPieces ps).map (c :: ·)
  | .half u :: .half v :: ps =>
    if isHigh u && isLow v then
      (joinPieces ps).map (Char.ofNat (0x10000 + (u - 0xd800) * 1024 + (v - 0xdc00)) :: ·)
    else none
  | .half _ :: _ => none

def readString (cs : List Char) : Option (Option String × List Char) :=
  (readPieces cs).map fun r => ((joinPieces r.1).map String.ofList, r.2)

/-! ## Values -/

def readWord (word : List Char) (v : Json) (cs : List Char) : Json × Option (List Char) :=
  match Text.dropLead? word cs with
  | some rest => (v, some rest)
  | none => (.broken, none)

def readScalar (cs : List Char) : Json × Option (List Char) :=
  match cs with
  | '"' :: r =>
    match readString r with
    | some (s, rest) => (.string s, some rest)
    | none => (.broken, none)
  | 'n' :: r => readWord ['u', 'l', 'l'] .null r
  | 't' :: r => readWord ['r', 'u', 'e'] (.bool true) r
  | 'f' :: r => readWord ['a', 'l', 's', 'e'] (.bool false) r
  | cs =>
    match readNumber cs with
    | some (n, rest) => (.number n, some rest)
    | none => (.broken, none)

mutual

/-- The value in front of `cs`, and what follows it; nothing follows a fault. -/
def readValue : (fuel : Nat) → List Char → Json × Option (List Char)
  | 0, _ => (.broken, none)
  | fuel + 1, cs =>
    match skipSpace cs with
    | '[' :: r =>
      match skipSpace r with
      | ']' :: rest => (.array [], some rest)
      | r =>
        let (items, rest) := readItems fuel r
        (.array items, rest)
    | '\x7b' :: r =>
      match skipSpace r with
      | '\x7d' :: rest => (.object [], some rest)
      | r =>
        let (members, rest) := readMembers fuel r
        (.object members, rest)
    | cs => readScalar cs

def readItems : (fuel : Nat) → List Char → List Json × Option (List Char)
  | 0, _ => ([.broken], none)
  | fuel + 1, cs =>
    match readValue fuel cs with
    | (v, none) => ([v], none)
    | (v, some r) =>
      match skipSpace r with
      | ',' :: r =>
        let (vs, rest) := readItems fuel r
        (v :: vs, rest)
      | ']' :: rest => ([v], some rest)
      | _ => ([v, .broken], none)

def readMembers : (fuel : Nat) → List Char → List (Option String × Json) × Option (List Char)
  | 0, _ => ([(none, .broken)], none)
  | fuel + 1, cs =>
    match skipSpace cs with
    | '"' :: r =>
      match readString r with
      | none => ([(none, .broken)], none)
      | some (k, r) =>
        match skipSpace r with
        | ':' :: r =>
          match readValue fuel r with
          | (v, none) => ([(k, v)], none)
          | (v, some r) =>
            match skipSpace r with
            | ',' :: r =>
              let (ms, rest) := readMembers fuel r
              ((k, v) :: ms, rest)
            | '\x7d' :: rest => ([(k, v)], some rest)
            | _ => ([(k, v), (none, .broken)], none)
        | _ => ([(k, .broken)], none)
    | _ => ([(none, .broken)], none)

end

/-- What a text presents, and whether nothing but that value stands in it. -/
structure Document where
  value : Json
  ended : Bool

def readChars (cs : List Char) : Document :=
  match readValue (2 * cs.length + 1) cs with
  | (v, some rest) => ⟨v, (skipSpace rest).isEmpty⟩
  | (v, none) => ⟨v, false⟩

def read (s : String) : Document := readChars s.toList

/-- What stands for bytes that spell no character.  Its first letter begins nothing, so outside of a string and behind a
backslash it is a fault; and it ends in half of a surrogate pair, so no string that holds it can be read. -/
def noCharacter : List Char := ['x', '\\', 'u', 'd', 'c', '0', '0']

/-- What bytes present.  They need not be a text: a string is looked at only when its value is asked for. -/
def readBytes (bytes : ByteArray) : Document := read (Text.read noCharacter bytes)

end Json
end CalcConsole
