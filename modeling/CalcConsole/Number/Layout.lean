import CalcConsole.Number.Shortest
/-! # How a double is written

Three layouts of the shortest digits.  `plain` never has an exponent and shows a whole number without a point; `pointed`
puts a point into that one too; `marked` always shows that the number is no integer, by a point or by an exponent, and
takes the exponent outside 10^-5 to 10^15.  A tie goes up in the first two, and to the even digit in the last. -/
namespace CalcConsole
namespace Decimal

def zeros (n : Nat) : List Char := List.replicate n '0'

/-- The digits with the point where it falls, or without one if the number is whole. -/
def positional (d : Decimal) : List Char :=
  let ds := Nat.toDigits 10 d.digits
  match d.exponent with
  | .ofNat e => if d.digits = 0 then ['0'] else ds ++ zeros e
  | .negSucc e =>
    if ds.length ≤ e + 1 then '0' :: '.' :: zeros (e + 1 - ds.length) ++ ds
    else ds.take (ds.length - (e + 1)) ++ '.' :: ds.drop (ds.length - (e + 1))

/-- The power of ten of the first digit. -/
def magnitude (d : Decimal) : Int := ((Nat.toDigits 10 d.digits).length : Int) - 1 + d.exponent

def signedDigits (n : Int) : List Char :=
  match n with
  | .ofNat k => '+' :: Nat.toDigits 10 k
  | .negSucc k => '-' :: Nat.toDigits 10 (k + 1)

/-- One digit, the others behind a point, and the exponent with its sign. -/
def scientific (d : Decimal) : List Char :=
  match Nat.toDigits 10 d.digits with
  | [] => []
  | [c] => c :: 'e' :: signedDigits d.magnitude
  | c :: ds => c :: '.' :: ds ++ 'e' :: signedDigits d.magnitude

end Decimal

namespace Binary64

def signed (x : Binary64) (cs : List Char) : List Char := if x.negative then '-' :: cs else cs

/-- The shortest digits, never with an exponent. -/
def plain (x : Binary64) : List Char := x.signed (x.shortest .up).positional

/-- The positional digits of a decimal, with `.0` behind a whole number. -/
def withPoint (x : Binary64) (d : Decimal) : List Char :=
  x.signed (if x.isWhole then d.positional ++ ['.', '0'] else d.positional)

/-- The shortest digits, never with an exponent and never without a point. -/
def pointed (x : Binary64) : List Char := x.withPoint (x.shortest .up)

/-- The shortest digits in the form that no integer has. -/
def marked (x : Binary64) : List Char :=
  let d := x.shortest .even
  if d.digits = 0 ∨ (-5 ≤ d.magnitude ∧ d.magnitude ≤ 15) then x.withPoint d else x.signed d.scientific

end Binary64
end CalcConsole
