import CalcConsole.Number.Power
/-! # Doubles, exactly

A finite double is a sign and a whole number of units of 2^-1074, held as a mantissa below 2^53 and a scale.  All
arithmetic is on natural numbers: `round?` gives the double nearest to a fraction (a tie goes to the even mantissa), and
products and quotients are the rounded exact ones. -/
namespace CalcConsole

/-- The double `± mantissa * 2 ^ scale * 2 ^ -1074`, in its one canonical form. -/
structure Binary64 where
  negative : Bool
  mantissa : Nat
  scale : Nat
  mantissa_lt : mantissa < twoTo 53
  scale_le : scale ≤ 2045
  normal : scale = 0 ∨ twoTo 52 ≤ mantissa
deriving DecidableEq

namespace Binary64

/-- How many units of 2^-1074 the absolute value has. -/
def units (x : Binary64) : Nat := x.mantissa * twoTo x.scale

def isZero (x : Binary64) : Bool := x.mantissa == 0

def zero (negative : Bool) : Binary64 := ⟨negative, 0, 0, by decide, by decide, Or.inl rfl⟩

def withSign (x : Binary64) (negative : Bool) : Binary64 := { x with negative }

def ofParts? (negative : Bool) (mantissa scale : Nat) : Option Binary64 :=
  if h : mantissa < twoTo 53 ∧ scale ≤ 2045 ∧ (scale = 0 ∨ twoTo 52 ≤ mantissa) then
    some ⟨negative, mantissa, scale, h.1, h.2.1, h.2.2⟩
  else none

end Binary64

/-- The whole number nearest to `num / den`; a tie goes to the even one. -/
def roundHalfEven (num den : Nat) : Nat :=
  let q := num / den
  let r := num % den
  if 2 * r < den then q else if den < 2 * r then q + 1 else if q % 2 = 0 then q else q + 1

namespace Binary64

/-- The scale at which a fraction of units with whole part `whole` has a mantissa of 53 bits, or 0 if it is too small
for that. -/
def scaleOf (whole : Nat) : Nat := Nat.log2 whole - 52

/-- The double nearest to `num / den` units; `none` where that is beyond the largest one. -/
def ofUnits? (negative : Bool) (num den : Nat) : Option Binary64 :=
  let s := scaleOf (num / den)
  let m := roundHalfEven num (den * twoTo s)
  if m = twoTo 53 then ofParts? negative (twoTo 52) (s + 1) else ofParts? negative m s

/-- The double nearest to `num / den`; `none` where that is beyond the largest one. -/
def round? (negative : Bool) (num den : Nat) : Option Binary64 := ofUnits? negative (num * twoTo 1074) den

/-- The double nearest to `digits * 10 ^ exponent`.  The first place of the number tells at once when it lies far beyond
the largest double or far below the smallest. -/
def ofDecimal? (negative : Bool) (digits : Nat) (exponent : Int) : Option Binary64 :=
  let place : Int := (Nat.toDigits 10 digits).length + exponent
  if digits = 0 ∨ place < -330 then some (zero negative)
  else if 330 < place then none
  else match exponent with
    | .ofNat e => round? negative (digits * tenTo e) 1
    | .negSucc e => round? negative digits (tenTo (e + 1))

def ofNat? (n : Nat) : Option Binary64 := round? false n 1

def mul? (x y : Binary64) : Option Binary64 :=
  ofUnits? (x.negative != y.negative) (x.units * y.units) (twoTo 1074)

/-- The rounded quotient; `none` also where `y` is zero. -/
def div? (x y : Binary64) : Option Binary64 :=
  if y.isZero then none else ofUnits? (x.negative != y.negative) (x.units * twoTo 1074) y.units

def isWhole (x : Binary64) : Bool := x.units % twoTo 1074 == 0

end Binary64
end CalcConsole
