import CalcConsole.Number.Binary64
/-! # The shortest decimal that reads back

`Binary64.shortest` finds the fewest decimal digits whose nearest double is the given one, and among those the decimal
nearest to it.  The numbers that round to a double form an interval, which holds its two ends when the mantissa is
even; on the grid of `n` digits only the two neighbours of the value need a test.  Where both lie equally near, the
writer says which one it takes. -/
namespace CalcConsole

/-- Which of two decimals that are equally near is taken: the one with the even last digit, or the larger one. -/
inductive Tie where
  | even | up
deriving DecidableEq, Repr

def Tie.goesUp (tie : Tie) (below : Nat) : Bool :=
  match tie with
  | even => below % 2 == 1
  | up => true

/-- The number `digits * 10 ^ exponent`. -/
structure Decimal where
  digits : Nat
  exponent : Int
deriving DecidableEq, Repr

namespace Decimal

def digitCount (n : Nat) : Nat := (Nat.toDigits 10 n).length

/-- The same number with no zero at the end of its digits. -/
def normalize : (fuel : Nat) → Decimal → Decimal
  | 0, d => d
  | fuel + 1, d => if d.digits ≠ 0 ∧ d.digits % 10 = 0 then normalize fuel ⟨d.digits / 10, d.exponent + 1⟩ else d

/-- The `p` with `10 ^ (p - 1) ≤ num / den < 10 ^ p`. -/
def pointOf (num den : Nat) : Int :=
  let a := digitCount num
  let b := digitCount den
  if b ≤ a then
    if den * tenTo (a - b) ≤ num then (a - b : Nat) + 1 else (a - b : Nat)
  else
    if den ≤ num * tenTo (b - a) then 1 - ((b - a : Nat) : Int) else -((b - a : Nat) : Int)

end Decimal

namespace Binary64

/-- Four times the units of the value, of the lower and of the upper end of the interval that rounds to it. -/
def middle4 (x : Binary64) : Nat := 4 * x.units

def lower4 (x : Binary64) : Nat :=
  if x.mantissa = twoTo 52 ∧ x.scale ≠ 0 then 4 * x.units - twoTo x.scale else 4 * x.units - 2 * twoTo x.scale

def upper4 (x : Binary64) : Nat := 4 * x.units + 2 * twoTo x.scale

def den4 : Nat := 4 * twoTo 1074

/-- Whether `num / den` rounds to `x`, where `num / den` is in the measure of `middle4`. -/
def roundsTo (x : Binary64) (num den : Nat) : Bool :=
  if x.mantissa % 2 = 0 then x.lower4 * den ≤ num && num ≤ x.upper4 * den
  else x.lower4 * den < num && num < x.upper4 * den

/-- The grid `10 ^ exponent` in the measure of `middle4`, as a fraction. -/
def gridStep (exponent : Int) : Nat × Nat :=
  match exponent with
  | .ofNat e => (den4 * tenTo e, 1)
  | .negSucc e => (den4, tenTo (e + 1))

/-- The neighbour of `x` on the grid `10 ^ exponent` that rounds to `x`; of two the nearer. -/
def onGrid? (x : Binary64) (tie : Tie) (exponent : Int) : Option Nat :=
  let (step, den) := gridStep exponent
  let v := x.middle4 * den
  let below := v / step
  let lowOk := 0 < below && x.roundsTo (below * step) den
  let highOk := x.roundsTo ((below + 1) * step) den
  if lowOk && highOk then
    let r := v - below * step
    if 2 * r < step then some below
    else if step < 2 * r then some (below + 1)
    else if tie.goesUp below then some (below + 1) else some below
  else if lowOk then some below
  else if highOk then some (below + 1)
  else none

def search (x : Binary64) (tie : Tie) (point : Int) : (n fuel : Nat) → Option Decimal
  | _, 0 => none
  | n, fuel + 1 =>
    match x.onGrid? tie (point - n) with
    | some d => some (Decimal.normalize 20 ⟨d, point - n⟩)
    | none => search x tie point (n + 1) fuel

/-- The shortest decimal that reads back as the absolute value; seventeen digits always suffice. -/
def shortest (x : Binary64) (tie : Tie) : Decimal :=
  if x.isZero then ⟨0, 0⟩ else (x.search tie (Decimal.pointOf x.middle4 den4) 1 17).getD ⟨0, 0⟩

end Binary64
end CalcConsole
