/-! # Powers and bounds

The powers of two and ten that numbers are scaled by, and the bounds of the integers that fit into 64 bits. -/
namespace CalcConsole

def twoTo (n : Nat) : Nat := Nat.pow 2 n

def tenTo (n : Nat) : Nat := Nat.pow 10 n

theorem twoTo_succ (n : Nat) : twoTo (n + 1) = twoTo n * 2 := rfl

theorem tenTo_succ (n : Nat) : tenTo (n + 1) = tenTo n * 10 := rfl

theorem twoTo_pos : ∀ n : Nat, 0 < twoTo n
  | 0 => by decide
  | n + 1 => by
    have := twoTo_pos n
    rw [twoTo_succ]
    omega

/-- The first number that does not fit into 64 bits without a sign. -/
def unsignedBound : Nat := 18446744073709551616

/-- The first number that does not fit into 64 bits with a sign; its negative does. -/
def signedBound : Nat := 9223372036854775808

theorem unsignedBound_eq : unsignedBound = twoTo 64 := by decide

theorem signedBound_eq : signedBound = twoTo 63 := by decide

end CalcConsole
