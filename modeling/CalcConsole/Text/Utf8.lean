/-! # UTF-8

`read` takes any bytes: a sequence that is no character, cut at the first byte that shows so, reads as a mark, which for
`lossy` is U+FFFD.  `splitBytes?` cuts a text at a distance in bytes, which `byteCount` gives for the text before the cut. -/
namespace CalcConsole
namespace Text

/-- A character of which bytes are still to come: the bits so far, the range of the next byte, and how many more follow
that one. -/
structure Lead where
  bits : Nat
  low : Nat
  high : Nat
  more : Nat

def Lead.ofByte? (b : Nat) : Option Lead :=
  if 0xc2 ≤ b && b ≤ 0xdf then some ⟨b - 0xc0, 0x80, 0xbf, 0⟩
  else if b == 0xe0 then some ⟨0, 0xa0, 0xbf, 1⟩
  else if b == 0xed then some ⟨0xd, 0x80, 0x9f, 1⟩
  else if 0xe1 ≤ b && b ≤ 0xef then some ⟨b - 0xe0, 0x80, 0xbf, 1⟩
  else if b == 0xf0 then some ⟨0, 0x90, 0xbf, 2⟩
  else if b == 0xf4 then some ⟨4, 0x80, 0x8f, 2⟩
  else if 0xf1 ≤ b && b ≤ 0xf3 then some ⟨b - 0xf0, 0x80, 0xbf, 2⟩
  else none

/-- What the next byte makes of the character: it is complete, or more is to come. -/
def Lead.take (l : Lead) (b : Nat) : List Char × Option Lead :=
  match l.more with
  | 0 => ([Char.ofNat (l.bits * 64 + (b - 0x80))], none)
  | more + 1 => ([], some ⟨l.bits * 64 + (b - 0x80), 0x80, 0xbf, more⟩)

def begin (mark : List Char) (b : Nat) : List Char × Option Lead :=
  if b < 0x80 then ([Char.ofNat b], none)
  else match Lead.ofByte? b with
    | some l => ([], some l)
    | none => (mark, none)

def step (mark : List Char) (pending : Option Lead) (b : Nat) : List Char × Option Lead :=
  match pending with
  | none => begin mark b
  | some l => if l.low ≤ b && b ≤ l.high then l.take b else (mark ++ (begin mark b).1, (begin mark b).2)

/-- One character for each that the bytes spell, and `mark` for each sequence that spells none. -/
def decoded (mark : List Char) : (pending : Option Lead) → List Nat → List Char
  | none, [] => []
  | some _, [] => mark
  | pending, b :: bs => (step mark pending b).1 ++ decoded mark (step mark pending b).2 bs

def read (mark : List Char) (bytes : ByteArray) : String := String.ofList (decoded mark none (bytes.data.toList.map UInt8.toNat))

def lossy (bytes : ByteArray) : String := read ['\ufffd'] bytes

/-! ## Distances in bytes -/

def byteCount : List Char → Nat
  | [] => 0
  | c :: cs => c.utf8Size + byteCount cs

/-- The first `n` bytes of a text, and what follows them; `none` where the text ends before or a character lies across
the cut. -/
def splitBytes? : (n : Nat) → List Char → Option (List Char × List Char)
  | 0, cs => some ([], cs)
  | _ + 1, [] => none
  | n + 1, c :: cs =>
    if c.utf8Size ≤ n + 1 then (splitBytes? (n + 1 - c.utf8Size) cs).map fun r => (c :: r.1, r.2) else none

end Text
end CalcConsole
