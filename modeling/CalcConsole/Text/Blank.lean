/-! # Blank characters

`isBlank` is the `White_Space` property of Unicode.  A text is trimmed of it before it is shown, and a time stamp may
hold it between its parts. -/
namespace CalcConsole
namespace Text

/-- The characters with the property `White_Space`. -/
def isBlank (c : Char) : Bool :=
  let n := c.toNat
  (9 ≤ n && n ≤ 13) || n == 0x20 || n == 0x85 || n == 0xa0 || n == 0x1680 || (0x2000 ≤ n && n ≤ 0x200a) ||
    n == 0x2028 || n == 0x2029 || n == 0x202f || n == 0x205f || n == 0x3000

def trimStart (cs : List Char) : List Char := cs.dropWhile isBlank

def trimEnd (cs : List Char) : List Char := (cs.reverse.dropWhile isBlank).reverse

def trim (s : String) : String := String.ofList (trimEnd (trimStart s.toList))

/-- A text in which the letters `A` to `Z` are small; all others stay. -/
def lowerAscii (s : String) : String := String.ofList (s.toList.map Char.toLower)

def dropLead? : List Char → List Char → Option (List Char)
  | [], cs => some cs
  | _ :: _, [] => none
  | l :: lead, c :: cs => if l = c then dropLead? lead cs else none

theorem eq_append_of_dropLead? : ∀ {lead cs rest : List Char}, dropLead? lead cs = some rest → cs = lead ++ rest
  | [], _, _, h => by simp_all [dropLead?]
  | l :: lead, c :: cs, rest, h => by
    by_cases hc : l = c
    · simp only [dropLead?, hc, if_true] at h
      simp [hc, eq_append_of_dropLead? h]
    · simp [dropLead?, hc] at h

/-- The pieces between the places where `sep` stands: one more than there are such places. -/
def pieces (sep : Char) : List Char → List (List Char)
  | [] => [[]]
  | c :: cs => if c = sep then [] :: pieces sep cs else
    match pieces sep cs with
    | [] => [[c]]
    | p :: ps => (c :: p) :: ps

def splitOn (sep : Char) (s : String) : List String := (pieces sep s.toList).map String.ofList

theorem pieces_ne_nil (sep : Char) : ∀ cs : List Char, pieces sep cs ≠ []
  | [] => by simp [pieces]
  | c :: cs => by
    by_cases h : c = sep
    · simp [pieces, h]
    · simp only [pieces, h, if_false]
      split <;> simp

end Text
end CalcConsole
