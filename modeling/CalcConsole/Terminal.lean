import CalcConsole.Views.Icons
/-! # Styles of the terminal

A style is a list of codes in the order in which they are sent, and `paint` puts a text between the codes and the reset.
A reset within the text ends only what is inside, so the style is opened again behind it. -/
namespace CalcConsole

abbrev Style := List Nat

namespace Style

def strong : Style := [1]

def faint : Style := [2]

def active : Style := [1, 4]

def heading : Style := [1, 36]

def good : Style := [1, 32]

def bad : Style := [1, 31]

def found : Style := [32]

def warning : Style := [33]

def reset : List Char := ['\x1b', '[', '0', 'm']

def opening (s : Style) : List Char := '\x1b' :: '[' :: [';'].intercalate (s.map (Nat.toDigits 10)) ++ ['m']

/-- The text with `s` opened again behind each reset. -/
def reopen (s : Style) : List Char → List Char
  | '\x1b' :: '[' :: '0' :: 'm' :: cs => reset ++ s.opening ++ reopen s cs
  | c :: cs => c :: reopen s cs
  | [] => []

def paint (colours : Bool) (s : Style) (text : String) : String :=
  if colours then String.ofList (s.opening ++ reopen s text.toList ++ reset) else text

end Style

def Icon.style : Icon → Style
  | .black => [90]
  | .green => [32]
  | .yellow => [33]
  | .red => [31]

def Icon.glyph (colours : Bool) (i : Icon) : String := Style.paint colours i.style "●"

namespace Text

def fillRight (width : Nat) (s : String) : String := s ++ String.ofList (List.replicate (width - s.length) ' ')

def fillLeft (width : Nat) (s : String) : String := String.ofList (List.replicate (width - s.length) ' ') ++ s

end Text
end CalcConsole
