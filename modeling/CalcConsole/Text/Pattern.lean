import CalcConsole.Text.Alphanumeric
import CalcConsole.Text.Blank
import CalcConsole.Text.Hex
/-! # Patterns

Which texts are patterns, that is, regular expressions that a value can be held against.  A pattern is only judged here
and never run.

Patterns know the characters of all scripts, but neither their classes nor their two cases.  So the escapes for classes
of characters and for the bounds of words, and letters of either case, need the flag `u` to be turned off, and a
pattern without that flag may only ask for ASCII.  Repetitions with counts are left out, and so is an escape with
braces: no value holds the brace that would close one. -/
namespace CalcConsole
namespace Text
namespace Pattern

/-- The flags under which a part of a pattern is read. -/
structure Mode where
  /-- Letters stand for both of their cases. -/
  caseless : Bool
  /-- Characters of all scripts count, and not the bytes of ASCII. -/
  wide : Bool
  /-- Blanks do not count, and comments run from a number sign to the end of the line. -/
  spaced : Bool
deriving DecidableEq, Repr

def Mode.initial : Mode := ⟨false, true, false⟩

mutual

def skipSpaced : List Char → List Char
  | [] => []
  | c :: cs => if isBlank c then skipSpaced cs else if c = '#' then skipRemark cs else c :: cs

def skipRemark : List Char → List Char
  | [] => []
  | c :: cs => if c = '\n' then skipSpaced cs else skipRemark cs

end

def Mode.skip (m : Mode) (cs : List Char) : List Char := if m.spaced then skipSpaced cs else cs

/-! ## Escapes -/

inductive Escape where
  | char (c : Char)
  /-- A class of characters. -/
  | kind
  /-- A place between two characters. -/
  | place
deriving DecidableEq, Repr

def hexDigits? (m : Mode) : (count value : Nat) → List Char → Option (Nat × List Char)
  | 0, value, cs => some (value, m.skip cs)
  | count + 1, value, cs =>
    match m.skip cs with
    | [] => none
    | c :: cs => (hexValue? c).bind fun d => hexDigits? m count (value * 16 + d) cs

def hexEscape? (m : Mode) (count bound : Nat) (cs : List Char) : Option (Escape × List Char) :=
  (hexDigits? m count 0 cs).bind fun (n, cs) =>
    if n.isValidChar && n < bound then some (.char (Char.ofNat n), cs) else none

def controls : List (Char × Char) :=
  [('a', '\x07'), ('f', '\x0c'), ('t', '\t'), ('n', '\n'), ('r', '\r'), ('v', '\x0b')]

/-- An escape behind its backslash.  What is neither a letter nor a digit stands for itself. -/
def escape? (m : Mode) : List Char → Option (Escape × List Char)
  | [] => none
  | c :: cs =>
    if c = 'x' then hexEscape? m 2 (if m.wide then 0x100 else 0x80) cs
    else if c = 'u' then hexEscape? m 4 0x110000 cs
    else if c = 'U' then hexEscape? m 8 0x110000 cs
    else if ['d', 's', 'w'].contains c then if m.wide then none else some (.kind, cs)
    else if ['b', 'B', '<', '>'].contains c then if m.wide then none else some (.place, cs)
    else if c = 'A' ∨ c = 'z' then some (.place, cs)
    else match controls.find? (·.1 = c) with
      | some (_, control) => some (.char control, cs)
      | none => if c.toNat < 0x80 ∧ !c.isAlphanum then some (.char c, cs) else none

/-! ## Sets -/

def setNames : List String :=
  ["alnum", "alpha", "ascii", "blank", "cntrl", "digit", "graph", "lower", "print", "punct", "space", "upper", "word",
   "xdigit"]

/-- A set given by its name, behind its bracket: whether it stands for its complement, and what follows. -/
def namedSet? (cs : List Char) : Option (Bool × List Char) := do
  let cs ← dropLead? [':'] cs
  let (negated, cs) := match cs with
    | '^' :: cs => (true, cs)
    | cs => (false, cs)
  let rest ← dropLead? [':', ']'] (cs.dropWhile (· ≠ ':'))
  if setNames.contains (String.ofList (cs.takeWhile (· ≠ ':'))) then some (negated, rest) else none

/-- A member of a set, which is a character or a class of them. -/
def member? (m : Mode) : List Char → Option (Option Char × List Char)
  | [] => none
  | '\\' :: cs =>
    match escape? m cs with
    | some (.char c, cs) => if m.wide || c.toNat < 0x80 then some (some c, cs) else none
    | some (.kind, cs) => some (none, cs)
    | _ => none
  | c :: cs => if m.wide || c.toNat < 0x80 then some (some c, cs) else none

/-- A member, or two characters with a dash between them that stand in order.  A dash before the closing bracket, or
before another dash, is for itself. -/
def range? (m : Mode) (cs : List Char) : Option (List Char) :=
  (member? m cs).bind fun (first, cs) =>
    match m.skip cs with
    | '-' :: rest =>
      match m.skip rest with
      | ']' :: _ | '-' :: _ => some ('-' :: rest)
      | rest =>
        match first, member? m rest with
        | some a, some (some b, cs) => if a ≤ b then some cs else none
        | _, _ => none
    | cs => some cs

/-- The start of a set behind its bracket: a caret takes the complement, and a closing bracket that comes first is a
member. -/
def openSet? (m : Mode) (cs : List Char) : Option (List Char) :=
  let inner (cs : List Char) := match m.skip cs with
    | ']' :: cs => cs
    | cs => cs
  match m.skip cs with
  | '^' :: cs => if m.wide then some (inner cs) else none
  | cs => some (inner cs)

/-- The members of a set up to its bracket, with `depth` sets open around it.  A doubled `&`, `-` or `~` joins what is
before and behind it. -/
def set? (m : Mode) : (fuel depth : Nat) → List Char → Option (List Char)
  | 0, _, _ => none
  | fuel + 1, depth, cs =>
    match m.skip cs with
    | [] => none
    | '[' :: cs =>
      match namedSet? cs with
      | some (negated, cs) => if negated && !m.wide then none else set? m fuel depth cs
      | none => (openSet? m cs).bind (set? m fuel (depth + 1))
    | ']' :: cs => if depth = 0 then some cs else set? m fuel (depth - 1) cs
    | '&' :: '&' :: cs | '-' :: '-' :: cs | '~' :: '~' :: cs => set? m fuel depth cs
    | cs => (range? m cs).bind (set? m fuel depth)

/-! ## Groups -/

/-- The mode after the given letters, of which those behind the dash turn a flag off; `none` if they are no flags. -/
def Mode.change? (m : Mode) (letters : List Char) : Option Mode :=
  let off := letters.dropWhile (· ≠ '-')
  let flag (letter : Char) (old : Bool) := if letters.contains letter then !off.contains letter else old
  if letters.all ['i', 'm', 's', 'U', 'u', 'R', 'x', '-'].contains && letters.Nodup && off ≠ ['-'] then
    some ⟨flag 'i' m.caseless, flag 'u' m.wide, flag 'x' m.spaced⟩
  else none

/-- Whether a group may have this name. -/
def isName : List Char → Bool
  | [] => false
  | c :: cs => (c == '_' || isLetter c) && cs.all fun c => ['_', '.', '[', ']'].contains c || isAlphanumeric c

inductive Opening where
  /-- Flags that hold for the rest of the group around them. -/
  | flags (m : Mode)
  | group (m : Mode) (name : Option String)

def opening? (m : Mode) (cs : List Char) : Option (Opening × List Char) :=
  let named (cs : List Char) :=
    let name := cs.takeWhile (· ≠ '>')
    (dropLead? ['>'] (cs.dropWhile (· ≠ '>'))).bind fun rest =>
      if isName name then some (Opening.group m (some (String.ofList name)), rest) else none
  match m.skip cs with
  | '?' :: 'P' :: '<' :: cs => named cs
  | '?' :: '<' :: cs => named cs
  | '?' :: cs =>
    let letters := cs.takeWhile fun c => c ≠ ':' ∧ c ≠ ')'
    (m.change? letters).bind fun changed =>
      match cs.dropWhile fun c => c ≠ ':' ∧ c ≠ ')' with
      | ':' :: rest => some (.group changed none, rest)
      | ')' :: rest => if letters.isEmpty then none else some (.flags changed, rest)
      | _ => none
  | cs => some (.group m none, cs)

/-! ## Patterns -/

/-- What is known in the middle of a pattern: the mode, the modes outside of the open groups, the names of groups, and
whether there is something that a sign of repetition can repeat. -/
structure Progress where
  mode : Mode
  outer : List Mode
  names : List String
  repeatable : Bool

def Progress.initial : Progress := ⟨.initial, [], [], false⟩

/-- Reads the pattern on from a place in its middle. -/
def accepts (p : Progress) : (fuel : Nat) → List Char → Bool
  | 0, _ => false
  | fuel + 1, cs =>
    let after (cs : List Char) := accepts { p with repeatable := true } fuel cs
    let cased := !(p.mode.caseless && p.mode.wide)
    match p.mode.skip cs with
    | [] => p.outer.isEmpty
    | '(' :: cs =>
      match opening? p.mode cs with
      | some (.flags mode, cs) => accepts { p with mode, repeatable := false } fuel cs
      | some (.group mode name, cs) =>
        !name.any p.names.contains && accepts ⟨mode, p.mode :: p.outer, name.toList ++ p.names, false⟩ fuel cs
      | none => false
    | ')' :: cs =>
      match p.outer with
      | [] => false
      | mode :: outer => accepts { p with mode, outer, repeatable := true } fuel cs
    | '|' :: cs => accepts { p with repeatable := false } fuel cs
    | '*' :: cs | '+' :: cs | '?' :: cs => p.repeatable && after cs
    | '\x7b' :: _ => false
    | '^' :: cs | '$' :: cs => after cs
    | '.' :: cs => p.mode.wide && after cs
    | '[' :: cs =>
      match (openSet? p.mode cs).bind (set? p.mode fuel 0) with
      | some cs => cased && after cs
      | none => false
    | '\\' :: cs =>
      match escape? p.mode cs with
      | some (.place, cs) => after cs
      | some (_, cs) => cased && after cs
      | none => false
    | _ :: cs => cased && after cs

end Pattern

def isPattern (cs : List Char) : Bool := Pattern.accepts .initial (cs.length + 1) cs

end Text
end CalcConsole
