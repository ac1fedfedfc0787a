import CalcConsole.Log.Event
import CalcConsole.Text.Digits
import CalcConsole.Text.Pattern
import CalcConsole.Text.Utf8
/-! # Filters

A filter is a list of directives with commas between them, and decides which events a log shows.  Of the directives that
apply to an event the most specific one decides: the one with the longest target, and then with the most fields. -/
namespace CalcConsole

/-- Shows the events whose target begins with `target`, and which have all of `fields`, up to a level.  A directive with
`within` holds inside of a span, and the program has none. -/
structure Directive where
  target : Option String
  fields : List String
  within : Bool
  rank : Nat
deriving DecidableEq, Repr

namespace Directive

/-- The levels by name, in any mix of capital and small letters. -/
def ranks : List (String × Nat) := [("off", 0), ("error", 1), ("warn", 2), ("info", 3), ("debug", 4), ("trace", 5)]

def rank? (s : String) : Option Nat :=
  match Text.readU64? s with
  | some n => if n ≤ 5 then some n else none
  | none => (ranks.find? (·.1 = Text.lowerAscii s)).map (·.2)

/-- The level behind an equals sign; without one all is shown. -/
def levelOf? (cs : List Char) : Option Nat := if cs.isEmpty then some 5 else rank? (String.ofList cs)

def isLead (c : Char) : Bool := c == '-' || c == ':' || c == '_' || Text.isAlphanumeric c

/-! ## The parts of a directive

A directive is read without the blanks around it, but its parts are cut from the text with them: each part by its
distance in bytes from the start, and a last part up to the end.  So a blank in front moves every part, and one behind
belongs to the last. -/

/-- The text from one distance to another; `none` where a character lies across one of them. -/
def cut? (full : List Char) (start stop : Nat) : Option (List Char) := do
  let (_, rest) ← Text.splitBytes? start full
  let (part, _) ← Text.splitBytes? (stop - start) rest
  some part

def cutFrom? (full : List Char) (start : Nat) : Option (List Char) := (Text.splitBytes? start full).map (·.2)

/-- What follows at the distance `pos` behind a target or a span: nothing, or a level. -/
def tail? (full : List Char) (d : Directive) (pos : Nat) : List Char → Option Directive
  | [] => some d
  | '=' :: _ => do
    let level ← cutFrom? full (pos + 1)
    (levelOf? level).map fun rank => { d with rank }
  | _ => none

/-- A field of a span by its name; its value, if it has one, has to be a number or a pattern. -/
def field? (cs : List Char) : Option (String × Bool) :=
  match Text.pieces '=' cs with
  | [] | [[]] => none
  | [key] => some (String.ofList key, false)
  | key :: value :: _ =>
    if Text.isNumber value || Text.isPattern value then some (String.ofList key, true) else none

/-- A span by its name, by one of its fields, or by both, from the distance `pos` on.  A field with a value can only be
looked up in a span. -/
def span? (full : List Char) (target : Option String) (pos : Nat) (cs : List Char) : Option Directive :=
  let name := cs.takeWhile fun c => c != ']' && c != '\x7b'
  let stop := pos + Text.byteCount name
  match cs.dropWhile fun c => c != ']' && c != '\x7b' with
  | ']' :: rest => (cut? full pos stop).bind fun _ => tail? full ⟨target, [], true, 5⟩ (stop + 1) rest
  | '\x7b' :: rest =>
    let close := stop + 1 + Text.byteCount (rest.takeWhile (· != '\x7d'))
    match rest.dropWhile (· != '\x7d') with
    | '\x7d' :: ']' :: rest => do
      let name ← cut? full pos stop
      let (key, hasValue) ← field? (← cut? full (stop + 1) close)
      tail? full ⟨target, [key], !name.isEmpty || hasValue, 5⟩ (close + 2) rest
    | _ => none
  | _ => none

/-- A level, a target, a target with a level, or either of the last two with a span. -/
def readChars? (full cs : List Char) : Option Directive :=
  let stop := Text.byteCount (cs.takeWhile fun c => c != '=' && c != '[')
  let target := (cut? full 0 stop).map String.ofList
  match cs with
  | [] => none
  | '[' :: cs => span? full none 1 cs
  | c :: _ =>
    if !isLead c then none
    else match cs.dropWhile fun c => c != '=' && c != '[' with
      | [] =>
        match rank? (String.ofList full) with
        | some rank => some ⟨none, [], false, rank⟩
        | none => some ⟨some (String.ofList full), [], false, 5⟩
      | '[' :: cs => target.bind fun target => span? full (some target) (stop + 1) cs
      | cs => target.bind fun target => tail? full ⟨some target, [], false, 5⟩ stop cs

def read? (s : String) : Option Directive := readChars? s.toList (Text.trim s).toList

/-- How long the target is; no target is shorter than all. -/
def reach (d : Directive) : Nat :=
  match d.target with
  | none => 0
  | some t => t.utf8ByteSize + 1

def outranks (d e : Directive) : Bool :=
  if d.reach ≠ e.reach then e.reach < d.reach
  else if d.fields.length ≠ e.fields.length then e.fields.length < d.fields.length
  else decide (e.fields < d.fields)

end Directive

/-- The fields of an event by name.  An event of the network has its duration as a field that is not kept. -/
def Event.fieldNames (e : Event) : List String :=
  "message" :: (match e with
    | .requestOk .. | .requestRejected .. | .requestFailed .. => ["elapsed_ms"]
    | _ => []) ++ e.fields.map (·.1)

structure LogFilter where
  directives : List Directive
deriving DecidableEq, Repr

namespace LogFilter

/-- The filter that a text describes; one without directives shows errors only. -/
def read? (s : String) : Option LogFilter :=
  (((Text.splitOn ',' s).filter (· ≠ "")).mapM Directive.read?).map fun ds =>
    ⟨if ds.isEmpty then [⟨none, [], false, Level.error.rank⟩] else ds⟩

def standard : LogFilter := ⟨[⟨none, [], false, Level.warn.rank⟩]⟩

def applies (e : Event) (d : Directive) : Bool :=
  !d.within && d.target.all (fun t => t.toList.isPrefixOf e.target.toList) && d.fields.all e.fieldNames.contains

/-- The more specific of two directives; the later one if neither is. -/
def prefer (best : Option Directive) (d : Directive) : Option Directive :=
  match best with
  | some b => if b.outranks d then some b else some d
  | none => some d

def deciding? (f : LogFilter) (e : Event) : Option Directive := (f.directives.filter (applies e)).foldl prefer none

def shows (f : LogFilter) (e : Event) : Bool := (f.deciding? e).any fun d => e.level.rank ≤ d.rank

def choose (override : Option String) (level : String) : LogFilter :=
  ((override.bind read?).or (read? level)).getD standard

end LogFilter
end CalcConsole
