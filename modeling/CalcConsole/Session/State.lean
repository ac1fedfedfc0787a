import CalcConsole.Disk
import CalcConsole.Service.Account
import CalcConsole.ViewName
/-! # What a session keeps

The view that was last open and the token of the user who is logged in.  A page that names no view reads as unset and
does not cost the token; every other fault of the text does. -/
namespace CalcConsole

structure SessionError where
  path : String
  cause : FileError
deriving DecidableEq, Repr

def SessionError.message (e : SessionError) : String :=
  "failed to access session file " ++ e.path ++ ": " ++ e.cause.message

structure SessionState where
  page : Option ViewName
  token : Option Token
deriving DecidableEq

namespace SessionState

def empty : SessionState := ⟨none, none⟩

inductive Field where
  | page | token
deriving DecidableEq, Repr

/-- A page as a text gives it. -/
inductive Page where
  | unset
  | view (v : ViewName)
  | unknown (raw : Json)

def Page.view? : Page → Option ViewName
  | .view v => some v
  | _ => none

def Page.decode (room : Nat) : Json.Decoder Page
  | .null => .ok .unset
  | v =>
    if !v.storable room then .error .malformed
    else match v with
      | .string (some s) =>
        match ViewName.ofWord? s with
        | some w => .ok (.view w)
        | none => .ok (.unknown v)
      | _ => .ok (.unknown v)

@[reducible] def Field.Value : Field → Type
  | .page => Page
  | .token => Option Token

def shape (room : Nat) : Json.Shape Field Field.Value where
  name := "SessionState"
  fields := [.page, .token]
  key
    | .page => "page"
    | .token => "token"
  alias? _ := none
  optional _ := true
  decode
    | .page => Page.decode room
    | .token => Json.decodeOption Token.decode

def ofSlots (s : Json.Slots Field.Value) : SessionState :=
  ⟨(s .page).bind Page.view?, (s .token).join⟩

def unknownPage (s : Json.Slots Field.Value) : Option Json :=
  match s .page with
  | some (.unknown raw) => some raw
  | _ => none

/-- The state that a text holds, and the page of the text if it names no view. -/
def read (text : String) : Except Fault SessionState × Option Json :=
  let d := Json.read text
  let (s, fault) := (shape (Json.topRoom - 1)).gather d.value
  let state := match fault with
    | some e => .error e
    | none => if d.ended then .ok (ofSlots s) else .error .malformed
  (state, unknownPage s)

def json (s : SessionState) : Json :=
  .struct ((s.page.toList.map fun v => ("page", v.json)) ++ (s.token.toList.map fun t => ("token", t.json)))

def render (s : SessionState) : String := s.json.pretty

/-! ## Changes -/

inductive Change where
  | setView (v : ViewName)
  | setToken (t : Token)
  | clearToken
  | clear
deriving DecidableEq

def apply (s : SessionState) : Change → SessionState
  | .setView v => { s with page := some v }
  | .setToken t => { s with token := some t }
  | .clearToken => { s with token := none }
  | .clear => empty

def view (s : SessionState) : ViewName := s.page.getD .initial

def isAuthenticated (s : SessionState) : Bool := s.token.isSome

end SessionState
end CalcConsole
