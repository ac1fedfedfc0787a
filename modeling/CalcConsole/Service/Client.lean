import CalcConsole.Service.Failure
import CalcConsole.Service.Operation
import CalcConsole.Session.Basic
/-! # The client of the service

One request for each call, without retries.  A status below 400 is a success, whose body has to decode; any other is a
rejection with the message of the service. -/
namespace CalcConsole

structure Client where
  baseUrl : String
  /-- How long a call may take in milliseconds, if there is a limit. -/
  timeout : Option Nat
deriving DecidableEq, Repr

namespace Client

variable {σ : Type} {α : Type}

def dropSlashes (cs : List Char) : List Char := (cs.reverse.dropWhile (· == '/')).reverse

/-- A client for the service at `url`; no milliseconds mean no limit. -/
def make (url : String) (timeoutMs : Nat) : Client :=
  ⟨String.ofList (dropSlashes url.toList), if timeoutMs = 0 then none else some timeoutMs⟩

def jsonType : String := "application/json"

def request (c : Client) (method path : String) (token : Option Token) (payload : Option Json) :
    Except String Request :=
  match Url.read? (c.baseUrl ++ path) with
  | none => .error "the address is not an absolute address of the web"
  | some url =>
    if !token.all (fun t => isHeaderValue t.bearer) then .error "the token does not fit into a header"
    else .ok {
      method := method
      path := url.path
      authorization := token.map fun t => sentHeader t.bearer
      accept := some jsonType
      contentType := payload.map fun _ => jsonType
      body := (payload.map Json.compact).getD "" }

def send (c : Client) (method path : String) (token : Option Token) (payload : Option Json) (n : Network) :
    Except String Reply × Network :=
  match c.request method path token payload with
  | .error e => (.error e, n)
  | .ok r =>
    match n.send r with
    | (.answered reply, n) => (.ok reply, n)
    | (.dropped, n) => (.error "the connection was closed without an answer", n)
    | (.refused, n) => (.error "the connection was refused", n)

/-- What a rejection says: the member `error` of its body, or else the body, or else the reason. -/
def rejectionMessage (body reason : String) : String :=
  match Json.ofText Account.decodeRejection body with
  | .ok message => message
  | .error _ => if Text.trim body = "" then reason else Text.trim body

def readSuccess (decode : Json.Decoder α) (body : Body) : Except Fault α := Json.ofDocument decode body.document

/-- What an answer means: the value that was asked for, or why there is none. -/
def readReply (decode : Json.Decoder α) (r : Reply) : Except ServiceError α :=
  if r.status < 400 then
    match readSuccess decode r.body with
    | .ok a => .ok a
    | .error f => .error (.decode ("Failed to read JSON: " ++ f.message))
  else .error (.ofStatus r.status (rejectionMessage r.body.text (Text.trim r.reason)))

def callEvent (method path : String) (reply : Except String Reply) : Event :=
  match reply with
  | .error detail => .requestFailed method path detail
  | .ok r =>
    if r.status < 400 then .requestOk method path r.status
    else .requestRejected method path r.status
      (ServiceError.ofStatus r.status (rejectionMessage r.body.text (Text.trim r.reason))).message

def call (c : Client) (method path : String) (token : Option Token) (payload : Option Json)
    (decode : Json.Decoder α) (k : Console σ) : Except ServiceError α × Console σ :=
  let (reply, network) := c.send method path token payload k.network
  let k := { k with network }.note (callEvent method path reply)
  match reply with
  | .error detail => (.error (.transport detail), k)
  | .ok r => (readReply decode r, k)

def listOf (decode : (room : Nat) → Json.Decoder α) : Json.Decoder (List α) :=
  Json.decodeList (decode (Json.topRoom - 1))

def decodeExpressions : Json.Decoder (List Expression) := listOf Expression.decode

def decodeOperations : Json.Decoder (List Operation) := listOf Operation.decode

def decodeAgents : Json.Decoder (List Agent) := listOf Agent.decode

def newExpression (text : String) : Json := .struct [("data", .text text)]

def costUpdate (operationType : String) (executionTime : Nat) : Json :=
  .struct [("operation_type", .text operationType), ("execution_time", .nat executionTime)]

/-! ## The calls of the service -/

def listExpressions (c : Client) (token : Option Token) (k : Console σ) :
    Except ServiceError (List Expression) × Console σ :=
  c.call "GET" "/expressions" token none decodeExpressions k

def createExpression (c : Client) (token : Option Token) (text : String) (k : Console σ) :
    Except ServiceError Expression × Console σ :=
  c.call "POST" "/expressions" token (some (newExpression text)) (Expression.decode Json.topRoom) k

def listOperations (c : Client) (token : Option Token) (k : Console σ) :
    Except ServiceError (List Operation) × Console σ :=
  c.call "GET" "/operations" token none decodeOperations k

def updateOperation (c : Client) (token : Option Token) (operationType : String) (executionTime : Nat)
    (k : Console σ) : Except ServiceError Operation × Console σ :=
  c.call "PATCH" "/operations" token (some (costUpdate operationType executionTime)) (Operation.decode Json.topRoom) k

def listAgents (c : Client) (token : Option Token) (k : Console σ) : Except ServiceError (List Agent) × Console σ :=
  c.call "GET" "/agents" token none decodeAgents k

/-- Earns a token and keeps it in the session. -/
def login (c : Client) (credentials : Credentials) (s : Session σ) (k : Console σ) :
    Except ServiceError Token × Session σ × Console σ :=
  match c.call "POST" "/login" s.token (some credentials.json) Account.decodeLogin k with
  | (.error e, k) => (.error e, s, k)
  | (.ok token, k) =>
    match s.change (.setToken token) k with
    | (.error e, s, k) => (.error (.session e), s, k)
    | (.ok (), s, k) => (.ok token, s, k.note (.loggedIn credentials.email))

/-- Makes an account, and does not log in. -/
def register (c : Client) (credentials : Credentials) (token : Option Token) (k : Console σ) :
    Except ServiceError Identifier × Console σ :=
  match c.call "POST" "/register" token (some credentials.json) (Account.decodeRegistration Json.topRoom) k with
  | (.error e, k) => (.error e, k)
  | (.ok user, k) => (.ok user, k.note (.registered credentials.email user))

end Client
end CalcConsole
