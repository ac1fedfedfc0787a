import CalcConsole.Json.Record
import CalcConsole.Json.Printer
import CalcConsole.Service.Identifier
/-! # Accounts

What a user gives to log in or to register, and what the service gives back. -/
namespace CalcConsole

structure Credentials where
  email : String
  password : String
deriving DecidableEq

namespace Credentials

def empty : Credentials := ⟨"", ""⟩

def isComplete (c : Credentials) : Bool := !c.email.isEmpty && !c.password.isEmpty

/-- The credentials for a log, which must not hold the password. -/
def redacted (c : Credentials) : String :=
  "Credentials \x7b email: " ++ Text.quoted c.email ++ ", password: \"<redacted>\" \x7d"

def json (c : Credentials) : Json := .struct [("email", .text c.email), ("password", .text c.password)]

end Credentials

structure Token where
  text : String
deriving DecidableEq

namespace Token

def bearer (t : Token) : String := "Bearer " ++ t.text

def json (t : Token) : Json := .text t.text

def decode : Json.Decoder Token := fun v => (Json.decodeString v).map Token.mk

end Token

namespace Account

/-- A record with one field, as the service's short answers are. -/
inductive Only where
  | it
deriving DecidableEq

def single (name key : String) (T : Type) (decode : Json.Decoder T) : Json.Shape Only (fun _ => T) where
  name := name
  fields := [.it]
  key _ := key
  alias? _ := none
  optional _ := false
  decode _ := decode

def decodeSingle {T : Type} (sh : Json.Shape Only (fun _ => T)) : Json.Decoder T := fun v => do
  sh.need (← sh.slots v) .it

def decodeLogin : Json.Decoder Token :=
  fun v => (decodeSingle (single "LoginResponse" "token" String Json.decodeString) v).map Token.mk

def decodeRegistration (room : Nat) : Json.Decoder Identifier :=
  decodeSingle (single "RegisterResponse" "user_id" Identifier (Identifier.decode (room - 1)))

def decodeRejection : Json.Decoder String := decodeSingle (single "ErrorBody" "error" String Json.decodeString)

end Account
end CalcConsole
