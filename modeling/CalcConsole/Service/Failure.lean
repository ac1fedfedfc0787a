import CalcConsole.Session.State
/-! # How a call to the service fails

A rejection keeps the status and the message of the service; all other failures have no status. -/
namespace CalcConsole

inductive ServiceError where
  /-- The service refuses what was sent. -/
  | validation (status : Nat) (message : String)
  /-- The token is missing, wrong or too old. -/
  | auth (status : Nat) (message : String)
  /-- The service fails at its own work. -/
  | server (status : Nat) (message : String)
  /-- No answer came. -/
  | transport (detail : String)
  /-- The answer is a success, but not what was asked for. -/
  | decode (detail : String)
  /-- The call succeeded, and the session could not be saved. -/
  | session (cause : SessionError)
deriving DecidableEq, Repr

namespace ServiceError

/-- A rejection with its class. -/
def ofStatus (status : Nat) (message : String) : ServiceError :=
  if status = 401 ∨ status = 403 then .auth status message
  else if 400 ≤ status ∧ status ≤ 499 then .validation status message
  else .server status message

def status? : ServiceError → Option Nat
  | .validation status _ | .auth status _ | .server status _ => some status
  | .transport _ | .decode _ | .session _ => none

def message : ServiceError → String
  | .validation _ message | .auth _ message | .server _ message => message
  | .transport detail => "transport error: " ++ detail
  | .decode detail => "unexpected response from service: " ++ detail
  | .session cause => "session error: " ++ cause.message

def isAuth : ServiceError → Bool
  | .auth _ _ => true
  | _ => false

end ServiceError
end CalcConsole
