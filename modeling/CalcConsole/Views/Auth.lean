import CalcConsole.Service.Client
import CalcConsole.Views.Tickets
/-! # The form of an account

One form with two modes, to log in and to register.  A change of mode clears what was typed. -/
namespace CalcConsole

inductive AuthMode where
  | login | registration
deriving DecidableEq, Repr

def AuthMode.name : AuthMode → String
  | .login => "Login"
  | .registration => "Registration"

structure AuthView where
  mode : AuthMode
  credentials : Credentials
deriving DecidableEq

namespace AuthView

variable {σ : Type}

def new : AuthView := ⟨.login, .empty⟩

def switchMode (_ : AuthView) (mode : AuthMode) : AuthView := ⟨mode, .empty⟩

def setEmail (v : AuthView) (email : String) : AuthView := { v with credentials := { v.credentials with email } }

def setPassword (v : AuthView) (password : String) : AuthView :=
  { v with credentials := { v.credentials with password } }

def canSubmit (v : AuthView) : Bool := v.credentials.isComplete

/-- Submits the form in its mode.  A login clears the form and a registration goes on to the login. -/
def submit (v : AuthView) (c : Client) (s : Session σ) (k : Console σ) :
    Option Notice × AuthView × Session σ × Console σ :=
  if !v.canSubmit then (none, v, s, k)
  else match v.mode with
    | .login =>
      match c.login v.credentials s k with
      | (.ok _, s, k) => (some (.success "Logged in"), { v with credentials := .empty }, s, k)
      | (.error e, s, k) => (some (.failure e.message), v, s, k)
    | .registration =>
      match c.register v.credentials s.token k with
      | (.ok _, k) => (some (.success "Registered, you can log in now"), { v with mode := .login }, s, k)
      | (.error e, k) => (some (.failure e.message), v, s, k)

end AuthView
end CalcConsole
