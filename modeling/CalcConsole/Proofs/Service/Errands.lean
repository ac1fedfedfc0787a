import CalcConsole.Proofs.Service.Calls
/-! # Errands

The seven things that can be asked of the service, as data: how each is asked, what an answer to it has to hold, and how
it fails when it is carried out. -/
namespace CalcConsole

inductive Errand where
  | listExpressions
  | createExpression (text : String)
  | listOperations
  | updateOperation (operationType : String) (executionTime : Nat)
  | listAgents
  | login (credentials : Credentials)
  | register (credentials : Credentials)

namespace Errand

variable {σ : Type}

def method : Errand → String
  | listExpressions | listOperations | listAgents => "GET"
  | createExpression _ | login _ | register _ => "POST"
  | updateOperation .. => "PATCH"

def resource : Errand → String
  | listExpressions | createExpression _ => "/expressions"
  | listOperations | updateOperation .. => "/operations"
  | listAgents => "/agents"
  | login _ => "/login"
  | register _ => "/register"

def payload? : Errand → Option Json
  | listExpressions | listOperations | listAgents => none
  | createExpression text => some (Client.newExpression text)
  | updateOperation operationType executionTime => some (Client.costUpdate operationType executionTime)
  | login credentials | register credentials => some credentials.json

def reply (e : Errand) (c : Client) (token : Option Token) (n : Network) : Except String Reply :=
  (c.send e.method e.resource token e.payload? n).1

/-- The network once an errand was sent. -/
def passed (e : Errand) (c : Client) (token : Option Token) (n : Network) : Network :=
  (c.send e.method e.resource token e.payload? n).2

/-- Whether an errand is answered with a success whose body decodes to `a`. -/
def Earns {A : Type} (e : Errand) (c : Client) (token : Option Token) (n : Network) (decode : Json.Decoder A) (a : A) :
    Prop :=
  ∃ r, e.reply c token n = .ok r ∧ r.status < 400 ∧ Json.ofDocument decode r.body.document = .ok a

def understands (body : Body) : Errand → Bool
  | listExpressions => (Client.readSuccess Client.decodeExpressions body).isOk
  | createExpression _ => (Client.readSuccess (Expression.decode Json.topRoom) body).isOk
  | listOperations => (Client.readSuccess Client.decodeOperations body).isOk
  | updateOperation .. => (Client.readSuccess (Operation.decode Json.topRoom) body).isOk
  | listAgents => (Client.readSuccess Client.decodeAgents body).isOk
  | login _ => (Client.readSuccess Account.decodeLogin body).isOk
  | register _ => (Client.readSuccess (Account.decodeRegistration Json.topRoom) body).isOk

def failure? {ε α : Type} : Except ε α → Option ε
  | .error e => some e
  | .ok _ => none

theorem failure?_eq_some_iff {ε α : Type} {r : Except ε α} {e : ε} : failure? r = some e ↔ r = .error e := by
  cases r <;> simp [failure?]

def failure (c : Client) (s : Session σ) (k : Console σ) : Errand → Option ServiceError
  | listExpressions => failure? (c.listExpressions s.token k).1
  | createExpression text => failure? (c.createExpression s.token text k).1
  | listOperations => failure? (c.listOperations s.token k).1
  | updateOperation operationType executionTime =>
    failure? (c.updateOperation s.token operationType executionTime k).1
  | listAgents => failure? (c.listAgents s.token k).1
  | login credentials => failure? (c.login credentials s k).1
  | register credentials => failure? (c.register credentials s.token k).1

section Calls

variable {A : Type} {decode : Json.Decoder A} (e : Errand) (c : Client) (token : Option Token) (k : Console σ)

theorem network_call :
    (c.call e.method e.resource token e.payload? decode k).2.network = e.passed c token k.network :=
  c.network_call _ _ _ _ _ _

/-- **A call gives a value** just if its errand earns it. -/
theorem fst_call_eq_ok_iff {a : A} :
    (c.call e.method e.resource token e.payload? decode k).1 = .ok a ↔ e.Earns c token k.network decode a :=
  Client.call_eq_ok_iff

theorem fst_call_of_nothing (h : ∀ a, ¬ e.Earns c token k.network decode a) :
    ∃ f, (c.call e.method e.resource token e.payload? decode k).1 = .error f := by
  cases hcall : (c.call e.method e.resource token e.payload? decode k).1 with
  | error f => exact ⟨f, rfl⟩
  | ok a => exact absurd ((e.fst_call_eq_ok_iff c token k).mp hcall) (h a)

end Calls

end Errand
end CalcConsole
