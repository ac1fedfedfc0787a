import CalcConsole.Proofs.Service.Errands
/-! # Rejections

Whatever is asked of the service, a failure has the status of the answer exactly where that status is 400 or above.  An
answer with a lower one, also one from 300 on, is taken for a success, and its body alone says whether it is one. -/
namespace CalcConsole
namespace Errand

variable {σ α : Type} {c : Client} {s : Session σ} {k : Console σ} {r : Reply}

/-- How an errand may fail on an answer, of which `understood` says whether the body holds what was asked for. -/
inductive Judged (r : Reply) (understood : Bool) : Option ServiceError → Prop
  | rejected {e : ServiceError} (high : 400 ≤ r.status) (status : e.status? = some r.status) :
    Judged r understood (some e)
  | garbled (low : r.status < 400) (body : understood = false) (detail : String) :
    Judged r understood (some (.decode detail))
  | unsaved (low : r.status < 400) (body : understood = true) (cause : SessionError) :
    Judged r understood (some (.session cause))
  | done (low : r.status < 400) (body : understood = true) : Judged r understood none

theorem judged_readReply (decode : Json.Decoder α) (r : Reply) :
    Judged r (Client.readSuccess decode r.body).isOk (failure? (Client.readReply decode r)) := by
  by_cases hr : r.status < 400
  · rw [Client.readReply_of_accepted decode hr]
    cases Client.readSuccess decode r.body with
    | ok a => exact .done hr rfl
    | error f => exact .garbled hr rfl _
  · rw [Client.readReply_of_rejected decode (by omega)]
    exact .rejected (by omega) (ServiceError.status?_ofStatus _ _)

section Calls

variable {method path : String} {token : Option Token} {payload : Option Json}

theorem judged_call (decode : Json.Decoder α) (h : (c.send method path token payload k.network).1 = .ok r) :
    Judged r (Client.readSuccess decode r.body).isOk (failure? (c.call method path token payload decode k).1) := by
  rw [Client.fst_call, h]
  exact judged_readReply decode r

theorem accepted_call (decode : Json.Decoder α) {a : α} (h : (c.send method path token payload k.network).1 = .ok r)
    (ha : (c.call method path token payload decode k).1 = .ok a) :
    r.status < 400 ∧ (Client.readSuccess decode r.body).isOk = true := by
  have hjudged := judged_call (k := k) decode h
  rw [ha] at hjudged
  generalize hf : failure? (Except.ok a : Except ServiceError α) = f at hjudged
  cases hjudged with
  | done low body => exact ⟨low, body⟩
  | _ => cases hf

end Calls

theorem judged_login {credentials : Credentials}
    (h : (c.send "POST" "/login" s.token (some credentials.json) k.network).1 = .ok r) :
    Judged r (Client.readSuccess Account.decodeLogin r.body).isOk (failure? (c.login credentials s k).1) := by
  have hcall := judged_call (k := k) Account.decodeLogin h
  have haccepted := fun token => accepted_call (k := k) (a := token) Account.decodeLogin h
  unfold Client.login
  generalize c.call "POST" "/login" s.token (some credentials.json) Account.decodeLogin k = p at hcall haccepted ⊢
  obtain ⟨_ | token, k₁⟩ := p
  · exact hcall
  · obtain ⟨low, body⟩ := haccepted token rfl
    dsimp only
    generalize s.change (.setToken token) k₁ = q
    obtain ⟨cause | u, s', k'⟩ := q
    · exact .unsaved low body cause
    · exact .done low body

theorem judged_register {credentials : Credentials}
    (h : (c.send "POST" "/register" s.token (some credentials.json) k.network).1 = .ok r) :
    Judged r (Client.readSuccess (Account.decodeRegistration Json.topRoom) r.body).isOk
      (failure? (c.register credentials s.token k).1) := by
  have hcall := judged_call (k := k) (Account.decodeRegistration Json.topRoom) h
  unfold Client.register
  generalize c.call "POST" "/register" s.token (some credentials.json) (Account.decodeRegistration Json.topRoom) k = p
    at hcall ⊢
  obtain ⟨_ | user, k₁⟩ := p <;> exact hcall

theorem judged_failure {e : Errand} (h : e.reply c s.token k.network = .ok r) :
    Judged r (e.understands r.body) (e.failure c s k) := by
  cases e with
  | listExpressions => exact judged_call _ h
  | createExpression text => exact judged_call _ h
  | listOperations => exact judged_call _ h
  | updateOperation operationType executionTime => exact judged_call _ h
  | listAgents => exact judged_call _ h
  | login credentials => exact judged_login h
  | register credentials => exact judged_register h

/-- **A failure has the status of the answer** exactly from 400 on, for each of the seven errands.  Below that, and so
from 300 on too, the body decides: the errand fails without a status where the body does not hold what was asked for, and
succeeds where it does, if the session can be saved. -/
theorem failure_has_status_iff {e : Errand} (h : e.reply c s.token k.network = .ok r) :
    ((∃ f, e.failure c s k = some f ∧ f.status? = some r.status) ↔ 400 ≤ r.status) ∧
    (r.status < 400 → e.understands r.body = false → ∃ detail, e.failure c s k = some (.decode detail)) ∧
    (r.status < 400 → e.understands r.body = true →
      e.failure c s k = none ∨ ∃ cause, e.failure c s k = some (.session cause)) := by
  have hjudged := judged_failure h
  generalize e.failure c s k = f at hjudged ⊢
  cases hjudged with
  | rejected high status =>
    exact ⟨⟨fun _ => high, fun _ => ⟨_, rfl, status⟩⟩, fun low => absurd high (by omega), fun low => absurd high (by omega)⟩
  | garbled low body detail =>
    exact ⟨⟨fun ⟨f, hf, hs⟩ => (by cases hf; cases hs), fun high => absurd high (by omega)⟩, fun _ _ => ⟨detail, rfl⟩,
      fun _ hb => (by rw [body] at hb; cases hb)⟩
  | unsaved low body cause =>
    exact ⟨⟨fun ⟨f, hf, hs⟩ => (by cases hf; cases hs), fun high => absurd high (by omega)⟩,
      fun _ hb => (by rw [body] at hb; cases hb), fun _ _ => .inr ⟨cause, rfl⟩⟩
  | done low body =>
    exact ⟨⟨fun ⟨f, hf, hs⟩ => (by cases hf), fun high => absurd high (by omega)⟩,
      fun _ hb => (by rw [body] at hb; cases hb), fun _ _ => .inl rfl⟩

/-! ### A status between -/

def caller : Client := ⟨"http://localhost:3000/v1", none⟩

def answering (status : Nat) (body : String) : Console (Option SessionState) :=
  ⟨none, ⟨[.answered ⟨status, "", body.toUTF8⟩], .refused, []⟩, []⟩

def visitor : Session (Option SessionState) := ⟨.empty, Storage.memory⟩

theorem failure_has_status_iff_forbidden :
    listAgents.reply caller visitor.token (answering 403 "[]").network = .ok ⟨403, "", "[]".toUTF8⟩ ∧
    ∃ f, listAgents.failure caller visitor (answering 403 "[]") = some f ∧ f.status? = some 403 := by
  have hreply : listAgents.reply caller visitor.token (answering 403 "[]").network = .ok ⟨403, "", "[]".toUTF8⟩ := rfl
  exact ⟨hreply, (failure_has_status_iff hreply).1.mpr (by decide)⟩

theorem no_failure_below_400 :
    (listAgents.reply caller visitor.token (answering 300 "[]").network).toOption.map (·.status) = some 300 ∧
    listAgents.failure caller visitor (answering 300 "[]") = none ∧
    (caller.listAgents visitor.token (answering 300 "[]")).1.toOption = some [] := by
  decide +kernel

end Errand
end CalcConsole
