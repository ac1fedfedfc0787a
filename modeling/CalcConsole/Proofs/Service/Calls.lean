import CalcConsole.Proofs.Service.Answers
import CalcConsole.Service.Client
/-! # What a call sends and gives back

A call of the service adds at most one request to those that have arrived, with the token that it was given, and leaves
the store alone.  What it gives back is read from the one answer, or says that none came. -/
namespace CalcConsole
namespace Network

def arrives (n : Network) : Bool :=
  match n.next with
  | .refused => false
  | .answered _ | .dropped => true

theorem received_send (n : Network) (r : Request) :
    (n.send r).2.received = n.received ++ if n.arrives then [r] else [] := by
  unfold send arrives
  cases n.next with
  | refused => exact (List.append_nil _).symm
  | answered reply => rfl
  | dropped => rfl

end Network

/-- **A rejection** has the status that it was given. -/
theorem ServiceError.status?_ofStatus (status : Nat) (message : String) :
    (ofStatus status message).status? = some status := by
  unfold ofStatus
  split
  · rfl
  · split <;> rfl

namespace Client

variable {σ α : Type} (c : Client) (method path : String) (token : Option Token) (payload : Option Json)

def sent (n : Network) : List Request :=
  match c.request method path token payload with
  | .error _ => []
  | .ok r => if n.arrives then [r] else []

theorem received_send (n : Network) :
    (c.send method path token payload n).2.received = n.received ++ c.sent method path token payload n := by
  unfold send sent
  cases c.request method path token payload with
  | error e => exact (List.append_nil _).symm
  | ok r =>
    have h := n.received_send r
    dsimp only
    rw [← h]
    generalize n.send r = p
    obtain ⟨o, n'⟩ := p
    cases o <;> rfl

variable (decode : Json.Decoder α) (k : Console σ)

theorem network_call :
    (c.call method path token payload decode k).2.network = (c.send method path token payload k.network).2 := by
  unfold call
  generalize c.send method path token payload k.network = p
  obtain ⟨reply, n⟩ := p
  cases reply <;> rfl

theorem received_call : (c.call method path token payload decode k).2.network.received =
    k.network.received ++ c.sent method path token payload k.network := by
  rw [network_call, received_send]

@[simp] theorem store_call : (c.call method path token payload decode k).2.store = k.store := by
  unfold call
  generalize c.send method path token payload k.network = p
  obtain ⟨reply, n⟩ := p
  cases reply <;> rfl

theorem request_eq_ok {r : Request} (h : c.request method path token payload = .ok r) :
    r.method = method ∧ r.authorization = token.map (fun t => sentHeader t.bearer) ∧
      r.body = (payload.map Json.compact).getD "" := by
  unfold request at h
  split at h
  · cases h
  · split at h
    · cases h
    · cases h
      exact ⟨rfl, rfl, rfl⟩

theorem request_eq_error {detail : String} (h : c.request method path token payload = .error detail) (method' : String)
    (payload' : Option Json) : c.request method' path token payload' = .error detail := by
  unfold request at h ⊢
  cases hurl : Url.read? (c.baseUrl ++ path) with
  | none =>
    rw [hurl] at h
    exact h
  | some url =>
    rw [hurl] at h
    dsimp only at h ⊢
    split at h
    · rename_i hheader
      rw [if_pos hheader]
      exact h
    · cases h

theorem length_sent_le (n : Network) : (c.sent method path token payload n).length ≤ 1 := by
  unfold sent
  cases c.request method path token payload with
  | error e => exact Nat.zero_le 1
  | ok r =>
    dsimp only
    split
    · exact Nat.le_refl 1
    · exact Nat.zero_le 1

theorem request_of_mem_sent {n : Network} {r : Request} (h : r ∈ c.sent method path token payload n) :
    c.request method path token payload = .ok r := by
  unfold sent at h
  cases hrequest : c.request method path token payload with
  | error e =>
    rw [hrequest] at h
    cases h
  | ok q =>
    rw [hrequest] at h
    dsimp only at h
    split at h
    · rw [List.mem_singleton] at h
      rw [h]
    · cases h

/-- **A request that arrives** has the method, the token and the payload of its call. -/
theorem of_mem_sent {n : Network} {r : Request} (h : r ∈ c.sent method path token payload n) :
    r.method = method ∧ r.authorization = token.map (fun t => sentHeader t.bearer) ∧
      r.body = (payload.map Json.compact).getD "" :=
  c.request_eq_ok method path token payload (c.request_of_mem_sent method path token payload h)

theorem network_login (credentials : Credentials) (s : Session σ) (k : Console σ) :
    (c.login credentials s k).2.2.network =
      (c.call "POST" "/login" s.token (some credentials.json) Account.decodeLogin k).2.network := by
  unfold login
  generalize c.call "POST" "/login" s.token (some credentials.json) Account.decodeLogin k = p
  obtain ⟨_ | token, k₁⟩ := p
  · rfl
  · have hchange : (s.change (.setToken token) k₁).2.2.network = k₁.network := rfl
    dsimp only
    generalize s.change (.setToken token) k₁ = q at hchange ⊢
    obtain ⟨_ | _, s', k'⟩ := q <;> exact hchange

theorem network_register (credentials : Credentials) (token : Option Token) (k : Console σ) :
    (c.register credentials token k).2.network =
      (c.call "POST" "/register" token (some credentials.json) (Account.decodeRegistration Json.topRoom) k).2.network := by
  unfold register
  generalize c.call "POST" "/register" token (some credentials.json) (Account.decodeRegistration Json.topRoom) k = p
  obtain ⟨_ | user, k₁⟩ := p <;> rfl

theorem address_of_mem_sent {n : Network} {r : Request} (h : r ∈ c.sent method path token payload n) :
    ∃ u, Url.read? (c.baseUrl ++ path) = some u ∧ r.path = u.path := by
  have hrequest := c.request_of_mem_sent method path token payload h
  unfold request at hrequest
  split at hrequest
  · cases hrequest
  · next u hu =>
    split at hrequest
    · cases hrequest
    · cases hrequest
      exact ⟨u, hu, rfl⟩

/-! ## What a call gives back -/

theorem fst_call : (c.call method path token payload decode k).1 =
    match (c.send method path token payload k.network).1 with
    | .error detail => .error (.transport detail)
    | .ok r => readReply decode r := by
  unfold call
  generalize c.send method path token payload k.network = p
  obtain ⟨reply, n⟩ := p
  cases reply <;> rfl

theorem snd_call : (c.call method path token payload decode k).2 =
    ({ k with network := (c.send method path token payload k.network).2 } : Console σ).note
      (callEvent method path (c.send method path token payload k.network).1) := by
  unfold call
  generalize c.send method path token payload k.network = p
  obtain ⟨reply, n⟩ := p
  cases reply <;> rfl

theorem readReply_of_rejected {r : Reply} (h : 400 ≤ r.status) :
    readReply decode r = .error (.ofStatus r.status (rejectionMessage r.body.text (Text.trim r.reason))) := by
  unfold readReply
  rw [if_neg (by omega)]

theorem readReply_of_accepted {r : Reply} (h : r.status < 400) : readReply decode r =
    match readSuccess decode r.body with
    | .ok a => .ok a
    | .error f => .error (.decode ("Failed to read JSON: " ++ f.message)) := by
  unfold readReply
  cases readSuccess decode r.body <;> exact if_pos h

theorem call_ne_session (cause : SessionError) : (c.call method path token payload decode k).1 ≠ .error (.session cause) := by
  rw [fst_call]
  cases (c.send method path token payload k.network).1 with
  | error detail => simp
  | ok r =>
    dsimp only
    by_cases hr : r.status < 400
    · rw [readReply_of_accepted decode hr]
      cases readSuccess decode r.body <;> simp
    · rw [readReply_of_rejected decode (by omega)]
      intro he
      have hstatus := congrArg ServiceError.status? (Except.error.inj he)
      rw [ServiceError.status?_ofStatus] at hstatus
      cases hstatus

/-! ## Answers that hold a value -/

variable {decode k} {c method path token payload}

theorem readSuccess_toUTF8 (decode : Json.Decoder α) (s : String) : readSuccess decode s.toUTF8 = Json.ofText decode s :=
  congrArg (Json.ofDocument decode) (Body.document_toUTF8 s)

theorem readReply_eq_ok_iff {r : Reply} {a : α} :
    readReply decode r = .ok a ↔ r.status < 400 ∧ readSuccess decode r.body = .ok a := by
  by_cases hr : r.status < 400
  · rw [readReply_of_accepted decode hr]
    cases readSuccess decode r.body <;> simp [hr]
  · rw [readReply_of_rejected decode (by omega)]
    simp [hr]

/-- **A call gives a value** just if it is answered with a success whose body holds one. -/
theorem call_eq_ok_iff {a : α} : (c.call method path token payload decode k).1 = .ok a ↔
      ∃ r, (c.send method path token payload k.network).1 = .ok r ∧ r.status < 400 ∧
        readSuccess decode r.body = .ok a := by
  rw [fst_call]
  cases (c.send method path token payload k.network).1 with
  | error detail => simp
  | ok r => simp [readReply_eq_ok_iff]

end Client
end CalcConsole
