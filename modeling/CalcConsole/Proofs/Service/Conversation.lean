import CalcConsole.Proofs.Service.Addresses
import CalcConsole.Proofs.Service.Errands
/-! # Conversations

A list of requests is sent one after the other, and each takes one outcome of the script.  Before a network that refuses
nothing they all arrive.  A client whose address can be read sends each errand as one request, and what it learns is in
the one outcome. -/
namespace CalcConsole

namespace Network

def sendAll (n : Network) (rs : List Request) : Network := rs.foldl (fun n r => (n.send r).2) n

theorem sendAll_cons (n : Network) (r : Request) (rs : List Request) :
    n.sendAll (r :: rs) = (n.send r).2.sendAll rs := rfl

/-- What becomes of the request that `i` others come before. -/
def outcome (n : Network) (i : Nat) : Outcome := n.script.getD i n.afterwards

theorem next_eq_outcome (n : Network) : n.next = n.outcome 0 := by
  unfold next outcome
  cases n.script <;> rfl

theorem script_send (n : Network) (r : Request) : (n.send r).2.script = n.script.tail := by
  unfold send
  cases n.next <;> rfl

theorem afterwards_send (n : Network) (r : Request) : (n.send r).2.afterwards = n.afterwards := by
  unfold send
  cases n.next <;> rfl

theorem fst_send (n : Network) (r : Request) : (n.send r).1 = n.outcome 0 := by
  rw [← next_eq_outcome]
  unfold send
  cases n.next <;> rfl

theorem outcome_send (n : Network) (r : Request) (i : Nat) : (n.send r).2.outcome i = n.outcome (i + 1) := by
  unfold outcome
  rw [script_send, afterwards_send]
  cases n.script <;> rfl

theorem next_send (n : Network) (r : Request) : (n.send r).2.next = n.outcome 1 := by
  rw [next_eq_outcome, outcome_send]

structure Listens (n : Network) : Prop where
  script : ∀ o ∈ n.script, o ≠ .refused
  afterwards : n.afterwards ≠ .refused

/-- The network when each of the requests has arrived, in their order, and has taken one outcome. -/
def after (n : Network) (rs : List Request) : Network :=
  { n with script := n.script.drop rs.length, received := n.received ++ rs }

theorem Listens.send {n : Network} (h : n.Listens) (r : Request) : (n.send r).2 = n.after [r] := by
  have hnext : n.next ≠ .refused := by
    unfold next
    cases hs : n.script with
    | nil => exact h.afterwards
    | cons o os => exact h.script o (hs ▸ List.mem_cons_self)
  unfold Network.send after
  generalize n.next = o at hnext
  rw [List.length_singleton, List.drop_one]
  cases o with
  | refused => exact absurd rfl hnext
  | answered reply => rfl
  | dropped => rfl

theorem Listens.after {n : Network} (h : n.Listens) (rs : List Request) : (n.after rs).Listens :=
  ⟨fun o ho => h.script o (List.mem_of_mem_drop ho), h.afterwards⟩

theorem after_after (n : Network) (rs rs' : List Request) : (n.after rs).after rs' = n.after (rs ++ rs') := by
  unfold after
  dsimp only
  rw [List.drop_drop, List.length_append, List.append_assoc]

/-- **Requests that are not refused** arrive in their order. -/
theorem Listens.sendAll_eq_after (rs : List Request) : ∀ {n : Network}, n.Listens → n.sendAll rs = n.after rs := by
  induction rs with
  | nil =>
    intro n _
    unfold Network.after
    rw [List.append_nil]
    rfl
  | cons r rs ih =>
    intro n h
    rw [sendAll_cons, h.send r, ih (h.after [r]), after_after]
    rfl

end Network

/-! ## What an outcome says -/

def Outcome.value? {α : Type} (decode : Json.Decoder α) : Outcome → Option α
  | .answered reply => (Client.readReply decode reply).toOption
  | .dropped | .refused => none

/-- Whether an outcome is a success that holds what the errand asks for. -/
def Outcome.fulfils (e : Errand) : Outcome → Bool
  | .answered reply => reply.status < 400 && e.understands reply.body
  | .dropped | .refused => false

theorem Client.isSome_toOption_readReply {α : Type} (decode : Json.Decoder α) (r : Reply) :
    (readReply decode r).toOption.isSome = (decide (r.status < 400) && (readSuccess decode r.body).isOk) := by
  by_cases hr : r.status < 400
  · rw [readReply_of_accepted decode hr, decide_eq_true hr, Bool.true_and]
    cases readSuccess decode r.body <;> rfl
  · rw [readReply_of_rejected decode (by omega), decide_eq_false hr]
    rfl

theorem Outcome.isSome_value? {α : Type} {decode : Json.Decoder α} {e : Errand}
    (h : ∀ body, e.understands body = (Client.readSuccess decode body).isOk) (o : Outcome) :
    (o.value? decode).isSome = o.fulfils e := by
  cases o with
  | answered reply =>
    show (Client.readReply decode reply).toOption.isSome = (decide (reply.status < 400) && e.understands reply.body)
    rw [Client.isSome_toOption_readReply, h]
  | _ => rfl

namespace Errand

def request (c : Client) (token : Option Token) (e : Errand) : Request where
  method := e.method
  path := ((Url.read? (c.baseUrl ++ e.resource)).map Url.path).getD e.resource
  authorization := token.map fun t => sentHeader t.bearer
  accept := some Client.jsonType
  contentType := e.payload?.map fun _ => Client.jsonType
  body := (e.payload?.map Json.compact).getD ""

theorem head?_resource (e : Errand) : e.resource.toList.head? = some '/' := by
  cases e <;> dsimp only [resource] <;> rfl

def requests (c : Client) (token : Option Token) (es : List Errand) : List Request := es.map (request c token)

theorem past_first {c : Client} {token : Option Token} {e : Errand} {n n' : Network}
    (h : n' = n.sendAll (requests c token [e])) : n'.next = n.outcome 1 ∧
    ∀ es, n'.sendAll (requests c token es) = n.sendAll (requests c token (e :: es)) := by
  rw [h]
  exact ⟨n.next_send _, fun _ => rfl⟩

def followed (e next : Errand) (o : Outcome) : List Errand := if o.fulfils e then [e, next] else [e]

end Errand

namespace Client

variable {σ α : Type} {c : Client} {token : Option Token}

def Sends (c : Client) (token : Option Token) : Prop :=
  ∀ e : Errand, c.request e.method e.resource token e.payload? = .ok (e.request c token)

/-- **Errands can be sent** to the address of a service with a token that fits into a header. -/
theorem sends_make {url : String} (hurl : (Url.read? url).isSome)
    (htoken : token.all (fun t => isHeaderValue t.bearer) = true) (timeout : Nat) :
    (make url timeout).Sends token := by
  intro e
  obtain ⟨u, hu⟩ := Option.isSome_iff_exists.mp (Url.read?_resource hurl timeout e.head?_resource)
  unfold Client.request Errand.request
  rw [hu, htoken]
  rfl

namespace Sends

variable (h : c.Sends token) (e : Errand) (decode : Json.Decoder α) (k : Console σ)
include h

theorem passed (n : Network) : e.passed c token n = (n.send (e.request c token)).2 := by
  unfold Errand.passed send
  rw [h e]
  dsimp only
  generalize n.send (e.request c token) = p
  obtain ⟨o, n'⟩ := p
  cases o <;> rfl

theorem network_call : (c.call e.method e.resource token e.payload? decode k).2.network =
    k.network.sendAll (Errand.requests c token [e]) :=
  (e.network_call c token k).trans (h.passed e k.network)

theorem toOption_call :
    (c.call e.method e.resource token e.payload? decode k).1.toOption = k.network.next.value? decode := by
  rw [fst_call]
  unfold send Network.send
  rw [h e]
  dsimp only
  cases k.network.next <;> rfl

variable {decode} in
theorem isSome_call (hdecode : ∀ body, e.understands body = (readSuccess decode body).isOk) :
    (c.call e.method e.resource token e.payload? decode k).1.toOption.isSome = k.network.next.fulfils e := by
  rw [h.toOption_call e decode k, Outcome.isSome_value? hdecode]

end Sends

/-- How a network comes from `n` to `n'` when errands are sent one after the other: each of them once, and so in one
request each if they can be sent. -/
structure Sent (c : Client) (token : Option Token) (n : Network) (es : List Errand) (n' : Network) : Prop where
  each : n' = es.foldl (fun n e => e.passed c token n) n
  requests : c.Sends token → n' = n.sendAll (Errand.requests c token es)

theorem Sent.of_each {es : List Errand} {n n' : Network} (h : n' = es.foldl (fun n e => e.passed c token n) n) :
    c.Sent token n es n' := by
  refine ⟨h, fun hsends => h.trans ?_⟩
  unfold Network.sendAll Errand.requests
  rw [List.foldl_map]
  simp only [hsends.passed]

/-- **An errand that another follows**: `k₁` is where its call has come to, with the answer `a`, and `k₂` is where the
other has come to after a success. -/
theorem network_followed {e next : Errand} {n : Network} {k₁ k₂ : Console σ} {ε : Type} {a : Except ε α}
    (hcall : k₁.network = n.sendAll (Errand.requests c token [e])) (ha : a.toOption.isSome = n.next.fulfils e)
    (herror : ∀ f, a = .error f → k₂.network = k₁.network)
    (hok : ∀ x, a = .ok x → k₂.network = k₁.network.sendAll (Errand.requests c token [next])) :
    k₂.network = n.sendAll (Errand.requests c token (e.followed next n.next)) := by
  unfold Errand.followed
  rw [← ha]
  cases a with
  | error f => exact (herror f rfl).trans hcall
  | ok x =>
    rw [hok x rfl, hcall]
    rfl

end Client
end CalcConsole
