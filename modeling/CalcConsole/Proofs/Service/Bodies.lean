import CalcConsole.Proofs.Service.Conversation
import CalcConsole.Proofs.Service.Entities
import CalcConsole.Proofs.Service.Messages
/-! # What a request carries

Four errands send something along: an expression, a cost, or the credentials of an account.  Their request goes to the
resource behind the address of the service, and its body reads as an object that has their arguments as its members, in
order, and nothing else (`requests_carry_arguments`).  So no text in an argument makes another member, and two requests
of one kind with the same body have the same arguments. -/
namespace CalcConsole

open Json (Member)

structure Client.Trimmed (url base : String) : Prop where
  slashes : ∃ n, base.toList ++ List.replicate n '/' = url.toList
  last : base.toList.getLast? ≠ some '/'

theorem Client.trimmed_make (url : String) (timeout : Nat) : Trimmed url (make url timeout).baseUrl := by
  unfold make
  constructor
  · rw [String.toList_ofList]
    exact exists_dropSlashes_append url.toList
  · rw [String.toList_ofList]
    exact getLast?_dropSlashes url.toList

namespace Errand

/-- The members that an errand sends along, which are its arguments under their names; a cost has 64 bits. -/
inductive Carries : Errand → List Member → Prop
  | expression (text : String) : Carries (.createExpression text) [(some "data", .text text)]
  | cost (operationType : String) {executionTime : Nat} (h : executionTime < twoTo 64) :
    Carries (.updateOperation operationType executionTime)
      [(some "operation_type", .text operationType), (some "execution_time", .nat executionTime)]
  | login (c : Credentials) :
    Carries (.login c) [(some "email", .text c.email), (some "password", .text c.password)]
  | register (c : Credentials) :
    Carries (.register c) [(some "email", .text c.email), (some "password", .text c.password)]

namespace Carries

variable {e e' : Errand} {ms : List Member}

theorem payload (h : e.Carries ms) : e.payload? = some (.object ms) := by
  cases h <;> rfl

theorem legible (h : e.Carries ms) : (Json.object ms).Legible := by
  cases h with
  | cost operationType h =>
    have hcost : (Json.nat _).Legible := Json.legible_nat (unsignedBound_eq ▸ h)
    exact ⟨rfl, rfl, rfl, hcost, trivial⟩
  | expression text => exact ⟨rfl, rfl, trivial⟩
  | login c | register c => exact ⟨rfl, rfl, rfl, rfl, trivial⟩

theorem inj (h : e.Carries ms) (h' : e'.Carries ms) (hmethod : e.method = e'.method)
    (hresource : e.resource = e'.resource) : e = e' := by
  generalize hms : ms = ms' at h'
  -- two kinds differ in their method or their resource, and one kind has its arguments as members
  rcases h with text | ⟨operationType, hcost⟩ | ⟨⟨email, password⟩⟩ | ⟨⟨email, password⟩⟩ <;>
    rcases h' with text' | ⟨operationType', hcost'⟩ | ⟨⟨email', password'⟩⟩ | ⟨⟨email', password'⟩⟩ <;>
    simp_all [method, resource, Json.text, Json.nat_inj]

end Carries

variable {σ : Type} (c : Client) (s : Session σ) (k : Console σ)

theorem network_after (e : Errand) : (e.after c s k).network = e.passed c s.token k.network := by
  cases e with
  | login credentials => exact (c.network_login credentials s k).trans (network_call (.login credentials) c s.token k)
  | register credentials =>
    exact (c.network_register credentials s.token k).trans (network_call (.register credentials) c s.token k)
  | listExpressions => exact network_call .listExpressions c s.token k
  | createExpression text => exact network_call (.createExpression text) c s.token k
  | listOperations => exact network_call .listOperations c s.token k
  | updateOperation operationType executionTime =>
    exact network_call (.updateOperation operationType executionTime) c s.token k
  | listAgents => exact network_call .listAgents c s.token k

def arriving (e : Errand) : List Request := (e.after c s k).network.received.drop k.network.received.length

theorem received_after (e : Errand) : (e.after c s k).network.received =
    k.network.received ++ c.sent e.method e.resource s.token e.payload? k.network := by
  rw [network_after]
  exact c.received_send _ _ _ _ _

theorem arriving_eq (e : Errand) : e.arriving c s k = c.sent e.method e.resource s.token e.payload? k.network := by
  unfold arriving
  rw [received_after, List.drop_left]

/-- How a request carries members to a service at `url`. -/
structure Conveys (url : String) (e : Errand) (ms : List Member) (r : Request) : Prop where
  method : r.method = e.method
  address : ∃ base u, Client.Trimmed url base ∧ Url.read? (base ++ e.resource) = some u ∧ r.path = u.path
  body : Json.read r.body = ⟨.object ms, true⟩

variable {s k}

theorem Carries.conveys {e : Errand} {ms : List Member} (h : e.Carries ms) {url : String} {timeout : Nat} {r : Request}
    (hr : r ∈ e.arriving (.make url timeout) s k) : e.Conveys url ms r := by
  rw [arriving_eq] at hr
  obtain ⟨hmethod, -, hbody⟩ := Client.of_mem_sent _ _ _ _ _ hr
  obtain ⟨u, hu, hpath⟩ := Client.address_of_mem_sent _ _ _ _ _ hr
  refine ⟨hmethod, ⟨_, u, Client.trimmed_make url timeout, hu, hpath⟩, ?_⟩
  rw [hbody, h.payload]
  exact Json.read_compact h.legible

theorem arriving_of_arrives (e : Errand) {url : String} (hurl : (Url.read? url).isSome)
    (htoken : s.token.all (fun t => isHeaderValue t.bearer) = true) (harrives : k.network.arrives = true)
    (timeout : Nat) : e.arriving (.make url timeout) s k = [e.request (.make url timeout) s.token] := by
  rw [arriving_eq, Client.sent, Client.sends_make hurl htoken timeout e]
  exact if_pos harrives

/-- **A request carries the arguments of its errand**, whatever texts they are.  At most one request arrives, and one
does unless it cannot be sent or is refused.  It goes to the resource behind the address of the service without its last
slashes, by the method of the errand, and its body reads as the object of the arguments under their names.  So two
requests of one kind with the same body are of the same errand. -/
theorem requests_carry_arguments (url : String) (timeout : Nat) (s : Session σ) (k : Console σ) {e : Errand}
    {ms : List Member} (h : e.Carries ms) :
    ((e.after (.make url timeout) s k).network.received =
      k.network.received ++ e.arriving (.make url timeout) s k ∧
    (e.arriving (.make url timeout) s k).length ≤ 1 ∧
    ((Url.read? url).isSome → s.token.all (fun t => isHeaderValue t.bearer) = true → k.network.arrives = true →
      (e.arriving (.make url timeout) s k).length = 1)) ∧
    (∀ r ∈ e.arriving (.make url timeout) s k, e.Conveys url ms r) ∧
    ∀ {e' : Errand} {ms' : List Member}, e'.Carries ms' → e'.method = e.method → e'.resource = e.resource →
      ∀ url' timeout' (s' : Session σ) (k' : Console σ), ∀ r ∈ e.arriving (.make url timeout) s k,
        ∀ r' ∈ e'.arriving (.make url' timeout') s' k', r'.body = r.body → e' = e := by
  refine ⟨⟨?_, ?_, fun hurl htoken harrives => ?_⟩, fun r hr => h.conveys hr, ?_⟩
  · rw [arriving_eq]
    exact e.received_after _ s k
  · rw [arriving_eq]
    exact Client.length_sent_le _ _ _ _ _ _
  · rw [arriving_of_arrives e hurl htoken harrives]
    rfl
  · intro e' ms' h' hmethod hresource url' timeout' s' k' r hr r' hr' hbody
    have hread := (h.conveys hr).body
    rw [← hbody, (h'.conveys hr').body] at hread
    cases hread
    exact h'.inj h hmethod hresource

/-! ### A text that looks like another member -/

def quoted : String := "1\",\"data\":\"2"

def slashed : String := "http://localhost:3000/v1//"

theorem requests_carry_arguments_quoted :
    ((createExpression quoted).arriving (.make slashed 0) visitor (answering 200 "")).length = 1 ∧
    ∀ r ∈ (createExpression quoted).arriving (.make slashed 0) visitor (answering 200 ""),
      Json.read r.body = ⟨.object [(some "data", .text quoted)], true⟩ ∧
      ∀ r' ∈ (createExpression "1").arriving (.make slashed 0) visitor (answering 200 ""), r'.body ≠ r.body := by
  obtain ⟨⟨-, -, hone⟩, hconveys, hinj⟩ := requests_carry_arguments slashed 0 visitor (answering 200 "")
    (.expression quoted)
  refine ⟨hone (by decide) rfl rfl, fun r hr => ⟨(hconveys r hr).body, fun r' hr' hbody => ?_⟩⟩
  have hsame := hinj (.expression "1") rfl rfl slashed 0 visitor (answering 200 "") r hr r' hr' hbody
  simp [quoted] at hsame

end Errand
end CalcConsole
