import CalcConsole.Proofs.Service.HiddenResults
import CalcConsole.Proofs.Views.Bare
/-! # Two views of expressions side by side

A row shows nothing of a hidden result, and no event does.  So two views that are the same behind the veil stay so through
a fetch and a submission whose answers rephrase one another, and what is logged on the way is the same. -/
namespace CalcConsole

/-! ## What is shown -/

theorem ExpressionRow.ofExpression_veiled (e : Expression) : ofExpression e.veiled = ofExpression e := by
  simp [ofExpression]

theorem ExpressionRow.map_ofExpression_veiled (es : List Expression) :
    (es.map Expression.veiled).map ofExpression = es.map ofExpression := by
  rw [List.map_map]
  exact List.map_congr_left fun e _ => ofExpression_veiled e

namespace ExpressionsView

theorem inconsistencies_veiled (es : List Expression) : inconsistencies (es.map Expression.veiled) = inconsistencies es := by
  unfold inconsistencies
  rw [List.filter_map, List.map_map]
  have hsame : (fun e : Expression => !e.isConsistent) ∘ Expression.veiled = fun e => !e.isConsistent :=
    funext fun e => congrArg Bool.not e.isConsistent_veiled
  rw [hsame]
  exact List.map_congr_left fun e _ => by simp

def veiled (v : ExpressionsView) : ExpressionsView := { v with expressions := v.expressions.map Expression.veiled }

theorem exists_of_veiled {v v' : ExpressionsView} (h : v'.veiled = v.veiled) : ∃ l, v' = { v with expressions := l } := by
  have hinput : v'.veiled.input = v.veiled.input := congrArg input h
  have htickets : v'.veiled.tickets = v.veiled.tickets := congrArg tickets h
  have hclear : v'.veiled.clearInput = v.veiled.clearInput := congrArg clearInput h
  obtain ⟨input', l', tickets', clearInput'⟩ := v'
  cases hinput
  cases htickets
  cases hclear
  exact ⟨l', rfl⟩

/-- **An answer is taken** behind the veil as it is before it. -/
theorem applyRefresh_veiled (v : ExpressionsView) (ticket : Nat) (answer : Except ServiceError (List Expression)) :
    v.veiled.applyRefresh ticket (answer.map (List.map Expression.veiled)) =
      ((v.applyRefresh ticket answer).1, (v.applyRefresh ticket answer).2.1.veiled, (v.applyRefresh ticket answer).2.2) := by
  cases answer with
  | error e => rfl
  | ok es =>
    have htickets : v.veiled.tickets = v.tickets := rfl
    unfold applyRefresh Except.map
    dsimp only
    rw [htickets, inconsistencies_veiled]
    generalize v.tickets.accept ticket "expressions" = p
    obtain ⟨_ | _, tickets, events⟩ := p <;> rfl

end ExpressionsView

/-! ## Networks -/

/-- Two networks that give answers that rephrase one another to errands that are sent in this order. -/
def Network.Rephrases (es : List Errand) (n n' : Network) : Prop :=
  ∀ k e, es[k]? = some e → (n.outcome k).Rephrases e (n'.outcome k)

/-- The two replies to one errand. -/
inductive Errand.Replies (e : Errand) : Except String Reply → Except String Reply → Prop
  | same (reply : Except String Reply) : Replies e reply reply
  | answered {r r' : Reply} (h : r.Rephrases e r') : Replies e (.ok r) (.ok r')

/-- A client that cannot ask about expressions, in any way. -/
def Client.IsMute (c : Client) (token : Option Token) : Prop :=
  ∃ detail, ∀ method payload, c.request method "/expressions" token payload = .error detail

structure Console.Rephrases (c : Client) (token : Option Token) (es : List Errand) (q q' : Console Unit) : Prop where
  transcript : q'.transcript = q.transcript
  network : c.IsMute token ∨ q.network.Rephrases es q'.network

namespace Console.Rephrases

variable {c : Client} {token : Option Token} {e : Errand} {es : List Errand} {q q' : Console Unit}

theorem noteAll (h : Rephrases c token es q q') (events : List Event) :
    Rephrases c token es (q.noteAll events) (q'.noteAll events) := by
  refine ⟨?_, by rw [network_noteAll, network_noteAll]; exact h.network⟩
  rw [noteAll_eq, noteAll_eq]
  exact congrArg (· ++ _) h.transcript

theorem note (h : Rephrases c token es q q') (event : Event) : Rephrases c token es (q.note event) (q'.note event) :=
  h.noteAll [event]

/-- **An errand about expressions** is answered alike, and the rest of the networks is alike too. -/
theorem send (h : Rephrases c token (e :: es) q q') (he : e.resource = "/expressions") :
    e.Replies (e.reply c token q.network) (e.reply c token q'.network) ∧
      (c.IsMute token ∨ (c.send e.method e.resource token e.payload? q.network).2.Rephrases es
        (c.send e.method e.resource token e.payload? q'.network).2) := by
  unfold Errand.reply Client.send
  rw [he]
  cases hr : c.request e.method "/expressions" token e.payload? with
  | error detail => exact ⟨.same _, .inl ⟨detail, c.request_eq_error _ _ _ _ hr⟩⟩
  | ok r =>
    have hnetwork : q.network.Rephrases (e :: es) q'.network := by
      rcases h.network with ⟨detail, hmute⟩ | hnetwork
      · rw [hmute] at hr
        cases hr
      · exact hnetwork
    have hfirst := hnetwork 0 e rfl
    have hrest : (q.network.send r).2.Rephrases es (q'.network.send r).2 := by
      intro k e' he'
      rw [Network.outcome_send, Network.outcome_send]
      exact hnetwork (k + 1) e' he'
    rw [← q.network.fst_send r, ← q'.network.fst_send r] at hfirst
    dsimp only
    generalize q.network.send r = p at hfirst hrest ⊢
    generalize q'.network.send r = p' at hfirst hrest ⊢
    obtain ⟨o, n⟩ := p
    obtain ⟨o', n'⟩ := p'
    cases hfirst with
    | same => cases o <;> exact ⟨.same _, .inr hrest⟩
    | answered hr => exact ⟨.answered hr, .inr hrest⟩

theorem call {A : Type} (decode : Json.Decoder A) (h : Rephrases c token (e :: es) q q') (he : e.resource = "/expressions") :
    e.Replies (e.reply c token q.network) (e.reply c token q'.network) ∧
      Rephrases c token es (c.call e.method e.resource token e.payload? decode q).2
        (c.call e.method e.resource token e.payload? decode q').2 := by
  obtain ⟨hreplies, hnetwork⟩ := h.send he
  refine ⟨hreplies, ?_⟩
  have hevent : Client.callEvent e.method e.resource (e.reply c token q'.network) =
      Client.callEvent e.method e.resource (e.reply c token q.network) := by
    generalize e.reply c token q.network = reply at hreplies
    generalize e.reply c token q'.network = reply' at hreplies
    cases hreplies with
    | same => rfl
    | answered hr =>
      unfold Client.callEvent
      dsimp only
      rw [hr.status, if_pos hr.accepted, if_pos hr.accepted]
  rw [Client.snd_call, Client.snd_call]
  refine ⟨?_, hnetwork⟩
  show q'.transcript ++ [.event _] = q.transcript ++ [.event _]
  rw [h.transcript]
  exact congrArg (fun event => q.transcript ++ [Printed.event event]) hevent

theorem listExpressions (h : Rephrases c token (.listExpressions :: es) q q') :
    (c.listExpressions token q').1.map (List.map Expression.veiled) =
        (c.listExpressions token q).1.map (List.map Expression.veiled) ∧
      Rephrases c token es (c.listExpressions token q).2 (c.listExpressions token q').2 := by
  obtain ⟨hreplies, hrest⟩ := h.call Client.decodeExpressions rfl
  refine ⟨?_, hrest⟩
  unfold Client.listExpressions
  rw [Client.fst_call, Client.fst_call]
  unfold Errand.reply at hreplies
  dsimp only [Errand.method, Errand.resource, Errand.payload?] at hreplies
  generalize (c.send "GET" "/expressions" token none q.network).1 = reply at hreplies
  generalize (c.send "GET" "/expressions" token none q'.network).1 = reply' at hreplies
  cases hreplies with
  | same => rfl
  | answered hr =>
    obtain ⟨l, l', hl, hl', hveiled⟩ := hr.listed
    dsimp only
    rw [hl, hl']
    exact congrArg Except.ok hveiled

theorem createExpression {text : String} (h : Rephrases c token (.createExpression text :: es) q q') :
    (c.createExpression token text q').1.map Expression.veiled = (c.createExpression token text q).1.map Expression.veiled ∧
      Rephrases c token es (c.createExpression token text q).2 (c.createExpression token text q').2 := by
  obtain ⟨hreplies, hrest⟩ := h.call (Expression.decode Json.topRoom) rfl
  refine ⟨?_, hrest⟩
  unfold Client.createExpression
  rw [Client.fst_call, Client.fst_call]
  unfold Errand.reply at hreplies
  dsimp only [Errand.method, Errand.resource, Errand.payload?] at hreplies
  generalize (c.send "POST" "/expressions" token (some (Client.newExpression text)) q.network).1 = reply at hreplies
  generalize (c.send "POST" "/expressions" token (some (Client.newExpression text)) q'.network).1 = reply' at hreplies
  cases hreplies with
  | same => rfl
  | answered hr =>
    obtain ⟨x, x', hx, hx', hveiled⟩ := hr.created
    dsimp only
    rw [hx, hx']
    exact congrArg Except.ok hveiled

end Console.Rephrases

/-! ## The view -/

namespace ExpressionsView

variable {c : Client} {token : Option Token} {es : List Errand} {q q' : Console Unit} {v v' : ExpressionsView}

/-- **A fetch** comes to the same in both views, and leaves them the same behind the veil. -/
theorem refresh_veiled (hv : v'.veiled = v.veiled) (hq : q.Rephrases c token (.listExpressions :: es) q') :
    (v'.refresh c token q').1 = (v.refresh c token q).1 ∧
      (v'.refresh c token q').2.1.veiled = (v.refresh c token q).2.1.veiled ∧
      (v.refresh c token q).2.2.Rephrases c token es (v'.refresh c token q').2.2 := by
  obtain ⟨hanswers, hrest⟩ := hq.listExpressions
  obtain ⟨l, rfl⟩ := exists_of_veiled hv
  have hbegun : veiled { v with expressions := l, tickets := v.tickets.begin.2 } =
      veiled { v with tickets := v.tickets.begin.2 } :=
    congrArg (fun x : ExpressionsView => { x with tickets := v.tickets.begin.2 }) hv
  unfold refresh beginRefresh
  dsimp only
  generalize c.listExpressions token q = p at hanswers hrest ⊢
  generalize c.listExpressions token q' = p' at hanswers hrest ⊢
  obtain ⟨answer, q₁⟩ := p
  obtain ⟨answer', q₁'⟩ := p'
  dsimp only at hanswers hrest ⊢
  have hleft := applyRefresh_veiled { v with tickets := v.tickets.begin.2 } v.tickets.begin.1 answer
  have hright := applyRefresh_veiled { v with expressions := l, tickets := v.tickets.begin.2 } v.tickets.begin.1 answer'
  rw [hbegun, hanswers, hleft] at hright
  generalize applyRefresh { v with tickets := v.tickets.begin.2 } v.tickets.begin.1 answer = t at hright ⊢
  generalize applyRefresh { v with expressions := l, tickets := v.tickets.begin.2 } v.tickets.begin.1 answer' = t'
    at hright ⊢
  obtain ⟨applied, view, events⟩ := t
  obtain ⟨applied', view', events'⟩ := t'
  simp only [Prod.mk.injEq] at hright
  obtain ⟨rfl, hviews, rfl⟩ := hright
  exact ⟨rfl, hviews.symm, hrest.noteAll events⟩

/-- **A submission** ends in the same notice in both views, and leaves them the same behind the veil. -/
theorem submit_veiled (hv : v'.veiled = v.veiled)
    (hq : q.Rephrases c token (.createExpression v.input :: .listExpressions :: es) q') :
    (v'.submit c token q').1 = (v.submit c token q).1 ∧
      (v'.submit c token q').2.1.veiled = (v.submit c token q).2.1.veiled ∧
      (v'.submit c token q').2.2.transcript = (v.submit c token q).2.2.transcript := by
  obtain ⟨hanswers, hrest⟩ := hq.createExpression
  obtain ⟨l, rfl⟩ := exists_of_veiled hv
  have hcan : ({ v with expressions := l } : ExpressionsView).canSubmit = v.canSubmit := rfl
  unfold submit
  rw [hcan]
  split
  · exact ⟨rfl, hv, hq.transcript⟩
  generalize c.createExpression token v.input q = p at hanswers hrest ⊢
  generalize c.createExpression token v.input q' = p' at hanswers hrest ⊢
  obtain ⟨answer, q₁⟩ := p
  obtain ⟨answer', q₁'⟩ := p'
  have hcleared : veiled { v with input := "", expressions := l } = veiled { v with input := "" } :=
    congrArg (fun x : ExpressionsView => { x with input := "" }) hv
  cases answer with
  | error e =>
    cases answer' with
    | ok created' => cases hanswers
    | error e' =>
      cases hanswers
      refine ⟨rfl, ?_, hrest.transcript⟩
      dsimp only
      split
      · exact hcleared
      · exact hv
  | ok created =>
    cases answer' with
    | error e' => cases hanswers
    | ok created' =>
      have hsame : created'.veiled = created.veiled := Except.ok.inj hanswers
      have hid : created'.id = created.id := by rw [← created'.id_veiled, hsame, created.id_veiled]
      have hdata : created'.data = created.data := by rw [← created'.data_veiled, hsame, created.data_veiled]
      dsimp only at hrest ⊢
      rw [hid, hdata]
      obtain ⟨hresult, hviews, hconsoles⟩ := refresh_veiled hcleared (hrest.note (.expressionAccepted created.id))
      generalize refresh { v with input := "" } c token (q₁.note (.expressionAccepted created.id)) = t
        at hresult hviews hconsoles ⊢
      generalize refresh { v with input := "", expressions := l } c token (q₁'.note (.expressionAccepted created.id)) = t'
        at hresult hviews hconsoles ⊢
      obtain ⟨result, view, q₂⟩ := t
      obtain ⟨result', view', q₂'⟩ := t'
      dsimp only at hresult hviews hconsoles ⊢
      subst hresult
      cases result' with
      | error e => exact ⟨rfl, hviews, (hconsoles.note _).transcript⟩
      | ok applied => exact ⟨rfl, hviews, hconsoles.transcript⟩

end ExpressionsView

end CalcConsole
