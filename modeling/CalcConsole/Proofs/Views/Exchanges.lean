import CalcConsole.Proofs.Service.Conversation
import CalcConsole.Proofs.Views.Bare
/-! # A view and what it was brought

An exchange is an errand that was carried out, with what came back.  `Converses` follows the network through the
exchanges of a view, and the list that the view shows is always the last one that was brought by an exchange for it;
as long as none was, the view is empty. -/
namespace CalcConsole

structure Exchange where
  errand : Errand
  reply : Except String Reply

namespace Exchange

def succeeds (x : Exchange) : Bool :=
  match x.reply with
  | .ok r => r.status < 400 && x.errand.understands r.body
  | .error _ => false

end Exchange

/-- From a network to another one exchanges take place, one after the other. -/
inductive Converses (c : Client) (token : Option Token) (n : Network) : List Exchange → Network → Prop
  | start : Converses c token n [] n
  | next {xs : List Exchange} {n' : Network} (before : Converses c token n xs n') (e : Errand) :
    Converses c token n (xs ++ [⟨e, e.reply c token n'⟩])
      (c.send e.method e.resource token e.payload? n').2

namespace ListView

/-- The list that an exchange brings, if it is for this list and succeeds. -/
def brought? : (w : ListView) → Exchange → Option (List w.Item)
  | .expressions, ⟨.listExpressions, .ok r⟩ => (Client.readReply Client.decodeExpressions r).toOption
  | .operations, ⟨.listOperations, .ok r⟩ => (Client.readReply Client.decodeOperations r).toOption
  | .agents, ⟨.listAgents, .ok r⟩ => (Client.readReply Client.decodeAgents r).toOption
  | _, _ => none

/-- The last list that was brought. -/
def lastBrought (w : ListView) (xs : List Exchange) : Option (List w.Item) := xs.reverse.findSome? w.brought?

variable (w : ListView)

theorem lastBrought_concat (xs : List Exchange) (x : Exchange) :
    w.lastBrought (xs ++ [x]) = (w.brought? x).or (w.lastBrought xs) := by
  unfold lastBrought
  rw [List.reverse_concat, List.findSome?_cons]
  cases w.brought? x <;> rfl

theorem lastBrought_singleton (x : Exchange) : w.lastBrought [x] = w.brought? x :=
  (w.lastBrought_concat [] x).trans Option.or_none

theorem brought?_of_ok (r : Reply) :
    w.brought? ⟨w.errand, .ok r⟩ = (Client.readReply (Json.decodeList w.decodeItem) r).toOption := by
  cases w <;> rfl

theorem brought?_of_error (e : Errand) (detail : String) : w.brought? ⟨e, .error detail⟩ = none := by
  cases w <;> cases e <;> rfl

/-- **A list was brought** just if the exchange for it succeeds. -/
theorem isSome_brought? (reply : Except String Reply) :
    (w.brought? ⟨w.errand, reply⟩).isSome = (⟨w.errand, reply⟩ : Exchange).succeeds := by
  cases reply with
  | error detail => rw [brought?_of_error]; rfl
  | ok r =>
    have hunderstands : w.errand.understands r.body =
        (Client.readSuccess (Json.decodeList w.decodeItem) r.body).isOk := by cases w <;> rfl
    rw [brought?_of_ok, Client.isSome_toOption_readReply, ← hunderstands]
    rfl

/-- The view shows what it was last brought, by exchanges that have led to the console. -/
structure Follows (c : Client) (token : Option Token) (n : Network) (xs : List Exchange) (v : w.State)
    (q : Console Unit) : Prop where
  converses : Converses c token n xs q.network
  shown : w.shown v = (w.lastBrought xs).getD []
  logged : ∃ es : List Event, q.transcript = es.map .event

namespace Follows

variable {w} {c : Client} {token : Option Token} {n : Network} {xs : List Exchange} {v : w.State} {q : Console Unit}

theorem fresh (w : ListView) (clearInput : ClearInput) (c : Client) (token : Option Token) (n : Network) :
    w.Follows c token n [] (w.fresh clearInput) (.bare n) :=
  ⟨.start, w.shown_fresh clearInput, [], rfl⟩

variable (h : w.Follows c token n xs v q)
include h

theorem view (v' : w.State) (hv : w.shown v' = w.shown v) : w.Follows c token n xs v' q :=
  ⟨h.converses, hv.trans h.shown, h.logged⟩

theorem noteAll (es : List Event) : w.Follows c token n xs v (q.noteAll es) := by
  obtain ⟨before, hbefore⟩ := h.logged
  refine ⟨by rw [Console.network_noteAll]; exact h.converses, h.shown, before ++ es, ?_⟩
  rw [Console.noteAll_eq, List.map_append, ← hbefore]
  rfl

theorem note (e : Event) : w.Follows c token n xs v (q.note e) := h.noteAll [e]

/-- A call takes place in an exchange, and the view goes along once it shows what that has brought. -/
theorem call {α : Type} (e : Errand) (decode : Json.Decoder α) {v' : w.State}
    (hv : w.shown v' = ((w.brought? ⟨e, e.reply c token q.network⟩).or (w.lastBrought xs)).getD []) :
    w.Follows c token n (xs ++ [⟨e, e.reply c token q.network⟩]) v'
      (c.call e.method e.resource token e.payload? decode q).2 := by
  obtain ⟨before, hbefore⟩ := h.logged
  have hevent : (c.call e.method e.resource token e.payload? decode q).2.transcript =
      q.transcript ++ [.event (Client.callEvent e.method e.resource (e.reply c token q.network))] := by
    rw [Client.snd_call]
    rfl
  refine ⟨?_, by rw [lastBrought_concat]; exact hv, _, hevent.trans (by rw [hbefore, ← List.map_singleton, ← List.map_append])⟩
  rw [Client.network_call]
  exact h.converses.next e

/-- **A fetch** is an exchange for the list, and fails just if that does not bring one. -/
theorem refresh : w.Follows c token n (xs ++ [⟨w.errand, w.errand.reply c token q.network⟩])
      (w.refresh v c token q).2.1 (w.refresh v c token q).2.2 ∧
    ((w.refresh v c token q).1.isOk = (w.brought? ⟨w.errand, w.errand.reply c token q.network⟩).isSome) := by
  have hask : (w.ask c token q).1.toOption = w.brought? ⟨w.errand, w.errand.reply c token q.network⟩ := by
    rw [ask_eq, Client.fst_call]
    show _ = w.brought? ⟨w.errand, (c.send w.errand.method w.errand.resource token w.errand.payload? q.network).1⟩
    cases (c.send w.errand.method w.errand.resource token w.errand.payload? q.network).1 with
    | error detail => exact (w.brought?_of_error w.errand detail).symm
    | ok r => exact (w.brought?_of_ok r).symm
  have hshown : ∀ v' : w.State, w.shown v' = ((w.ask c token q).1.toOption.or (w.lastBrought xs)).getD [] →
      w.Follows c token n (xs ++ [⟨w.errand, w.errand.reply c token q.network⟩]) v' (w.ask c token q).2 := by
    intro v' hv'
    rw [hask] at hv'
    rw [ask_eq]
    exact h.call w.errand _ hv'
  rw [← hask]
  cases ha : (w.ask c token q).1 with
  | error e =>
    obtain ⟨hresult, hview⟩ := w.refresh_of_error v c token q ha
    rw [hresult]
    refine ⟨?_, rfl⟩
    rw [refresh_eq, ha]
    dsimp only
    refine noteAll (hshown _ ?_) _
    rw [ha, applyRefresh_error, begun, shown_setTickets]
    exact h.shown
  | ok l =>
    obtain ⟨hresult, hview⟩ := w.refresh_of_ok v c token q ha
    rw [hresult]
    refine ⟨?_, rfl⟩
    rw [refresh_eq] at hview ⊢
    refine noteAll (hshown _ ?_) _
    rw [hview, ha]
    rfl

theorem change {α : Type} {e : Errand} (he : ∀ reply, w.brought? ⟨e, reply⟩ = none) (decode : Json.Decoder α) :
    w.Follows c token n (xs ++ [⟨e, e.reply c token q.network⟩]) v
      (c.call e.method e.resource token e.payload? decode q).2 :=
  h.call e decode (by rw [he]; exact h.shown)

theorem refetch (log : ServiceError → Event) : ∃ reply,
    w.Follows c token n (xs ++ [⟨w.errand, reply⟩]) (w.refresh v c token q).2.1
      ((w.refresh v c token q).2.2.noteFailure log (w.refresh v c token q).1) := by
  obtain ⟨hfollows, -⟩ := h.refresh
  refine ⟨w.errand.reply c token q.network, ?_⟩
  cases (w.refresh v c token q).1 with
  | error e => exact hfollows.note (log e)
  | ok a => exact hfollows

end Follows

end ListView

/-! ## Changes -/

/-- How a change goes: nothing is sent, or its errand fails, or it succeeds and the list is fetched. -/
inductive Changes (change fetch : Errand) : Option Notice → List Exchange → Prop
  | idle : Changes change fetch none []
  | failed (message : String) (reply : Except String Reply) (fails : (⟨change, reply⟩ : Exchange).succeeds = false) :
    Changes change fetch (some (.failure message)) [⟨change, reply⟩]
  | made (message : String) (reply reply' : Except String Reply)
      (succeeds : (⟨change, reply⟩ : Exchange).succeeds = true) :
    Changes change fetch (some (.success message)) [⟨change, reply⟩, ⟨fetch, reply'⟩]

theorem Exchange.isOk_call {α : Type} (decode : Json.Decoder α) (e : Errand)
    (hdecode : ∀ body, e.understands body = (Client.readSuccess decode body).isOk) (c : Client) (token : Option Token)
    (q : Console Unit) : (c.call e.method e.resource token e.payload? decode q).1.isOk =
      (⟨e, e.reply c token q.network⟩ : Exchange).succeeds := by
  rw [Client.fst_call]
  unfold succeeds Errand.reply
  cases (c.send e.method e.resource token e.payload? q.network).1 with
  | error detail => rfl
  | ok r =>
    dsimp only
    rw [hdecode, ← Client.isSome_toOption_readReply]
    cases Client.readReply decode r <;> rfl

open ListView (Follows)

variable {c : Client} {token : Option Token} {n : Network} {xs : List Exchange} {q : Console Unit}

/-- **A submission** creates its expression, and fetches the list after that. -/
theorem ExpressionsView.follows_submit {v : ExpressionsView} (h : ListView.expressions.Follows c token n xs v q) :
    ∃ ys, Changes (.createExpression v.input) .listExpressions (v.submit c token q).1 ys ∧
      ListView.expressions.Follows c token n (xs ++ ys) (v.submit c token q).2.1 (v.submit c token q).2.2 := by
  by_cases hinput : v.input = ""
  · rw [submit_empty hinput]
    exact ⟨[], .idle, by rw [List.append_nil]; exact h⟩
  have hcall := h.change (e := .createExpression v.input) (fun reply => by cases reply <;> rfl)
    (Expression.decode Json.topRoom)
  have hok : (c.createExpression token v.input q).1.isOk = _ :=
    Exchange.isOk_call (Expression.decode Json.topRoom) (.createExpression v.input) (fun _ => rfl) c token q
  generalize (Errand.createExpression v.input).reply c token q.network = reply at hcall hok
  cases hcreate : (c.createExpression token v.input q).1 with
  | error e =>
    rw [hcreate] at hok
    rw [submit_of_error hinput hcreate]
    exact ⟨_, .failed e.message reply hok.symm, hcall.view _ rfl⟩
  | ok created =>
    rw [hcreate] at hok
    have hbegun := (hcall.note (.expressionAccepted created.id)).view { v with input := "" } rfl
    obtain ⟨reply', hfetched⟩ := hbegun.refetch fun e => .refreshAfterSubmissionFailed e.message
    rw [List.append_assoc] at hfetched
    rw [submit_of_ok hinput hcreate _ rfl]
    exact ⟨_, .made ("Expression accepted: " ++ created.data) reply reply' hok.symm, hfetched⟩

/-- **A save** sends the cost of the first row of its type, if that is dirty, and fetches the list after that. -/
theorem OperationsView.follows_save {v : OperationsView} (h : ListView.operations.Follows c token n xs v q)
    (operationType : String) : ∃ cost ys,
      Changes (.updateOperation operationType cost) .listOperations (v.save c token operationType q).1 ys ∧
      ListView.operations.Follows c token n (xs ++ ys) (v.save c token operationType q).2.1
        (v.save c token operationType q).2.2 := by
  cases hrow : (v.row? operationType).filter OperationRow.isDirty with
  | none =>
    rw [save_nothing hrow]
    exact ⟨0, [], .idle, by rw [List.append_nil]; exact h⟩
  | some row =>
    have hcall := h.change (e := .updateOperation operationType row.edited) (fun reply => by cases reply <;> rfl)
      (Operation.decode Json.topRoom)
    have hok : (c.updateOperation token operationType row.edited q).1.isOk = _ :=
      Exchange.isOk_call (Operation.decode Json.topRoom) (.updateOperation operationType row.edited) (fun _ => rfl) c
        token q
    refine ⟨row.edited, ?_⟩
    generalize (Errand.updateOperation operationType row.edited).reply c token q.network = reply at hcall hok
    cases hupdate : (c.updateOperation token operationType row.edited q).1 with
    | error e =>
      rw [hupdate] at hok
      rw [save_of_error hrow hupdate]
      exact ⟨_, .failed e.message reply hok.symm, hcall⟩
    | ok updated =>
      rw [hupdate] at hok
      have hbegun := hcall.note (.operationUpdated updated.operationType updated.executionTime)
      obtain ⟨reply', hfetched⟩ := hbegun.refetch fun e => .refreshAfterUpdateFailed e.message
      rw [List.append_assoc] at hfetched
      rw [save_of_ok hrow hupdate _ rfl]
      exact ⟨_, .made _ reply reply' hok.symm, hfetched⟩

end CalcConsole
