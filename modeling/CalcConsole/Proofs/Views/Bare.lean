import CalcConsole.Proofs.Views.Changes
import CalcConsole.Proofs.Views.Fetching
/-! # Views on a bare console

A view has nothing to do with the store, nor with what has been printed before: it takes its answers from the network
and adds events to the log.  So all that it does can be told on a console that has a network and nothing else, and is
the same on every other one.  Each lemma says so of one thing that a view does, on a console `k` to which has been added
what has happened on the bare one so far. -/
namespace CalcConsole

namespace Console

variable {σ : Type} (k : Console σ) (q : Console Unit)

def bare (n : Network) : Console Unit := ⟨(), n, []⟩

/-- The console when all that has happened on `q` has happened on it too. -/
def adding : Console σ := ⟨k.store, q.network, k.transcript ++ q.transcript⟩

def recordAll (ps : List Printed) : Console σ := { k with transcript := k.transcript ++ ps }

theorem adding_bare : k.adding (bare k.network) = k := by
  unfold adding bare
  rw [List.append_nil]

theorem adding_note (e : Event) : (k.adding q).note e = k.adding (q.note e) := by
  unfold adding note record
  rw [List.append_assoc]

theorem adding_noteAll (es : List Event) : ∀ q : Console Unit, (k.adding q).noteAll es = k.adding (q.noteAll es) := by
  induction es with
  | nil => exact fun _ => rfl
  | cons e es ih =>
    intro q
    show ((k.adding q).note e).noteAll es = k.adding ((q.note e).noteAll es)
    rw [adding_note, ih]

theorem adding_noteFailure {A : Type} (log : ServiceError → Event) (r : Except ServiceError A) :
    (k.adding q).noteFailure log r = k.adding (q.noteFailure log r) := by
  cases r with
  | error e => exact adding_note k q (log e)
  | ok a => rfl

theorem recordAll_recordAll (ps ps' : List Printed) : (k.recordAll ps).recordAll ps' = k.recordAll (ps ++ ps') := by
  unfold recordAll
  rw [List.append_assoc]

theorem noteAll_eq (es : List Event) : ∀ k : Console σ, k.noteAll es = k.recordAll (es.map .event) := by
  induction es with
  | nil =>
    intro k
    unfold recordAll
    rw [List.map_nil, List.append_nil]
    rfl
  | cons e es ih =>
    intro k
    show (k.note e).noteAll es = _
    rw [ih]
    exact recordAll_recordAll k [.event e] (es.map .event)

end Console

open Console (adding_note adding_noteAll adding_noteFailure)

variable {σ : Type} (c : Client) (token : Option Token) (k : Console σ) (q : Console Unit)

theorem Client.call_adding {α : Type} (method path : String) (payload : Option Json) (decode : Json.Decoder α) :
    c.call method path token payload decode (k.adding q) =
      ((c.call method path token payload decode q).1, k.adding (c.call method path token payload decode q).2) := by
  have hnetwork : (k.adding q).network = q.network := rfl
  unfold call
  rw [hnetwork]
  generalize c.send method path token payload q.network = p
  obtain ⟨reply, n⟩ := p
  have hnote := adding_note k { q with network := n } (callEvent method path reply)
  cases reply with
  | error detail => exact congrArg (Prod.mk _) hnote
  | ok r => exact congrArg (Prod.mk _) hnote

theorem ListView.refresh_adding (w : ListView) (v : w.State) : w.refresh v c token (k.adding q) =
    ((w.refresh v c token q).1, (w.refresh v c token q).2.1, k.adding (w.refresh v c token q).2.2) := by
  rw [refresh_eq, refresh_eq, ask_eq, ask_eq, Client.call_adding, adding_noteAll]

theorem ExpressionsView.submit_adding (v : ExpressionsView) : v.submit c token (k.adding q) =
    ((v.submit c token q).1, (v.submit c token q).2.1, k.adding (v.submit c token q).2.2) := by
  by_cases hinput : v.input = ""
  · rw [submit_empty hinput, submit_empty hinput]
  have hcall : c.createExpression token v.input (k.adding q) =
    ((c.createExpression token v.input q).1, k.adding (c.createExpression token v.input q).2) :=
    c.call_adding token k q _ _ _ _
  have hrefresh : ∀ (v : ExpressionsView) (q : Console Unit), v.refresh c token (k.adding q) =
    ((v.refresh c token q).1, (v.refresh c token q).2.1, k.adding (v.refresh c token q).2.2) :=
    fun v q => ListView.expressions.refresh_adding c token k q v
  cases hcreate : (c.createExpression token v.input q).1 with
  | error e =>
    rw [submit_of_error hinput hcreate, submit_of_error hinput (by rw [hcall]; exact hcreate), hcall]
  | ok created =>
    rw [submit_of_ok hinput hcreate _ rfl, submit_of_ok hinput (by rw [hcall]; exact hcreate) _ rfl, hcall]
    dsimp only
    rw [adding_note, hrefresh, adding_noteFailure]

theorem OperationsView.save_adding (v : OperationsView) (operationType : String) :
    v.save c token operationType (k.adding q) = ((v.save c token operationType q).1,
      (v.save c token operationType q).2.1, k.adding (v.save c token operationType q).2.2) := by
  cases hrow : (v.row? operationType).filter OperationRow.isDirty with
  | none => rw [save_nothing hrow, save_nothing hrow]
  | some row =>
    have hcall : c.updateOperation token operationType row.edited (k.adding q) =
      ((c.updateOperation token operationType row.edited q).1,
        k.adding (c.updateOperation token operationType row.edited q).2) := c.call_adding token k q _ _ _ _
    have hrefresh : ∀ q : Console Unit, v.refresh c token (k.adding q) =
      ((v.refresh c token q).1, (v.refresh c token q).2.1, k.adding (v.refresh c token q).2.2) :=
      fun q => ListView.operations.refresh_adding c token k q v
    cases hupdate : (c.updateOperation token operationType row.edited q).1 with
    | error e => rw [save_of_error hrow hupdate, save_of_error hrow (by rw [hcall]; exact hupdate), hcall]
    | ok updated =>
      rw [save_of_ok hrow hupdate _ rfl, save_of_ok hrow (by rw [hcall]; exact hupdate) _ rfl, hcall]
      dsimp only
      rw [adding_note, hrefresh, adding_noteFailure]

end CalcConsole
