import CalcConsole.Proofs.Views.Changes
import CalcConsole.Proofs.Views.Fetching
/-! # A change bars the answers before it

What the service has accepted is not undone by an answer that was under way.  A change that succeeds is followed by a
fetch, and with the ticket of that fetch all earlier ones are too old, whatever becomes of the fetch itself.  A change
that does not succeed takes no ticket, so the answer that was waited for is still taken over. -/
namespace CalcConsole
namespace ListView

variable {σ : Type}

/-- What a user can have changed at the service: submit the line that was typed, or save the cost of a type. -/
@[reducible] def Change : ListView → Type
  | .expressions => Unit
  | .operations => String
  | .agents => Empty

def change : (w : ListView) → w.Change → w.State → Client → Option Token → Console σ →
    Option Notice × w.State × Console σ
  | .expressions, (), v, c, token, k => v.submit c token k
  | .operations, operationType, v, c, token, k => v.save c token operationType k

def changeErrand? : (w : ListView) → w.Change → w.State → Option Errand
  | .expressions, (), v => if v.canSubmit then some (.createExpression v.input) else none
  | .operations, operationType, v =>
    ((v.row? operationType).filter OperationRow.isDirty).map fun row => .updateOperation operationType row.edited

/-- Whether a change is sent, and answered by a success that holds what was asked for. -/
def Lands (w : ListView) (x : w.Change) (v : w.State) (c : Client) (token : Option Token) (n : Network) : Prop :=
  ∃ e r, w.changeErrand? x v = some e ∧ e.reply c token n = .ok r ∧ r.status < 400 ∧ e.understands r.body = true

def cleared : (w : ListView) → w.State → w.State
  | .expressions, v => { v with input := "" }
  | .operations, v => v
  | .agents, v => v

inductive Deed (w : ListView) where
  | begin
  | answer (ticket : Nat) (r : Except ServiceError (List w.Item))
  | touch (x : w.Touch)
  | refresh (c : Client) (token : Option Token)
  | change (x : w.Change) (c : Client) (token : Option Token)

def deed {w : ListView} (s : w.State × Console σ) : Deed w → w.State × Console σ
  | .begin => ((w.beginRefresh s.1).2, s.2)
  | .answer ticket r => ((w.applyRefresh s.1 ticket r).2.1, s.2.noteAll (w.applyRefresh s.1 ticket r).2.2)
  | .touch x => (w.touch x s.1, s.2)
  | .refresh c token => (w.refresh s.1 c token s.2).2
  | .change x c token => (w.change x s.1 c token s.2).2

def deeds {w : ListView} (s : w.State × Console σ) (ds : List (Deed w)) : w.State × Console σ := ds.foldl deed s

variable {w : ListView}

@[simp] theorem tickets_cleared (v : w.State) : w.tickets (w.cleared v) = w.tickets v := by cases w <;> rfl

@[simp] theorem shown_cleared (v : w.State) : w.shown (w.cleared v) = w.shown v := by cases w <;> rfl

/-! ## Tickets are never taken back -/

theorem issued_applyRefresh (v : w.State) (ticket : Nat) (r : Except ServiceError (List w.Item)) :
    (w.tickets (w.applyRefresh v ticket r).2.1).issued = (w.tickets v).issued := by
  cases r with
  | error e => rw [applyRefresh_error]
  | ok l =>
    by_cases h : ticket = (w.tickets v).issued
    · rw [(w.applyRefresh_latest v h l).2.2]
    · rw [(w.applyRefresh_stale v h l).2, tickets_setTickets]

theorem issued_refresh (v : w.State) (c : Client) (token : Option Token) (k : Console σ) :
    (w.tickets (w.refresh v c token k).2.1).issued = (w.tickets v).issued + 1 := by
  rw [refresh_eq, issued_applyRefresh, begun, tickets_setTickets]

/-! ## What a change does to its view -/

theorem isOk_eq_true_iff {A : Type} {r : Except Fault A} : r.isOk = true ↔ ∃ a, r = .ok a := by
  cases r <;> simp [Except.isOk, Except.toBool]

/-- **A change that lands** is followed by a fetch. -/
theorem change_of_lands {x : w.Change} {v : w.State} {c : Client} {token : Option Token} {k : Console σ}
    (h : w.Lands x v c token k.network) :
    ∃ k' : Console σ, (w.change x v c token k).2.1 = (w.refresh (w.cleared v) c token k').2.1 := by
  obtain ⟨e, r, he, hr, hstatus, hbody⟩ := h
  cases w with
  | expressions =>
    obtain ⟨hcan, he⟩ := Option.ite_none_right_eq_some.mp he
    cases he
    obtain ⟨created, hcreated⟩ := isOk_eq_true_iff.mp hbody
    have hcall : (c.createExpression token v.input k).1 = .ok created :=
      Client.call_eq_ok_iff.mpr ⟨r, hr, hstatus, hcreated⟩
    rw [change, ExpressionsView.submit_of_ok (ExpressionsView.canSubmit_iff.mp hcan) hcall _ rfl]
    exact ⟨_, rfl⟩
  | operations =>
    obtain ⟨row, hrow, rfl⟩ := Option.map_eq_some_iff.mp he
    obtain ⟨updated, hupdated⟩ := isOk_eq_true_iff.mp hbody
    have hcall : (c.updateOperation token x row.edited k).1 = .ok updated :=
      Client.call_eq_ok_iff.mpr ⟨r, hr, hstatus, hupdated⟩
    rw [change, OperationsView.save_of_ok hrow hcall _ rfl]
    exact ⟨_, rfl⟩
  | agents => exact x.elim

/-- **A change that does not land** leaves all but the line. -/
theorem change_of_not_lands {x : w.Change} {v : w.State} {c : Client} {token : Option Token} {k : Console σ}
    (h : ¬ w.Lands x v c token k.network) :
    (w.change x v c token k).2.1 = v ∨ (w.change x v c token k).2.1 = w.cleared v := by
  cases w with
  | expressions =>
    by_cases hinput : v.input = ""
    · rw [change, ExpressionsView.submit_empty hinput]
      exact .inl rfl
    · cases hcall : (c.createExpression token v.input k).1 with
      | error f =>
        rw [change, ExpressionsView.submit_of_error hinput hcall]
        dsimp only
        split
        · exact .inr rfl
        · exact .inl rfl
      | ok created =>
        obtain ⟨r, hr, hstatus, hbody⟩ := Client.call_eq_ok_iff.mp hcall
        exact absurd ⟨.createExpression v.input, r, if_pos (ExpressionsView.canSubmit_iff.mpr hinput), hr, hstatus,
          isOk_eq_true_iff.mpr ⟨created, hbody⟩⟩ h
  | operations =>
    cases hrow : (v.row? x).filter OperationRow.isDirty with
    | none =>
      rw [change, OperationsView.save_nothing hrow]
      exact .inl rfl
    | some row =>
      cases hcall : (c.updateOperation token x row.edited k).1 with
      | error f =>
        rw [change, OperationsView.save_of_error hrow hcall]
        exact .inl rfl
      | ok updated =>
        obtain ⟨r, hr, hstatus, hbody⟩ := Client.call_eq_ok_iff.mp hcall
        refine absurd ⟨.updateOperation x row.edited, r, ?_, hr, hstatus, isOk_eq_true_iff.mpr ⟨updated, hbody⟩⟩ h
        simp only [changeErrand?, hrow, Option.map_some]
  | agents => exact x.elim

theorem issued_change_of_lands {x : w.Change} {v : w.State} {c : Client} {token : Option Token} {k : Console σ}
    (h : w.Lands x v c token k.network) :
    (w.tickets (w.change x v c token k).2.1).issued = (w.tickets v).issued + 1 := by
  obtain ⟨k', hchange⟩ := change_of_lands h
  rw [hchange, issued_refresh, tickets_cleared]

theorem tickets_change_of_not_lands {x : w.Change} {v : w.State} {c : Client} {token : Option Token} {k : Console σ}
    (h : ¬ w.Lands x v c token k.network) : w.tickets (w.change x v c token k).2.1 = w.tickets v := by
  rcases change_of_not_lands h with hv | hv
  · rw [hv]
  · rw [hv, tickets_cleared]

theorem issued_le_deed (s : w.State × Console σ) (d : Deed w) :
    (w.tickets s.1).issued ≤ (w.tickets (deed s d).1).issued := by
  cases d with
  | begin =>
    rw [deed, beginRefresh_eq, tickets_setTickets]
    exact Nat.le_succ _
  | answer ticket r =>
    rw [deed]
    exact Nat.le_of_eq (issued_applyRefresh ..).symm
  | touch x =>
    rw [deed]
    exact Nat.le_of_eq (congrArg Tickets.issued (tickets_touch ..)).symm
  | refresh c token =>
    rw [deed, issued_refresh]
    exact Nat.le_succ _
  | change x c token =>
    rw [deed]
    by_cases h : w.Lands x s.1 c token s.2.network
    · rw [issued_change_of_lands h]
      exact Nat.le_succ _
    · exact Nat.le_of_eq (congrArg Tickets.issued (tickets_change_of_not_lands h)).symm

theorem issued_le_deeds (ds : List (Deed w)) : ∀ s : w.State × Console σ,
    (w.tickets s.1).issued ≤ (w.tickets (deeds s ds).1).issued := by
  induction ds with
  | nil => exact fun _ => Nat.le_refl _
  | cons d ds ih => exact fun s => Nat.le_trans (issued_le_deed s d) (ih (deed s d))

/-- **A change that lands bars every answer before it.**  Whatever its own fetch brings and whatever happens afterwards,
a list that comes with a ticket from before the change is only counted, and a failure only passed on.  A change that
does not land leaves the tickets and the list, so the list with the last ticket is still taken over. -/
theorem change_bars_earlier_answers (x : w.Change) (v : w.State) (c : Client) (token : Option Token) (k : Console σ) :
    (w.Lands x v c token k.network → ∀ (ds : List (Deed w)) (ticket : Nat), ticket ≤ (w.tickets v).issued →
      ∀ u, u = (deeds (w.change x v c token k).2 ds).1 →
        (∀ l, (w.applyRefresh u ticket (.ok l)).1 = .ok .stale ∧ (w.applyRefresh u ticket (.ok l)).2.1 =
          w.setTickets u { w.tickets u with discarded := (w.tickets u).discarded + 1 }) ∧
        ∀ e, w.applyRefresh u ticket (.error e) = (.error e, u, [])) ∧
    (¬ w.Lands x v c token k.network → ∀ u, u = (w.change x v c token k).2.1 →
      (u = v ∨ u = w.cleared v) ∧ w.tickets u = w.tickets v ∧ w.shown u = w.shown v ∧
        ∀ l, (w.applyRefresh u (w.tickets v).issued (.ok l)).1 = .ok .replaced ∧
          w.shown (w.applyRefresh u (w.tickets v).issued (.ok l)).2.1 = l) := by
  constructor
  · rintro h ds ticket hticket u rfl
    have hnew := issued_le_deeds ds (w.change x v c token k).2
    rw [issued_change_of_lands h] at hnew
    exact ⟨w.applyRefresh_stale _ (by omega), w.applyRefresh_error _ ticket⟩
  · rintro h u rfl
    have hsame := change_of_not_lands h
    have htickets := tickets_change_of_not_lands h
    refine ⟨hsame, htickets, ?_, fun l => ?_⟩
    · rcases hsame with hv | hv
      · rw [hv]
      · rw [hv, shown_cleared]
    · obtain ⟨hreplaced, hshown, -⟩ := w.applyRefresh_latest _ (congrArg Tickets.issued htickets).symm l
      exact ⟨hreplaced, hshown⟩

/-! ### A submission before its third fetch is answered -/

def typed : ExpressionsView := ⟨"2+2", [Entity.four], ⟨3, 0⟩, .always⟩

/-- A service that accepts the submission with a body, and cuts off the fetch that follows it. -/
def accepting (body : String) : Console Unit := ⟨(), ⟨[.answered ⟨201, "", body.toUTF8⟩], .dropped, []⟩, []⟩

def unreachable : Console Unit := ⟨(), ⟨[], .refused, []⟩, []⟩

theorem lands_typed {body : String} {e : Expression} (h : Json.ofText (Expression.decode Json.topRoom) body = .ok e) :
    expressions.Lands () typed watcher none (accepting body).network := by
  refine ⟨.createExpression "2+2", ⟨201, "", body.toUTF8⟩, rfl, rfl, (by decide : 201 < 400), ?_⟩
  exact isOk_eq_true_iff.mpr ⟨e, (Client.readSuccess_toUTF8 _ body).trans h⟩

theorem third_answer_after_submission :
    (∀ u, u = (deeds (expressions.change () typed watcher none (accepting Entity.four.json.compact)).2
        [.begin, .touch "3+4"]).1 →
      (expressions.applyRefresh u 3 (.ok [])).1 = .ok .stale ∧
      expressions.shown (expressions.applyRefresh u 3 (.ok [])).2.1 = expressions.shown u) ∧
    (expressions.applyRefresh (expressions.change () typed watcher none unreachable).2.1 3 (.ok [])).1 =
      .ok .replaced := by
  have hlegible : Entity.four.json.Legible := Entity.four.legible_json (by decide +kernel)
  have hlands := lands_typed (Json.ofText_of_read (Json.read_compact hlegible) (Entity.four.decode_json Json.topRoom))
  have hfails : ¬ expressions.Lands () typed watcher none unreachable.network := by
    rintro ⟨e, r, he, hr, -⟩
    cases he
    cases hr
  refine ⟨fun u hu => ?_, ?_⟩
  · obtain ⟨hlists, -⟩ := (change_bars_earlier_answers (w := expressions) () typed watcher none _).1 hlands
      [.begin, .touch "3+4"] 3 (Nat.le_refl _) u hu
    exact ⟨(hlists []).1, by rw [(hlists []).2, shown_setTickets]⟩
  · obtain ⟨-, -, -, hlists⟩ := (change_bars_earlier_answers (w := expressions) () typed watcher none unreachable).2
      hfails _ rfl
    exact (hlists []).1

end ListView
end CalcConsole
