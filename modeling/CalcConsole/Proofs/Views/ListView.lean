import CalcConsole.Views.Agents
import CalcConsole.Views.Expressions
import CalcConsole.Views.Operations
/-! # The three views of lists

Expressions, operations and agents are fetched in one way.  `ListView` names their views and reaches what each of them
does under one name, so that a rule for all lists is stated once.  A `History` is a run of one view, kept together with
what the run says about tickets: those that were given out, and the answers that came with them. -/
namespace CalcConsole

inductive ListView where
  | expressions | operations | agents
deriving DecidableEq, Repr

namespace ListView

@[reducible] def State : ListView → Type
  | .expressions => ExpressionsView
  | .operations => OperationsView
  | .agents => AgentsView

@[reducible] def Item : ListView → Type
  | .expressions => Expression
  | .operations => Operation
  | .agents => Agent

/-- What a user can do in a view between its fetches: type a line, or set the cost of a type. -/
@[reducible] def Touch : ListView → Type
  | .expressions => String
  | .operations => String × Nat
  | .agents => Empty

def fresh (clearInput : ClearInput) : (w : ListView) → w.State
  | .expressions => .new clearInput
  | .operations => .new
  | .agents => .new

def shown : (w : ListView) → w.State → List w.Item
  | .expressions, v => v.expressions
  | .operations, v => v.rows.map (·.operation)
  | .agents, v => v.agents

def tickets : (w : ListView) → w.State → Tickets
  | .expressions, v => v.tickets
  | .operations, v => v.tickets
  | .agents, v => v.tickets

def setTickets : (w : ListView) → w.State → Tickets → w.State
  | .expressions, v, t => { v with tickets := t }
  | .operations, v, t => { v with tickets := t }
  | .agents, v, t => { v with tickets := t }

def beginRefresh : (w : ListView) → w.State → Nat × w.State
  | .expressions, v => v.beginRefresh
  | .operations, v => v.beginRefresh
  | .agents, v => v.beginRefresh

def applyRefresh : (w : ListView) → w.State → Nat → Except ServiceError (List w.Item) →
    Except ServiceError Applied × w.State × List Event
  | .expressions, v, ticket, r => v.applyRefresh ticket r
  | .operations, v, ticket, r => v.applyRefresh ticket r
  | .agents, v, ticket, r => v.applyRefresh ticket r

def touch : (w : ListView) → w.Touch → w.State → w.State
  | .expressions, text, v => { v with input := text }
  | .operations, (operationType, value), v => (v.edit operationType value).2

variable (w : ListView) (v : w.State)

@[simp] theorem tickets_fresh (c : ClearInput) : w.tickets (w.fresh c) = .fresh := by cases w <;> rfl

@[simp] theorem shown_fresh (c : ClearInput) : w.shown (w.fresh c) = [] := by cases w <;> rfl

@[simp] theorem tickets_setTickets (t : Tickets) : w.tickets (w.setTickets v t) = t := by cases w <;> rfl

@[simp] theorem shown_setTickets (t : Tickets) : w.shown (w.setTickets v t) = w.shown v := by cases w <;> rfl

@[simp] theorem tickets_touch (x : w.Touch) : w.tickets (w.touch x v) = w.tickets v := by
  cases w with
  | expressions => rfl
  | operations => rfl
  | agents => exact x.elim

end ListView

namespace OperationsView

theorem operations_editRows (operationType : String) (value : Nat) : ∀ rows : List OperationRow,
    (editRows operationType value rows).map (·.operation) = rows.map (·.operation)
  | [] => rfl
  | r :: rs => by
    unfold editRows
    split
    · rfl
    · rw [List.map_cons, List.map_cons, operations_editRows operationType value rs]

theorem operations_carryOver (old : List OperationRow) (os : List Operation) :
    (os.map (carryOver old)).map (·.operation) = os := by
  rw [List.map_map]
  exact List.map_id' os

end OperationsView

namespace ListView

variable (w : ListView) (v : w.State)

@[simp] theorem shown_touch (x : w.Touch) : w.shown (w.touch x v) = w.shown v := by
  cases w with
  | expressions => rfl
  | operations => exact OperationsView.operations_editRows x.1 x.2 v.rows
  | agents => exact x.elim

/-- **A fetch takes the next ticket** and changes nothing else. -/
theorem beginRefresh_eq : w.beginRefresh v =
    ((w.tickets v).issued + 1, w.setTickets v { w.tickets v with issued := (w.tickets v).issued + 1 }) := by
  cases w <;> rfl

/-- **A failure is passed on** and changes nothing. -/
theorem applyRefresh_error (ticket : Nat) (e : ServiceError) :
    w.applyRefresh v ticket (.error e) = (.error e, v, []) := by
  cases w <;> rfl

/-- **A list with the last ticket is taken over**, in its order. -/
theorem applyRefresh_latest {ticket : Nat} (h : ticket = (w.tickets v).issued) (l : List w.Item) :
    (w.applyRefresh v ticket (.ok l)).1 = .ok .replaced ∧ w.shown (w.applyRefresh v ticket (.ok l)).2.1 = l ∧
      w.tickets (w.applyRefresh v ticket (.ok l)).2.1 = w.tickets v := by
  have ha : ∀ view, (w.tickets v).accept ticket view = (true, w.tickets v, []) := by
    intro view
    unfold Tickets.accept Tickets.isLatest
    rw [h, beq_self_eq_true, if_pos rfl]
  cases w with
  | expressions =>
    simp only [applyRefresh, ExpressionsView.applyRefresh]
    rw [show v.tickets.accept ticket "expressions" = (true, v.tickets, []) from ha _]
    exact ⟨rfl, rfl, rfl⟩
  | operations =>
    simp only [applyRefresh, OperationsView.applyRefresh]
    rw [show v.tickets.accept ticket "operations" = (true, v.tickets, []) from ha _]
    exact ⟨rfl, OperationsView.operations_carryOver v.rows l, rfl⟩
  | agents =>
    simp only [applyRefresh, AgentsView.applyRefresh]
    rw [show v.tickets.accept ticket "agents" = (true, v.tickets, []) from ha _]
    exact ⟨rfl, rfl, rfl⟩

/-- **A list with an older ticket is counted** and changes nothing else. -/
theorem applyRefresh_stale {ticket : Nat} (h : ticket ≠ (w.tickets v).issued) (l : List w.Item) :
    (w.applyRefresh v ticket (.ok l)).1 = .ok .stale ∧ (w.applyRefresh v ticket (.ok l)).2.1 =
      w.setTickets v { w.tickets v with discarded := (w.tickets v).discarded + 1 } := by
  have ha : ∀ view, (w.tickets v).accept ticket view =
      (false, { w.tickets v with discarded := (w.tickets v).discarded + 1 },
        [.staleResponse view ticket (w.tickets v).issued]) := by
    intro view
    unfold Tickets.accept Tickets.isLatest
    rw [beq_false_of_ne h]
    rfl
  cases w with
  | expressions =>
    simp only [applyRefresh, ExpressionsView.applyRefresh]
    rw [show v.tickets.accept ticket "expressions" = _ from ha _]
    exact ⟨rfl, rfl⟩
  | operations =>
    simp only [applyRefresh, OperationsView.applyRefresh]
    rw [show v.tickets.accept ticket "operations" = _ from ha _]
    exact ⟨rfl, rfl⟩
  | agents =>
    simp only [applyRefresh, AgentsView.applyRefresh]
    rw [show v.tickets.accept ticket "agents" = _ from ha _]
    exact ⟨rfl, rfl⟩

/-- **A list is taken over** just if it comes with the last ticket. -/
theorem replaced_iff (ticket : Nat) (r : Except ServiceError (List w.Item)) :
    (w.applyRefresh v ticket r).1 = .ok .replaced ↔ (∃ l, r = .ok l) ∧ ticket = (w.tickets v).issued := by
  cases r with
  | error e =>
    rw [applyRefresh_error]
    exact ⟨fun h => (by cases h), fun ⟨⟨l, hl⟩, _⟩ => (by cases hl)⟩
  | ok l =>
    by_cases h : ticket = (w.tickets v).issued
    · exact ⟨fun _ => ⟨⟨l, rfl⟩, h⟩, fun _ => (w.applyRefresh_latest v h l).1⟩
    · rw [(w.applyRefresh_stale v h l).1]
      exact ⟨fun hr => (by cases hr), fun hr => absurd hr.2 h⟩

/-! ## Runs of a view -/

inductive Move (w : ListView) where
  | fetch
  | answer (ticket : Nat) (r : Except ServiceError (List w.Item))
  | touch (x : w.Touch)

def move (v : w.State) : Move w → w.State
  | .fetch => (w.beginRefresh v).2
  | .answer ticket r => (w.applyRefresh v ticket r).2.1
  | .touch x => w.touch x v

def run (v : w.State) (ms : List (Move w)) : w.State := ms.foldl w.move v

/-- The list that a move puts on display, if it brings one that is taken over. -/
def taken? (v : w.State) : Move w → Option (List w.Item)
  | .answer ticket r =>
    match (w.applyRefresh v ticket r).1, r with
    | .ok .replaced, .ok l => some l
    | _, _ => none
  | .fetch | .touch _ => none

def accepted (v : w.State) : List (Move w) → List (List w.Item)
  | [] => []
  | m :: ms => (w.taken? v m).toList ++ accepted (w.move v m) ms

theorem accepted_append (pre post : List (Move w)) : ∀ v : w.State,
    w.accepted v (pre ++ post) = w.accepted v pre ++ w.accepted (w.run v pre) post := by
  induction pre with
  | nil => intro v; rfl
  | cons m pre ih =>
    intro v
    rw [List.cons_append, accepted, accepted, ih (w.move v m), List.append_assoc]
    rfl

theorem taken?_answer_eq_some {ticket : Nat} {r : Except ServiceError (List w.Item)} {l : List w.Item}
    (h : w.taken? v (.answer ticket r) = some l) :
    r = .ok l ∧ (w.applyRefresh v ticket r).1 = .ok .replaced := by
  simp only [taken?] at h
  split at h
  · rename_i hr
    cases h
    exact ⟨rfl, hr⟩
  · cases h

structure History (w : ListView) where
  view : w.State
  /-- The tickets that were given out, the last one first. -/
  issued : List Nat
  /-- The list on display, with the ticket that it came with. -/
  onDisplay : Option (Nat × List w.Item)
  /-- How many lists came with a ticket that was not the last one. -/
  late : Nat

namespace History

variable {w : ListView}

def start (w : ListView) (c : ClearInput) : History w := ⟨w.fresh c, [], none, 0⟩

def step (h : History w) : Move w → History w
  | .fetch => { h with view := w.move h.view .fetch, issued := (w.beginRefresh h.view).1 :: h.issued }
  | .answer ticket (.error e) => { h with view := w.move h.view (.answer ticket (.error e)) }
  | .answer ticket (.ok l) =>
    let view := w.move h.view (.answer ticket (.ok l))
    if h.issued.head? = some ticket then { h with view, onDisplay := some (ticket, l) }
    else { h with view, late := h.late + 1 }
  | .touch x => { h with view := w.move h.view (.touch x) }

def run (h : History w) (ms : List (Move w)) : History w := ms.foldl step h

/-- Whether an answer comes with a ticket that was given out. -/
def Permits (h : History w) : Move w → Prop
  | .answer ticket _ => ticket ∈ h.issued
  | .fetch | .touch _ => True

/-- Whether all answers of a run come with tickets that were given out before. -/
def Proper (h : History w) : List (Move w) → Prop
  | [] => True
  | m :: ms => h.Permits m ∧ (h.step m).Proper ms

/-- The ticket of the list on display; tickets start at one. -/
def displayed (h : History w) : Nat := (h.onDisplay.map (·.1)).getD 0

theorem proper_append (pre post : List (Move w)) : ∀ h : History w,
    h.Proper (pre ++ post) ↔ h.Proper pre ∧ (h.run pre).Proper post := by
  induction pre with
  | nil => intro h; exact ⟨fun hp => ⟨trivial, hp⟩, fun hp => hp.2⟩
  | cons m pre ih =>
    intro h
    rw [List.cons_append, Proper, Proper, ih (h.step m), and_assoc]
    rfl

end History
end ListView
end CalcConsole
