import CalcConsole.Views.Expressions
import CalcConsole.Views.Operations
/-! # Changes

A change sends one request.  Where that fails, the user is told and no more is sent.  Where it succeeds, the list is
fetched, and a failure of the fetch is only logged. -/
namespace CalcConsole

variable {σ : Type}

def Console.noteFailure {A : Type} (log : ServiceError → Event) (r : Except ServiceError A) (k : Console σ) :
    Console σ :=
  match r with
  | .error e => k.note (log e)
  | .ok _ => k

@[simp] theorem Console.network_noteFailure {A : Type} (log : ServiceError → Event) (r : Except ServiceError A)
    (k : Console σ) : (k.noteFailure log r).network = k.network := by
  cases r <;> rfl

namespace ExpressionsView

variable {v : ExpressionsView} {c : Client} {token : Option Token} {k : Console σ}

/-- **A fetch that brings a list** takes a ticket and puts the list in place of the old one. -/
theorem refresh_of_ok {l : List Expression} (h : (c.listExpressions token k).1 = .ok l) :
    (v.refresh c token k).2.1 =
      { v with expressions := l, tickets := { v.tickets with issued := v.tickets.issued + 1 } } := by
  unfold refresh
  generalize c.listExpressions token k = p at h ⊢
  obtain ⟨_, k₁⟩ := p
  cases h
  simp [beginRefresh, Tickets.begin, applyRefresh, Tickets.accept, Tickets.isLatest]

theorem canSubmit_iff : v.canSubmit = true ↔ v.input ≠ "" := by
  unfold canSubmit
  rw [Bool.not_eq_true', ← Bool.not_eq_true, String.isEmpty_iff]

theorem submit_empty (h : v.input = "") : v.submit c token k = (none, v, k) := by
  unfold submit
  rw [if_pos (by rw [canSubmit, Bool.not_not, String.isEmpty_iff]; exact h)]

theorem submit_of_error {f : ServiceError} (h : v.input ≠ "")
    (hcall : (c.createExpression token v.input k).1 = .error f) : v.submit c token k =
      (some (.failure f.message), { v with input := if v.clearInput = .always then "" else v.input },
        (c.createExpression token v.input k).2) := by
  unfold submit
  rw [if_neg (by rw [canSubmit_iff.mpr h]; decide)]
  generalize c.createExpression token v.input k = p at hcall ⊢
  obtain ⟨_, k₁⟩ := p
  cases hcall
  dsimp only
  split <;> rfl

theorem submit_of_ok {e : Expression} (h : v.input ≠ "") (hcall : (c.createExpression token v.input k).1 = .ok e) :
    ∀ q, q = refresh { v with input := "" } c token
        ((c.createExpression token v.input k).2.note (.expressionAccepted e.id)) →
      v.submit c token k = (some (.success ("Expression accepted: " ++ e.data)), q.2.1,
        q.2.2.noteFailure (fun f => .refreshAfterSubmissionFailed f.message) q.1) := by
  rintro q rfl
  unfold submit
  rw [if_neg (by rw [canSubmit_iff.mpr h]; decide)]
  generalize c.createExpression token v.input k = p at hcall ⊢
  obtain ⟨_, k₁⟩ := p
  cases hcall
  dsimp only
  generalize refresh { v with input := "" } c token (k₁.note (.expressionAccepted e.id)) = q
  obtain ⟨r, v', k₂⟩ := q
  cases r <;> rfl

end ExpressionsView

namespace OperationsView

variable {v : OperationsView} {c : Client} {token : Option Token} {k : Console σ} {operationType : String}

/-- **A fetch that brings a list** takes a ticket and makes a row of each operation, with the edits that wait. -/
theorem refresh_of_ok {l : List Operation} (h : (c.listOperations token k).1 = .ok l) :
    (v.refresh c token k).2.1 = ⟨l.map (carryOver v.rows), { v.tickets with issued := v.tickets.issued + 1 }⟩ := by
  unfold refresh
  generalize c.listOperations token k = p at h ⊢
  obtain ⟨_, k₁⟩ := p
  cases h
  simp [beginRefresh, Tickets.begin, applyRefresh, Tickets.accept, Tickets.isLatest]

theorem save_nothing (h : (v.row? operationType).filter OperationRow.isDirty = none) :
    v.save c token operationType k = (none, v, k) := by
  unfold save
  rw [h]

theorem save_of_error {row : OperationRow} {f : ServiceError}
    (h : (v.row? operationType).filter OperationRow.isDirty = some row)
    (hcall : (c.updateOperation token operationType row.edited k).1 = .error f) : v.save c token operationType k =
      (some (.failure f.message), v, (c.updateOperation token operationType row.edited k).2) := by
  unfold save
  rw [h]
  dsimp only
  generalize c.updateOperation token operationType row.edited k = p at hcall ⊢
  obtain ⟨_, k₁⟩ := p
  cases hcall
  rfl

theorem save_of_ok {row : OperationRow} {o : Operation}
    (h : (v.row? operationType).filter OperationRow.isDirty = some row)
    (hcall : (c.updateOperation token operationType row.edited k).1 = .ok o) :
    ∀ q, q = v.refresh c token
        ((c.updateOperation token operationType row.edited k).2.note (.operationUpdated o.operationType o.executionTime)) →
      v.save c token operationType k =
        (some (.success (o.operationType ++ " now takes " ++ toString o.executionTime ++ "s")), q.2.1,
          q.2.2.noteFailure (fun f => .refreshAfterUpdateFailed f.message) q.1) := by
  rintro q rfl
  unfold save
  rw [h]
  dsimp only
  generalize c.updateOperation token operationType row.edited k = p at hcall ⊢
  obtain ⟨_, k₁⟩ := p
  cases hcall
  dsimp only
  generalize v.refresh c token (k₁.note (.operationUpdated o.operationType o.executionTime)) = q
  obtain ⟨r, v', k₂⟩ := q
  cases r <;> rfl

end OperationsView
end CalcConsole
