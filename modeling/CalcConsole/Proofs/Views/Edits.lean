import CalcConsole.Proofs.Service.Calls
import CalcConsole.Proofs.Views.Changes
import CalcConsole.Proofs.Views.ListView
/-! # Edits of costs

A cost that a user has set outlives every list that is fetched, until a list reports the same cost.  A run of the view
tells of edits and of lists (`happenings`), and from what it tells one knows each row: no cost comes from anywhere else,
and no edit is lost (`edits_kept`). -/
namespace CalcConsole
namespace OperationsView

open ListView

variable {σ : Type}

inductive Step where
  | edit (operationType : String) (value : Nat)
  | save (c : Client) (token : Option Token) (operationType : String)
  | refresh (c : Client) (token : Option Token)
  | begin
  | answer (ticket : Nat) (r : Except ServiceError (List Operation))

def step (s : OperationsView × Console σ) : Step → OperationsView × Console σ
  | .edit operationType value => ((s.1.edit operationType value).2, s.2)
  | .save c token operationType => (s.1.save c token operationType s.2).2
  | .refresh c token => (s.1.refresh c token s.2).2
  | .begin => (s.1.beginRefresh.2, s.2)
  | .answer ticket r => ((s.1.applyRefresh ticket r).2.1, s.2.noteAll (s.1.applyRefresh ticket r).2.2)

def steps (s : OperationsView × Console σ) (xs : List Step) : OperationsView × Console σ := xs.foldl step s

/-! ## What a run tells -/

inductive Happening where
  /-- A cost was set in the row of an operation. -/
  | edited (id : Identifier) (value : Nat)
  /-- A list was taken over. -/
  | listed (l : List Operation)

def told (v : OperationsView) : Move .operations → List Happening
  | .touch (operationType, value) => (v.row? operationType).toList.map fun r => .edited r.operation.id value
  | .answer ticket r => (ListView.operations.taken? v (.answer ticket r)).toList.map .listed
  | .fetch => []

def tale (v : OperationsView) : List (Move .operations) → List Happening
  | [] => []
  | m :: ms => told v m ++ tale (ListView.operations.move v m) ms

def fetched (v : OperationsView) (r : Except ServiceError (List Operation)) : List (Move .operations) :=
  [.fetch, .answer (v.tickets.issued + 1) r]

def moves (s : OperationsView × Console σ) : Step → List (Move .operations)
  | .edit operationType value => [.touch (operationType, value)]
  | .begin => [.fetch]
  | .answer ticket r => [.answer ticket r]
  | .refresh c token => s.1.fetched (c.listOperations token s.2).1
  | .save c token operationType =>
    match (s.1.row? operationType).filter OperationRow.isDirty with
    | none => []
    | some row =>
      match c.updateOperation token operationType row.edited s.2 with
      | (.error _, _) => []
      | (.ok updated, k) =>
        s.1.fetched (c.listOperations token (k.note (.operationUpdated updated.operationType updated.executionTime))).1

/-- What the steps of a run tell, one after the other. -/
def happenings (s : OperationsView × Console σ) : List Step → List Happening
  | [] => []
  | x :: xs => tale s.1 (moves s x) ++ happenings (step s x) xs

theorem refresh_eq (v : OperationsView) (c : Client) (token : Option Token) (k : Console σ) :
    (v.refresh c token k).2.1 = ListView.operations.run v (v.fetched (c.listOperations token k).1) := by
  unfold refresh
  generalize c.listOperations token k = p
  obtain ⟨answer, k'⟩ := p
  rfl

/-- **A step is its moves**, as far as the view is concerned. -/
theorem view_step (s : OperationsView × Console σ) (x : Step) :
    (step s x).1 = ListView.operations.run s.1 (moves s x) := by
  cases x with
  | edit operationType value => rfl
  | begin => rfl
  | answer ticket r => rfl
  | refresh c token => exact refresh_eq s.1 c token s.2
  | save c token operationType =>
    rw [step, moves, save]
    cases (s.1.row? operationType).filter OperationRow.isDirty with
    | none => rfl
    | some row =>
      dsimp only
      generalize c.updateOperation token operationType row.edited s.2 = p
      obtain ⟨r, k⟩ := p
      cases r with
      | error e => rfl
      | ok updated => exact refresh_eq s.1 c token _

/-! ## Where costs come from -/

/-- Each row shows the cost that was fetched with it, or one that was set in a row of its operation. -/
def Sourced (v : OperationsView) (log : List Happening) : Prop :=
  ∀ r ∈ v.rows, r.edited = r.operation.executionTime ∨ .edited r.operation.id r.edited ∈ log

theorem Sourced.more {v : OperationsView} {log : List Happening} (h : Sourced v log) (more : List Happening) :
    Sourced v (log ++ more) := by
  intro r hr
  rcases h r hr with he | he
  · exact .inl he
  · exact .inr (List.mem_append_left _ he)

theorem mem_editRows {operationType : String} {value : Nat} {x : OperationRow} : ∀ {rows : List OperationRow},
    x ∈ editRows operationType value rows →
      x ∈ rows ∨ ∃ r, rows.find? (hasType operationType) = some r ∧ x = { r with edited := value }
  | r :: rs, h => by
    unfold editRows at h
    by_cases hr : hasType operationType r = true
    · rw [if_pos hr] at h
      rcases List.mem_cons.1 h with rfl | h
      · exact .inr ⟨r, List.find?_cons_of_pos hr, rfl⟩
      · exact .inl (List.mem_cons_of_mem r h)
    · rw [if_neg hr] at h
      rcases List.mem_cons.1 h with rfl | h
      · exact .inl List.mem_cons_self
      · rcases mem_editRows h with h | ⟨q, hq, hx⟩
        · exact .inl (List.mem_cons_of_mem r h)
        · exact .inr ⟨q, by rw [List.find?_cons_of_neg hr]; exact hq, hx⟩

theorem exists_of_pendingEdit? {rows : List OperationRow} {id : Identifier} {value : Nat}
    (h : pendingEdit? rows id = some value) :
    ∃ r ∈ rows, r.isDirty = true ∧ r.operation.id = id ∧ r.edited = value := by
  obtain ⟨r, hr, hv⟩ := Option.map_eq_some_iff.1 h
  have hp := List.find?_some hr
  rw [Bool.and_eq_true] at hp
  exact ⟨r, List.mem_reverse.1 (List.mem_of_find?_eq_some hr), hp.1, eq_of_beq hp.2, hv⟩

theorem rows_of_taken?_some {v : OperationsView} {m : Move .operations} {l : List Operation}
    (h : ListView.operations.taken? v m = some l) :
    (ListView.operations.move v m).rows = l.map (carryOver v.rows) := by
  cases m with
  | fetch => cases h
  | touch x => cases h
  | answer ticket r =>
    obtain ⟨rfl, hr⟩ := taken?_answer_eq_some .operations v h
    by_cases ht : ticket = v.tickets.issued
    · simp only [move, ListView.applyRefresh, applyRefresh, Tickets.accept, Tickets.isLatest, ht, beq_self_eq_true,
        if_true]
    · rw [(applyRefresh_stale .operations v ht l).1] at hr
      cases hr

theorem rows_of_taken?_none {v : OperationsView} {ticket : Nat} {r : Except ServiceError (List Operation)}
    (h : ListView.operations.taken? v (.answer ticket r) = none) :
    (ListView.operations.move v (.answer ticket r)).rows = v.rows := by
  cases r with
  | error e => rfl
  | ok l =>
    by_cases ht : ticket = v.tickets.issued
    · have hr := (applyRefresh_latest .operations v ht l).1
      simp only [taken?] at h
      rw [hr] at h
      cases h
    · rw [show ListView.operations.move v (.answer ticket (.ok l)) = _ from (applyRefresh_stale .operations v ht l).2]
      rfl

theorem Sourced.move {v : OperationsView} {log : List Happening} (h : Sourced v log) (m : Move .operations) :
    Sourced (ListView.operations.move v m) (log ++ told v m) := by
  cases m with
  | fetch => exact h.more _
  | touch x =>
    obtain ⟨operationType, value⟩ := x
    intro r hr
    rcases mem_editRows hr with hr | ⟨q, hq, rfl⟩
    · exact h.more _ r hr
    · refine .inr (List.mem_append_right _ ?_)
      rw [told, row?, hq]
      exact List.mem_singleton_self _
  | answer ticket answer =>
    cases hk : ListView.operations.taken? v (.answer ticket answer) with
    | none =>
      intro r hr
      rw [rows_of_taken?_none hk] at hr
      exact h.more _ r hr
    | some l =>
      intro r hr
      rw [rows_of_taken?_some hk] at hr
      obtain ⟨o, -, rfl⟩ := List.mem_map.1 hr
      unfold carryOver
      cases hp : pendingEdit? v.rows o.id with
      | none => exact .inl rfl
      | some value =>
        obtain ⟨q, hq, hd, hid, hv⟩ := exists_of_pendingEdit? hp
        rcases h q hq with he | he
        · unfold OperationRow.isDirty at hd
          rw [he, bne_self_eq_false] at hd
          cases hd
        · rw [hid, hv] at he
          exact .inr (List.mem_append_left _ he)

theorem Sourced.run (ms : List (Move .operations)) : ∀ {v : OperationsView} {log : List Happening}, Sourced v log →
    Sourced (ListView.operations.run v ms) (log ++ tale v ms) := by
  induction ms with
  | nil => intro v log h; exact h.more _
  | cons m ms ih =>
    intro v log h
    rw [tale, ← List.append_assoc]
    exact ih (h.move m)

theorem Sourced.steps (xs : List Step) : ∀ {s : OperationsView × Console σ} {log : List Happening}, Sourced s.1 log →
    Sourced (steps s xs).1 (log ++ happenings s xs) := by
  induction xs with
  | nil => intro s log h; exact h.more _
  | cons x xs ih =>
    intro s log h
    rw [happenings, ← List.append_assoc]
    refine ih (s := step s x) ?_
    rw [view_step]
    exact h.run (moves s x)

/-! ## Edits that are kept -/

def costOf (id : Identifier) (l : List Operation) : Option Nat := (l.find? (·.id = id)).map (·.executionTime)

/-- The costs that the lists of a run report for an operation, one after the other. -/
def reported (id : Identifier) (log : List Happening) : List Nat :=
  log.filterMap fun
    | .listed l => costOf id l
    | .edited _ _ => none

/-- The row of an operation after its cost was set to `value`: it keeps that cost until a list reports the same one, and
from then on shows what is reported. -/
def Keeps (v : OperationsView) (id : Identifier) (value : Nat) (log : List Happening) : Prop :=
  ∃ r, v.rows.filter (·.operation.id = id) = [r] ∧
    if value ∈ reported id log then
      r.isDirty = false ∧ (reported id log).getLast? = some r.operation.executionTime
    else r.isDirty = true ∧ r.edited = value

theorem isDirty_eq_false_iff (r : OperationRow) : r.isDirty = false ↔ r.edited = r.operation.executionTime := by
  unfold OperationRow.isDirty
  rw [bne_eq_false_iff_eq]

theorem find?_of_filter_eq_singleton {α : Type} {p : α → Bool} {l : List α} {a : α} (h : l.filter p = [a]) :
    l.find? p = some a := by
  rw [← List.head?_filter, h]
  rfl

theorem pendingEdit?_of_filter {rows : List OperationRow} {id : Identifier} {r : OperationRow}
    (h : rows.filter (·.operation.id = id) = [r]) :
    pendingEdit? rows id = if r.isDirty then some r.edited else none := by
  have hf : rows.reverse.filter (fun x => x.isDirty && x.operation.id == id) = [r].filter OperationRow.isDirty := by
    rw [← h, List.filter_filter, List.filter_reverse]
    have hr := congrArg (List.filter OperationRow.isDirty) h
    rw [List.filter_filter] at hr
    by_cases hd : r.isDirty = true
    · rw [List.filter_cons_of_pos hd] at hr
      rw [show rows.filter (fun x => x.isDirty && x.operation.id == id) = [r] from hr]
      exact hr.symm
    · rw [List.filter_cons_of_neg hd] at hr
      rw [show rows.filter (fun x => x.isDirty && x.operation.id == id) = [] from hr]
      exact hr.symm
  unfold pendingEdit?
  rw [← List.head?_filter, hf]
  by_cases hd : r.isDirty = true
  · rw [List.filter_cons_of_pos hd, if_pos hd]
    rfl
  · rw [List.filter_cons_of_neg hd, if_neg hd]
    rfl

theorem filter_editRows {operationType : String} {value : Nat} {id : Identifier} : ∀ {rows : List OperationRow},
    (∀ q, rows.find? (hasType operationType) = some q → q.operation.id ≠ id) →
      (editRows operationType value rows).filter (·.operation.id = id) = rows.filter (·.operation.id = id)
  | [], _ => rfl
  | r :: rs, h => by
    unfold editRows
    by_cases hr : hasType operationType r = true
    · have hn := h r (List.find?_cons_of_pos hr)
      rw [if_pos hr, List.filter_cons_of_neg (by simpa using hn), List.filter_cons_of_neg (by simpa using hn)]
    · rw [List.find?_cons_of_neg hr] at h
      rw [if_neg hr, List.filter_cons, List.filter_cons, filter_editRows h]

theorem reported_append (id : Identifier) (log more : List Happening) :
    reported id (log ++ more) = reported id log ++ reported id more := List.filterMap_append

theorem Keeps.listed {v v' : OperationsView} {id : Identifier} {value : Nat} {log : List Happening}
    (h : Keeps v id value log) {l : List Operation} (hl : l.countP (·.id = id) = 1)
    (hv : v'.rows = l.map (carryOver v.rows)) : Keeps v' id value (log ++ [.listed l]) := by
  obtain ⟨r, hr, hc⟩ := h
  rw [List.countP_eq_length_filter] at hl
  obtain ⟨o, ho⟩ := List.length_eq_one_iff.1 hl
  have hid : o.id = id := by
    have hm : o ∈ l.filter (·.id = id) := by rw [ho]; exact List.mem_singleton_self o
    simpa using (List.mem_filter.1 hm).2
  have hrep : reported id (log ++ [.listed l]) = reported id log ++ [o.executionTime] := by
    rw [reported_append]
    simp only [reported, costOf, List.filterMap_cons, List.filterMap_nil, find?_of_filter_eq_singleton ho,
      Option.map_some]
  have hrow : carryOver v.rows o = ⟨o, if r.isDirty then r.edited else o.executionTime⟩ := by
    unfold carryOver
    rw [hid, pendingEdit?_of_filter hr]
    cases r.isDirty <;> rfl
  refine ⟨carryOver v.rows o, ?_, ?_⟩
  · rw [hv, List.filter_map]
    exact congrArg (List.map (carryOver v.rows)) ho
  · rw [hrep, hrow]
    have hlast : (reported id log ++ [o.executionTime]).getLast? = some o.executionTime := by
      rw [List.getLast?_append, List.getLast?_singleton]
      rfl
    by_cases hm : value ∈ reported id log
    · rw [if_pos hm] at hc
      rw [if_pos (List.mem_append_left _ hm), hc.1]
      exact ⟨(isDirty_eq_false_iff _).2 rfl, hlast⟩
    · rw [if_neg hm] at hc
      rw [hc.1, hc.2, if_pos rfl]
      by_cases ho : value = o.executionTime
      · rw [if_pos (List.mem_append_right _ (ho ▸ List.mem_singleton_self _))]
        exact ⟨(isDirty_eq_false_iff _).2 ho, hlast⟩
      · have hn : value ∉ reported id log ++ [o.executionTime] := by
          rw [List.mem_append, List.mem_singleton]
          rintro (h1 | h1)
          · exact hm h1
          · exact ho h1
        rw [if_neg hn]
        exact ⟨bne_iff_ne.2 ho, rfl⟩

/-- What a run may tell while an edit is kept: no other edit of the operation, and no list that does not hold it
once. -/
def Undisturbed (id : Identifier) (log : List Happening) : Prop :=
  (∀ x, .edited id x ∉ log) ∧ ∀ l, .listed l ∈ log → l.countP (·.id = id) = 1

theorem undisturbed_append (id : Identifier) (log more : List Happening) :
    Undisturbed id (log ++ more) ↔ Undisturbed id log ∧ Undisturbed id more := by
  constructor
  · rintro ⟨h1, h2⟩
    exact ⟨⟨fun x hx => h1 x (List.mem_append_left _ hx), fun l hl => h2 l (List.mem_append_left _ hl)⟩,
      ⟨fun x hx => h1 x (List.mem_append_right _ hx), fun l hl => h2 l (List.mem_append_right _ hl)⟩⟩
  · rintro ⟨⟨h1, h2⟩, h3, h4⟩
    refine ⟨fun x hx => ?_, fun l hl => ?_⟩
    · rcases List.mem_append.1 hx with hx | hx
      · exact h1 x hx
      · exact h3 x hx
    · rcases List.mem_append.1 hl with hl | hl
      · exact h2 l hl
      · exact h4 l hl

theorem Keeps.move {v : OperationsView} {id : Identifier} {value : Nat} {log : List Happening}
    (h : Keeps v id value log) (m : Move .operations) (hu : Undisturbed id (told v m)) :
    Keeps (ListView.operations.move v m) id value (log ++ told v m) := by
  cases m with
  | fetch =>
    rw [told, List.append_nil]
    exact h
  | touch x =>
    obtain ⟨operationType, x⟩ := x
    have hrep : reported id (told v (.touch (operationType, x))) = [] := by
      rw [told]
      cases v.row? operationType <;> rfl
    have hrows : (ListView.operations.move v (.touch (operationType, x))).rows.filter (·.operation.id = id) =
        v.rows.filter (·.operation.id = id) := by
      refine filter_editRows fun q hq hid => hu.1 x ?_
      rw [told, row?, hq, ← hid]
      exact List.mem_singleton_self _
    obtain ⟨r, hr, hc⟩ := h
    refine ⟨r, by rw [hrows, hr], ?_⟩
    rw [reported_append, hrep, List.append_nil]
    exact hc
  | answer ticket r =>
    cases hk : ListView.operations.taken? v (.answer ticket r) with
    | none =>
      rw [told, hk, Option.toList_none, List.map_nil, List.append_nil]
      unfold Keeps
      rw [rows_of_taken?_none hk]
      exact h
    | some l =>
      rw [told, hk, Option.toList_some, List.map_singleton] at hu ⊢
      exact h.listed (hu.2 l (List.mem_singleton_self _)) (rows_of_taken?_some hk)

theorem Keeps.run {id : Identifier} {value : Nat} (ms : List (Move .operations)) :
    ∀ {v : OperationsView} {log : List Happening}, Keeps v id value log → Undisturbed id (tale v ms) →
      Keeps (ListView.operations.run v ms) id value (log ++ tale v ms) := by
  induction ms with
  | nil =>
    intro v log h _
    rw [tale, List.append_nil]
    exact h
  | cons m ms ih =>
    intro v log h hu
    rw [tale, undisturbed_append] at hu
    rw [tale, ← List.append_assoc]
    exact ih (h.move m hu.1) hu.2

theorem Keeps.steps {id : Identifier} {value : Nat} (xs : List Step) :
    ∀ {s : OperationsView × Console σ} {log : List Happening}, Keeps s.1 id value log →
      Undisturbed id (happenings s xs) → Keeps (steps s xs).1 id value (log ++ happenings s xs) := by
  induction xs with
  | nil =>
    intro s log h _
    rw [happenings, List.append_nil]
    exact h
  | cons x xs ih =>
    intro s log h hu
    rw [happenings, undisturbed_append] at hu
    rw [happenings, ← List.append_assoc]
    refine ih (s := step s x) ?_ hu.2
    rw [view_step]
    exact h.run (moves s x) hu.1

theorem filter_editRows_hit {operationType : String} {value : Nat} {row : OperationRow} :
    ∀ {rows : List OperationRow}, rows.find? (hasType operationType) = some row →
      rows.filter (·.operation.id = row.operation.id) = [row] →
      (editRows operationType value rows).filter (·.operation.id = row.operation.id) =
        [{ row with edited := value }]
  | r :: rs, hf, hr => by
    unfold editRows
    by_cases ht : hasType operationType r = true
    · rw [List.find?_cons_of_pos ht] at hf
      cases hf
      rw [List.filter_cons_of_pos (by simp), List.cons.injEq] at hr
      rw [if_pos ht, List.filter_cons_of_pos (by simp), hr.2]
    · rw [List.find?_cons_of_neg ht] at hf
      rw [if_neg ht]
      by_cases hid : r.operation.id = row.operation.id
      · -- the row that is hit stands behind `r`, so the operation would have two rows
        rw [List.filter_cons_of_pos (by simpa using hid), List.cons.injEq] at hr
        have hm : row ∈ rs.filter (·.operation.id = row.operation.id) :=
          List.mem_filter.2 ⟨List.mem_of_find?_eq_some hf, by simp⟩
        rw [hr.2] at hm
        cases hm
      · rw [List.filter_cons_of_neg (by simpa using hid)] at hr ⊢
        exact filter_editRows_hit hf hr

theorem keeps_edit {v : OperationsView} {operationType : String} {value : Nat} {row : OperationRow}
    (hrow : v.row? operationType = some row) (hd : value ≠ row.operation.executionTime)
    (hone : v.rows.countP (·.operation.id = row.operation.id) = 1) :
    Keeps (v.edit operationType value).2 row.operation.id value [] := by
  rw [List.countP_eq_length_filter] at hone
  obtain ⟨q, hq⟩ := List.length_eq_one_iff.1 hone
  have hm : row ∈ v.rows.filter (·.operation.id = row.operation.id) :=
    List.mem_filter.2 ⟨List.mem_of_find?_eq_some hrow, by simp⟩
  rw [hq, List.mem_singleton] at hm
  rw [← hm] at hq
  exact ⟨{ row with edited := value }, filter_editRows_hit hrow hq, bne_iff_ne.2 hd, rfl⟩

/-! ## What a save sends -/

theorem received_refresh (v : OperationsView) (c : Client) (token : Option Token) (k : Console σ) :
    (v.refresh c token k).2.2.network.received =
      k.network.received ++ c.sent "GET" "/operations" token none k.network := by
  rw [← c.received_call "GET" "/operations" token none Client.decodeOperations k]
  unfold refresh Client.listOperations
  generalize c.call "GET" "/operations" token none Client.decodeOperations k = p
  obtain ⟨answer, k'⟩ := p
  dsimp only
  rw [Console.network_noteAll]

/-- **A save sends the cost of the first row of its type**, and after that asks for the list at most. -/
theorem received_save (v : OperationsView) (c : Client) (token : Option Token) (operationType : String)
    (k : Console σ) : ∃ rs, (v.save c token operationType k).2.2.network.received = k.network.received ++ rs ∧
      ∀ r ∈ rs, r.method = "PATCH" → ∃ row, v.row? operationType = some row ∧
        r.body = (Client.costUpdate operationType row.edited).compact := by
  cases hrow : (v.row? operationType).filter OperationRow.isDirty with
  | none =>
    refine ⟨[], ?_, fun r hr => (by cases hr)⟩
    rw [save_nothing hrow, List.append_nil]
  | some row =>
    let payload := Client.costUpdate operationType row.edited
    have hpatch : ∀ r ∈ c.sent "PATCH" "/operations" token (some payload) k.network, r.method = "PATCH" →
        ∃ row, v.row? operationType = some row ∧ r.body = (Client.costUpdate operationType row.edited).compact := by
      intro r hr _
      exact ⟨row, (Option.filter_eq_some_iff.1 hrow).1, (c.of_mem_sent _ _ _ _ hr).2.2⟩
    have hsent : (c.updateOperation token operationType row.edited k).2.network.received = _ :=
      c.received_call "PATCH" "/operations" token (some payload) (Operation.decode Json.topRoom) k
    cases hupdate : (c.updateOperation token operationType row.edited k).1 with
    | error e =>
      rw [save_of_error hrow hupdate]
      exact ⟨_, hsent, hpatch⟩
    | ok updated =>
      rw [save_of_ok hrow hupdate _ rfl, Console.network_noteFailure, received_refresh, Console.network_note, hsent,
        List.append_assoc]
      refine ⟨_, rfl, fun r hr hm => ?_⟩
      rcases List.mem_append.1 hr with hr | hr
      · exact hpatch r hr hm
      · rw [(c.of_mem_sent _ _ _ _ hr).1] at hm
        exact absurd hm (by decide)

/-- **No cost is invented and no edit is lost**, over all runs of a view.  Each row shows the cost that was fetched with
it or one that was set in a row of its operation, and a save sends the cost that the first row of its type shows.  An
edit that makes the one row of an operation dirty is kept while nobody edits that operation again and each list that is
taken over holds it once: until a list reports the cost that was set, and from then on the row is clean and follows. -/
theorem edits_kept (k : Console σ) (xs : List Step) :
    let after := steps ((new, k) : OperationsView × Console σ)
    (∀ r ∈ (after xs).1.rows, r.edited = r.operation.executionTime ∨
      .edited r.operation.id r.edited ∈ happenings (new, k) xs) ∧
    (∀ pre c token operationType post, xs = pre ++ .save c token operationType :: post →
      ∃ rs, (step (after pre) (.save c token operationType)).2.network.received =
          (after pre).2.network.received ++ rs ∧
        ∀ r ∈ rs, r.method = "PATCH" → ∃ row, (after pre).1.row? operationType = some row ∧
          r.body = (Client.costUpdate operationType row.edited).compact) ∧
    (∀ pre operationType value post row, xs = pre ++ .edit operationType value :: post →
      (after pre).1.row? operationType = some row → value ≠ row.operation.executionTime →
      (after pre).1.rows.countP (·.operation.id = row.operation.id) = 1 →
      Undisturbed row.operation.id (happenings (step (after pre) (.edit operationType value)) post) →
      Keeps (after xs).1 row.operation.id value
        (happenings (step (after pre) (.edit operationType value)) post)) := by
  intro after
  refine ⟨?_, ?_, ?_⟩
  · have h : Sourced ((new, k) : OperationsView × Console σ).1 [] := fun r hr => (by cases hr)
    exact h.steps xs
  · intro pre c token operationType post _
    exact received_save (after pre).1 c token operationType (after pre).2
  · intro pre operationType value post row hx hrow hd hone hu
    have hafter : after xs = steps (step (after pre) (.edit operationType value)) post := by
      rw [hx]
      exact List.foldl_append
    have hk : Keeps (step (after pre) (.edit operationType value)).1 row.operation.id value [] :=
      keeps_edit hrow hd hone
    rw [hafter]
    exact hk.steps post hu

/-- An edit that is kept over a list with the old cost, and given up for one with the new cost and the one after it. -/
theorem edits_kept_until_reported :
    let plus (n : Nat) : Operation := ⟨⟨"1"⟩, "+", n, none⟩
    let k : Console Unit := ⟨(), ⟨[], .refused, []⟩, []⟩
    let pre : List Step := [.begin, .answer 1 (.ok [plus 5])]
    let post : List Step := [.begin, .answer 2 (.ok [plus 5]), .begin, .answer 3 (.ok [plus 7]), .begin,
      .answer 4 (.ok [plus 8])]
    let log : List Happening := [.listed [plus 5], .listed [plus 7], .listed [plus 8]]
    (steps (new, k) pre).1.row? "+" = some ⟨plus 5, 5⟩ ∧ Undisturbed ⟨"1"⟩ log ∧
    Keeps (steps (new, k) (pre ++ .edit "+" 7 :: post)).1 ⟨"1"⟩ 7 log := by
  intro plus k pre post log
  have hu : Undisturbed ⟨"1"⟩ log := by
    refine ⟨fun x hx => ?_, fun l hl => ?_⟩
    · simp [log] at hx
    · simp only [log, List.mem_cons, Happening.listed.injEq, List.not_mem_nil, or_false] at hl
      rcases hl with rfl | rfl | rfl <;> decide
  have h := (edits_kept k (pre ++ .edit "+" 7 :: post)).2.2 pre "+" 7 post ⟨plus 5, 5⟩ rfl rfl (by decide) (by decide)
  exact ⟨rfl, hu, h hu⟩

end OperationsView
end CalcConsole
