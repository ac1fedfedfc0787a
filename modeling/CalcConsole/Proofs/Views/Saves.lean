import Mathlib.Data.List.Nodup
import CalcConsole.Proofs.Views.Edits
import CalcConsole.Proofs.Views.Submissions
/-! # A save from end to end

What becomes of a save is settled by its two answers.  A cost that is refused stays as it was typed, and so does every
other row.  A cost that is accepted is not settled by that: only the list that is fetched afterwards says what each
operation costs, and a row is clean just if the list agrees with it (`save_by_its_answers`). -/
namespace CalcConsole
namespace OperationsView

variable {σ : Type}

/-! ## Rows of a new list -/

/-- Rows that take the place of old ones when a list comes: one for each operation of the list, with the cost of the
dirty row for it, if there is one, or else with the cost that was fetched. -/
structure Relisted (old : List OperationRow) (l : List Operation) (rows : List OperationRow) : Prop where
  operations : rows.map (·.operation) = l
  kept : ∀ q ∈ old, q.isDirty = true → ∀ r ∈ rows, r.operation.id = q.operation.id → r.edited = q.edited
  fetched : ∀ r ∈ rows, (∀ q ∈ old, q.isDirty = true → q.operation.id ≠ r.operation.id) →
    r.edited = r.operation.executionTime

section Listed

variable {rows old : List OperationRow} {row : OperationRow}

theorem pendingEdit?_of_mem (hnodup : (rows.map (·.operation.id)).Nodup) (hrow : row ∈ rows)
    (hdirty : row.isDirty = true) : pendingEdit? rows row.operation.id = some row.edited := by
  cases hpending : pendingEdit? rows row.operation.id with
  | none =>
    have hnone := List.find?_eq_none.mp (Option.map_eq_none_iff.mp hpending) row (List.mem_reverse.mpr hrow)
    rw [hdirty, beq_self_eq_true] at hnone
    exact absurd rfl hnone
  | some value =>
    obtain ⟨r, hr, -, hid, rfl⟩ := exists_of_pendingEdit? hpending
    rw [List.inj_on_of_nodup_map hnodup hr hrow hid]

theorem pendingEdit?_of_none {id : Identifier} (h : ∀ r ∈ rows, r.isDirty = true → r.operation.id ≠ id) :
    pendingEdit? rows id = none := by
  cases hpending : pendingEdit? rows id with
  | none => rfl
  | some value =>
    obtain ⟨r, hr, hdirty, hid, -⟩ := exists_of_pendingEdit? hpending
    exact absurd hid (h r hr hdirty)

/-- **A list that is taken over** keeps every edit, where each identifier had one row. -/
theorem relisted_carryOver (hnodup : (old.map (·.operation.id)).Nodup) (l : List Operation) :
    Relisted old l (l.map (carryOver old)) := by
  refine ⟨operations_carryOver old l, fun q hq hdirty r hr hid => ?_, fun r hr hclean => ?_⟩
  · obtain ⟨o, -, rfl⟩ := List.mem_map.mp hr
    have hpending := pendingEdit?_of_mem hnodup hq hdirty
    rw [← hid] at hpending
    exact congrArg (Option.getD · o.executionTime) hpending
  · obtain ⟨o, -, rfl⟩ := List.mem_map.mp hr
    exact congrArg (Option.getD · o.executionTime) (pendingEdit?_of_none hclean)

theorem Relisted.clean_iff {l : List Operation} (h : Relisted old l rows) (hrow : row ∈ old)
    (hdirty : row.isDirty = true) {r : OperationRow} (hr : r ∈ rows) (hid : r.operation.id = row.operation.id) :
    r.isDirty = false ↔ r.operation.executionTime = row.edited := by
  rw [isDirty_eq_false_iff, h.kept row hrow hdirty r hr hid, eq_comm]

end Listed

/-! ## Saves -/

/-- Whether there is nothing to save for a type: it has no row, or its first row is clean. -/
def Settled (v : OperationsView) (operationType : String) : Prop :=
  (∀ r ∈ v.rows, r.operation.operationType ≠ operationType) ∨
    ∃ row, v.row? operationType = some row ∧ row.isDirty = false

def awaiting (v : OperationsView) : OperationsView :=
  { v with tickets := { v.tickets with issued := v.tickets.issued + 1 } }

section

variable {v : OperationsView} {c : Client} {token : Option Token} {k : Console σ} {operationType : String}

theorem row?_eq_none_iff :
    v.row? operationType = none ↔ ∀ r ∈ v.rows, r.operation.operationType ≠ operationType := by
  unfold row?
  rw [List.find?_eq_none]
  simp only [hasType, beq_iff_eq, ne_eq]

theorem settled_iff : v.Settled operationType ↔ (v.row? operationType).filter OperationRow.isDirty = none := by
  unfold Settled
  rw [← row?_eq_none_iff]
  cases v.row? operationType with
  | none => simp
  | some row => simp [Option.filter_some]

theorem save_accepted {row : OperationRow} (hrow : (v.row? operationType).filter OperationRow.isDirty = some row)
    {o : Operation} (ho : (Errand.updateOperation operationType row.edited).Earns c token k.network
      (Operation.decode Json.topRoom) o) :
    (v.save c token operationType k).1 =
      some (.success (o.operationType ++ " now takes " ++ toString o.executionTime ++ "s")) ∧
    ∃ k' : Console σ, k'.network = (Errand.updateOperation operationType row.edited).passed c token k.network ∧
      (v.save c token operationType k).2.1 = (v.refresh c token k').2.1 ∧
      (v.save c token operationType k).2.2.network = Errand.listOperations.passed c token k'.network := by
  have hcall : (c.updateOperation token operationType row.edited k).1 = .ok o :=
    (Errand.fst_call_eq_ok_iff (.updateOperation operationType row.edited) c token k).mpr ho
  rw [save_of_ok hrow hcall _ rfl]
  refine ⟨rfl, (c.updateOperation token operationType row.edited k).2.note
    (.operationUpdated o.operationType o.executionTime),
    Errand.network_call (.updateOperation operationType row.edited) c token k, rfl, ?_⟩
  rw [Console.network_noteFailure]
  exact ListView.operations.network_refresh _ c token _

theorem save_ne_none {row : OperationRow} (hrow : (v.row? operationType).filter OperationRow.isDirty = some row) :
    (v.save c token operationType k).1 ≠ none := by
  cases hcall : (c.updateOperation token operationType row.edited k).1 with
  | error f =>
    rw [save_of_error hrow hcall]
    exact Option.some_ne_none _
  | ok o =>
    rw [save_of_ok hrow hcall _ rfl]
    exact Option.some_ne_none _

end

variable (v : OperationsView) (c : Client) (token : Option Token) (operationType : String) (k : Console σ)

/-- **A save and its answers.**  Nothing happens just if there is nothing to save.  Otherwise the cost of the first row of
the type is sent once.  Where it is not accepted, the user is told why, no more is sent, and the view stays as it was.
Where it is accepted, the user is told so, whatever comes next: one fetch, and without a list all rows stay.  With one,
and one row for each identifier before it, every dirty row that is listed again keeps its cost, the saved one too; so
that one is clean just if the list reports the cost that was saved. -/
theorem save_by_its_answers :
    ((v.save c token operationType k).1 = none ↔ v.Settled operationType) ∧
    (v.Settled operationType → v.save c token operationType k = (none, v, k)) ∧
    (¬ v.Settled operationType → ∃ row, v.row? operationType = some row ∧
      ∀ patch, patch = Errand.updateOperation operationType row.edited →
      (patch.request c token).method = "PATCH" ∧
      (row.edited < unsignedBound → Json.read (patch.request c token).body =
        ⟨.struct [("operation_type", .text operationType), ("execution_time", .nat row.edited)], true⟩) ∧
      ((∀ o, ¬ patch.Earns c token k.network (Operation.decode Json.topRoom) o) →
        ∃ f, (c.updateOperation token operationType row.edited k).1 = .error f ∧
          (v.save c token operationType k).1 = some (.failure f.message) ∧
          (v.save c token operationType k).2.1 = v ∧
          c.Sent token k.network [patch] (v.save c token operationType k).2.2.network) ∧
      ∀ o, patch.Earns c token k.network (Operation.decode Json.topRoom) o →
        (v.save c token operationType k).1 =
          some (.success (o.operationType ++ " now takes " ++ toString o.executionTime ++ "s")) ∧
        c.Sent token k.network [patch, .listOperations] (v.save c token operationType k).2.2.network ∧
        ((∀ l, ¬ Errand.listOperations.Earns c token (patch.passed c token k.network) Client.decodeOperations l) →
          (v.save c token operationType k).2.1 = v.awaiting) ∧
        ∀ l, Errand.listOperations.Earns c token (patch.passed c token k.network) Client.decodeOperations l →
          (v.rows.map (·.operation.id)).Nodup →
            Relisted v.rows l (v.save c token operationType k).2.1.rows ∧
            ∀ r ∈ (v.save c token operationType k).2.1.rows, r.operation.id = row.operation.id →
              (r.isDirty = false ↔ r.operation.executionTime = row.edited)) := by
  have hidle : v.Settled operationType → v.save c token operationType k = (none, v, k) :=
    fun h => save_nothing (settled_iff.mp h)
  refine ⟨⟨fun hnone => ?_, fun h => congrArg Prod.fst (hidle h)⟩, hidle, fun h => ?_⟩
  · by_contra h
    obtain ⟨row, hrow⟩ := Option.ne_none_iff_exists'.mp (mt settled_iff.mpr h)
    exact save_ne_none hrow hnone
  obtain ⟨row, hrow⟩ := Option.ne_none_iff_exists'.mp (mt settled_iff.mpr h)
  obtain ⟨hfirst, hdirty⟩ := Option.filter_eq_some_iff.mp hrow
  have hmem : row ∈ v.rows := List.mem_of_find?_eq_some hfirst
  refine ⟨row, hfirst, fun patch hpatch => ?_⟩
  subst hpatch
  refine ⟨rfl, fun hcost => Json.read_compact ⟨rfl, rfl, rfl, Json.legible_nat hcost, trivial⟩, fun hnothing => ?_,
    fun o ho => ?_⟩
  · obtain ⟨f, hf⟩ := Errand.fst_call_of_nothing (.updateOperation operationType row.edited) c token k hnothing
    rw [save_of_error hrow hf]
    exact ⟨f, hf, rfl, rfl, .of_each (Errand.network_call (.updateOperation operationType row.edited) c token k)⟩
  · obtain ⟨hnotice, k', hk', hview, hnetwork⟩ := save_accepted hrow ho
    refine ⟨hnotice, .of_each (by rw [hnetwork, hk']; rfl), fun hnothing => ?_, fun l hl hnodup => ?_⟩
    · rw [← hk'] at hnothing
      obtain ⟨f, hf⟩ := Errand.fst_call_of_nothing .listOperations c token k' hnothing
      rw [hview]
      exact (ListView.operations.refresh_of_error v c token k' hf).2
    · rw [← hk'] at hl
      have hrows := refresh_of_ok (v := v) ((Errand.fst_call_eq_ok_iff .listOperations c token k').mpr hl)
      have hlisted : Relisted v.rows l (v.save c token operationType k).2.1.rows := by
        rw [hview, hrows]
        exact relisted_carryOver hnodup l
      exact ⟨hlisted, fun r hr hid => hlisted.clean_iff hmem hdirty hr hid⟩

/-! ### A cost that is accepted and not listed -/

open Entity (addition)
open ListView (watcher)

/-- One operation, with a cost of seven that is not saved. -/
def pending : OperationsView := ⟨[⟨addition, 7⟩], .fresh⟩

def answering (updated listed : String) : Console Unit :=
  ⟨(), ⟨[.answered ⟨200, "OK", updated.toUTF8⟩, .answered ⟨200, "OK", listed.toUTF8⟩], .refused, []⟩, []⟩

def patchOfPending : Errand := .updateOperation "+" 7

section

variable {updated listed : String} {o : Operation} {l : List Operation}

theorem earns_updated (h : Json.ofText (Operation.decode Json.topRoom) updated = .ok o) :
    patchOfPending.Earns watcher none (answering updated listed).network (Operation.decode Json.topRoom) o :=
  ⟨⟨200, "OK", updated.toUTF8⟩, rfl, (by decide : 200 < 400), (Client.readSuccess_toUTF8 _ updated).trans h⟩

theorem earns_listed (h : Json.ofText Client.decodeOperations listed = .ok l) :
    Errand.listOperations.Earns watcher none (patchOfPending.passed watcher none (answering updated listed).network)
      Client.decodeOperations l :=
  ⟨⟨200, "OK", listed.toUTF8⟩, rfl, (by decide : 200 < 400), (Client.readSuccess_toUTF8 _ listed).trans h⟩

end

theorem save_by_its_answers_still_dirty :
    let k := answering addition.json.compact (Json.array [addition.json]).compact
    ¬ pending.Settled "+" ∧ (pending.rows.map (·.operation.id)).Nodup ∧
      patchOfPending.Earns watcher none k.network (Operation.decode Json.topRoom) addition ∧
      (pending.save watcher none "+" k).1 = some (.success "+ now takes 5s") ∧
      ∀ r ∈ (pending.save watcher none "+" k).2.1.rows, r.operation = addition → r.isDirty = true := by
  intro k
  have hunsettled : ¬ pending.Settled "+" := by
    rw [settled_iff]
    decide
  have hnodup : (pending.rows.map (·.operation.id)).Nodup := by decide
  have hcost : addition.executionTime < twoTo 64 := by decide
  have hlegible : addition.json.Legible := Operation.legible_json hcost
  have hupdated : Json.ofText (Operation.decode Json.topRoom) addition.json.compact = .ok addition :=
    Json.ofText_of_read (Json.read_compact hlegible) (Operation.decode_json hcost _)
  have hlisted : Json.ofText Client.decodeOperations (Json.array [addition.json]).compact = .ok [addition] := by
    refine Json.ofText_of_read (Json.read_compact ⟨hlegible, trivial⟩) (Json.decodeItems_eq_ok_iff.mpr ?_)
    exact .cons (Operation.decode_json hcost _) .nil
  obtain ⟨row, hrow, hpatch⟩ := (save_by_its_answers pending watcher none "+" k).2.2 hunsettled
  cases hrow
  obtain ⟨-, -, -, haccepted⟩ := hpatch patchOfPending rfl
  obtain ⟨hnotice, -, -, hlist⟩ := haccepted addition (earns_updated hupdated)
  obtain ⟨-, hclean⟩ := hlist [addition] (earns_listed hlisted) hnodup
  refine ⟨hunsettled, hnodup, earns_updated hupdated, hnotice, fun r hr ho => ?_⟩
  -- the list reports five, and seven was saved
  have hiff := hclean r hr (by rw [ho])
  rw [ho] at hiff
  rw [← Bool.not_eq_false]
  exact mt hiff.mp (by decide)

end OperationsView
end CalcConsole
