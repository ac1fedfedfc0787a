import CalcConsole.Proofs.Views.ListView
/-! # Agents that come back

A terminated agent stays terminated, and the view counts the reports that say otherwise.  The count is a property of the
log alone, which is what all lists that were taken over hold one after the other (`violations_eq_resurrections`). -/
namespace CalcConsole
namespace AgentsView

/-- Whether the report at a place of a log shows an agent alive that an earlier report shows terminated. -/
def resurrects (log : List Agent) (i : Nat) : Bool :=
  match log[i]? with
  | some a => a.status ≠ .terminated && (log.take i).any fun b => b.status = .terminated && b.id = a.id
  | none => false

/-- The number of such places. -/
def resurrections (log : List Agent) : Nat := (List.range log.length).countP (resurrects log)

/-- Whether `seen` holds just the agents that a log shows terminated. -/
def Remembers (seen : List Identifier) (log : List Agent) : Prop :=
  ∀ id, id ∈ seen ↔ ∃ b ∈ log, b.status = .terminated ∧ b.id = id

theorem remembers_terminated {seen : List Identifier} {log : List Agent} (h : Remembers seen log) {a : Agent}
    (ha : a.status = .terminated) : Remembers (a.id :: seen) (log ++ [a]) := by
  intro id
  rw [List.mem_cons, h id]
  constructor
  · rintro (rfl | ⟨b, hb, hb2⟩)
    · exact ⟨a, List.mem_append_right _ List.mem_cons_self, ha, rfl⟩
    · exact ⟨b, List.mem_append_left _ hb, hb2⟩
  · rintro ⟨b, hb, hb2⟩
    rcases List.mem_append.1 hb with hb | hb
    · exact .inr ⟨b, hb, hb2⟩
    · rw [List.mem_singleton] at hb
      subst hb
      exact .inl hb2.2.symm

theorem remembers_alive {seen : List Identifier} {log : List Agent} (h : Remembers seen log) {a : Agent}
    (ha : a.status ≠ .terminated) : Remembers seen (log ++ [a]) := by
  intro id
  rw [h id]
  constructor
  · rintro ⟨b, hb, hb2⟩
    exact ⟨b, List.mem_append_left _ hb, hb2⟩
  · rintro ⟨b, hb, hb2⟩
    rcases List.mem_append.1 hb with hb | hb
    · exact ⟨b, hb, hb2⟩
    · rw [List.mem_singleton] at hb
      subst hb
      exact absurd hb2.1 ha

theorem resurrects_append_left {log : List Agent} {i : Nat} (hi : i < log.length) (more : List Agent) :
    resurrects (log ++ more) i = resurrects log i := by
  unfold resurrects
  rw [List.getElem?_append_left hi, List.take_append_of_le_length (Nat.le_of_lt hi)]

/-- **One more report counts once**, if it shows an agent alive that is remembered as terminated. -/
theorem resurrections_append_singleton {seen : List Identifier} {log : List Agent} (h : Remembers seen log)
    (a : Agent) : resurrections (log ++ [a]) =
      resurrections log + if a.status ≠ .terminated ∧ a.id ∈ seen then 1 else 0 := by
  have hlast : resurrects (log ++ [a]) log.length = true ↔ a.status ≠ .terminated ∧ a.id ∈ seen := by
    unfold resurrects
    rw [List.getElem?_concat_length, List.take_left, h a.id]
    simp
  unfold resurrections
  rw [List.length_append, List.length_singleton, List.range_succ, List.countP_append, List.countP_singleton]
  congr 1
  · exact List.countP_congr fun i hi => by rw [resurrects_append_left (List.mem_range.1 hi) [a]]
  · by_cases hc : a.status ≠ .terminated ∧ a.id ∈ seen
    · rw [if_pos hc, if_pos (hlast.2 hc)]
    · rw [if_neg hc, if_neg (fun hr => hc (hlast.1 hr))]

/-- **A walk counts the new places**, and remembers what the longer log shows. -/
theorem inspect_append : ∀ (as log : List Agent) (seen : List Identifier), Remembers seen log →
    Remembers (inspect seen as).1 (log ++ as) ∧
      resurrections (log ++ as) = resurrections log + (inspect seen as).2.length
  | [], log, seen, h => by
    rw [List.append_nil]
    exact ⟨h, rfl⟩
  | a :: as, log, seen, h => by
    rw [show log ++ a :: as = (log ++ [a]) ++ as by rw [List.append_assoc]; rfl]
    have hone := resurrections_append_singleton h a
    unfold inspect
    by_cases ha : a.status = .terminated
    · obtain ⟨h1, h2⟩ := inspect_append as (log ++ [a]) (a.id :: seen) (remembers_terminated h ha)
      rw [if_pos ha]
      rw [if_neg (fun hc => hc.1 ha)] at hone
      exact ⟨h1, by rw [h2, hone, Nat.add_zero]⟩
    · obtain ⟨h1, h2⟩ := inspect_append as (log ++ [a]) seen (remembers_alive h ha)
      rw [if_neg ha]
      refine ⟨h1, ?_⟩
      rw [h2, hone]
      by_cases hm : a.id ∈ seen
      · have hc : seen.contains a.id = true := List.contains_iff_mem.2 hm
        simp only [hc, if_true, if_pos (And.intro ha hm), List.length_cons]
        omega
      · have hc : ¬ seen.contains a.id = true := fun hc => hm (List.contains_iff_mem.1 hc)
        simp only [if_neg hc, if_neg (fun hx : a.status ≠ .terminated ∧ a.id ∈ seen => hm hx.2), Nat.add_zero]

theorem resurrections_le_append (log more : List Agent) : resurrections log ≤ resurrections (log ++ more) := by
  unfold resurrections
  rw [List.length_append, List.range_add, List.countP_append]
  refine Nat.le_trans (Nat.le_of_eq ?_) (Nat.le_add_right _ _)
  exact List.countP_congr fun i hi => by rw [resurrects_append_left (List.mem_range.1 hi) more]

/-- **No place counts** just if no report of an agent as alive stands behind one of it as terminated. -/
theorem resurrections_eq_zero_iff (log : List Agent) : resurrections log = 0 ↔
    ∀ (i j : Nat) (a b : Agent), i < j → log[i]? = some a → log[j]? = some b → a.id = b.id →
      a.status = .terminated → b.status = .terminated := by
  unfold resurrections
  rw [List.countP_eq_zero]
  constructor
  · intro h i j a b hij ha hb hid hs
    have hj : j < log.length := (List.getElem?_eq_some_iff.1 hb).1
    refine Classical.byContradiction fun hn => h j (List.mem_range.2 hj) ?_
    have hmem : a ∈ log.take j := List.mem_of_getElem? (by rw [List.getElem?_take_of_lt hij]; exact ha)
    unfold resurrects
    rw [hb]
    simp only [hn, ne_eq, not_false_eq_true, decide_true, Bool.true_and, List.any_eq_true]
    exact ⟨a, hmem, by simp [hs, hid]⟩
  · intro h j hj hr
    unfold resurrects at hr
    split at hr
    · rename_i b hb
      simp only [Bool.and_eq_true, decide_eq_true_eq, List.any_eq_true] at hr
      obtain ⟨hn, a, ha, hs, hid⟩ := hr
      obtain ⟨i, hi, hai⟩ := List.mem_take_iff_getElem.1 ha
      have hget : log[i]? = some a := List.getElem?_eq_some_iff.2 ⟨by omega, hai⟩
      exact hn (h i j a b (Nat.lt_of_lt_of_le hi (Nat.min_le_left _ _)) hget hb hid hs)
    · cases hr

/-! ## Runs -/

open ListView

/-- What every run keeps, with all lists that it has taken over. -/
structure Watches (v : AgentsView) (lists : List (List Agent)) : Prop where
  terminated : Remembers v.terminated lists.flatten
  violations : v.violations = resurrections lists.flatten
  agents : v.agents = lists.getLast?.getD []

theorem watches_new : Watches new [] where
  terminated := fun id => ⟨fun h => (by cases h), fun ⟨_, h, _⟩ => (by cases h)⟩
  violations := rfl
  agents := rfl

theorem applyRefresh_of_taken?_none (v : AgentsView) (ticket : Nat) (r : Except ServiceError (List Agent))
    (h : ListView.agents.taken? v (.answer ticket r) = none) :
    ∃ tickets, (v.applyRefresh ticket r).2.1 = { v with tickets } := by
  cases r with
  | error e => exact ⟨v.tickets, rfl⟩
  | ok l =>
    by_cases ht : ticket = v.tickets.issued
    · have hr := (applyRefresh_latest .agents v ht l).1
      simp only [taken?] at h
      rw [hr] at h
      cases h
    · exact ⟨_, (applyRefresh_stale .agents v ht l).2⟩

theorem applyRefresh_of_taken?_some (v : AgentsView) (ticket : Nat) (r : Except ServiceError (List Agent))
    {l : List Agent} (h : ListView.agents.taken? v (.answer ticket r) = some l) :
    (v.applyRefresh ticket r).2.1 = ⟨l, v.tickets, (inspect v.terminated l).1,
      v.violations + (inspect v.terminated l).2.length⟩ := by
  obtain ⟨rfl, hr⟩ := taken?_answer_eq_some .agents v h
  by_cases ht : ticket = v.tickets.issued
  · simp only [applyRefresh, Tickets.accept, Tickets.isLatest, ht, beq_self_eq_true, if_true]
  · rw [(applyRefresh_stale .agents v ht l).1] at hr
    cases hr

theorem Watches.move {v : AgentsView} {lists : List (List Agent)} (h : Watches v lists) (m : Move .agents) :
    Watches (ListView.agents.move v m) (lists ++ (ListView.agents.taken? v m).toList) := by
  cases m with
  | fetch =>
    rw [show ListView.agents.taken? v .fetch = none from rfl, Option.toList_none, List.append_nil]
    exact ⟨h.terminated, h.violations, h.agents⟩
  | touch x => exact x.elim
  | answer ticket r =>
    cases hk : ListView.agents.taken? v (.answer ticket r) with
    | none =>
      obtain ⟨tickets, hv⟩ := applyRefresh_of_taken?_none v ticket r hk
      rw [Option.toList_none, List.append_nil,
        show ListView.agents.move v (.answer ticket r) = { v with tickets } from hv]
      exact ⟨h.terminated, h.violations, h.agents⟩
    | some l =>
      obtain ⟨h1, h2⟩ := inspect_append l lists.flatten v.terminated h.terminated
      rw [show ListView.agents.move v (.answer ticket r) = _ from applyRefresh_of_taken?_some v ticket r hk,
        Option.toList_some]
      refine ⟨?_, ?_, ?_⟩
      · rw [List.flatten_append, List.flatten_singleton]; exact h1
      · rw [List.flatten_append, List.flatten_singleton, h2, ← h.violations]
      · rw [List.getLast?_append, List.getLast?_singleton]; rfl

theorem Watches.run (ms : List (Move .agents)) : ∀ {v : AgentsView} {lists : List (List Agent)}, Watches v lists →
    Watches (ListView.agents.run v ms) (lists ++ ListView.agents.accepted v ms) := by
  induction ms with
  | nil =>
    intro v lists h
    rw [accepted, List.append_nil]
    exact h
  | cons m ms ih =>
    intro v lists h
    rw [accepted, ← List.append_assoc]
    exact ih (h.move m)

/-- **The count of a run is that of its log**, over any tickets and answers: the places where an agent is alive behind a
report of it as terminated, in the same list or in an earlier one.  A list is taken over just if it comes with the ticket
that was given out last.  So the count does not depend on how the log was cut into lists, never decreases, and is left
alone by answers that are not taken over; and the list on display is always the last one that was taken over. -/
theorem violations_eq_resurrections (moves : List (Move .agents)) :
    let run := ListView.agents.run new
    let log := fun ms => (ListView.agents.accepted new ms).flatten
    (∀ pre ticket r post, moves = pre ++ .answer ticket r :: post →
      (((run pre).applyRefresh ticket r).1 = .ok .replaced ↔
        (∃ l, r = .ok l) ∧ ticket = (run pre).tickets.issued)) ∧
    (run moves).violations = resurrections (log moves) ∧
    ((run moves).violations = 0 ↔ ∀ (i j : Nat) (a b : Agent), i < j → (log moves)[i]? = some a →
      (log moves)[j]? = some b → a.id = b.id → a.status = .terminated → b.status = .terminated) ∧
    (∀ others, log others = log moves → (run others).violations = (run moves).violations) ∧
    (∀ pre post, moves = pre ++ post → (run pre).violations ≤ (run moves).violations) ∧
    (∀ pre ticket r post, moves = pre ++ .answer ticket r :: post →
      ((run pre).applyRefresh ticket r).1 ≠ .ok .replaced →
      ((run pre).applyRefresh ticket r).2.1.violations = (run pre).violations) ∧
    (run moves).agents = (ListView.agents.accepted new moves).getLast?.getD [] := by
  intro run log
  have hw : ∀ ms, Watches (run ms) (ListView.agents.accepted new ms) := fun ms => watches_new.run ms
  have hv : ∀ ms, (run ms).violations = resurrections (log ms) := fun ms => (hw ms).violations
  refine ⟨fun pre ticket r _ _ => replaced_iff .agents (run pre) ticket r, hv moves, ?_, ?_, ?_, ?_, (hw moves).agents⟩
  · rw [hv moves]
    exact resurrections_eq_zero_iff (log moves)
  · intro others ho
    rw [hv others, hv moves, ho]
  · intro pre post hm
    have hl : log moves = log pre ++ (ListView.agents.accepted (run pre) post).flatten := by
      rw [hm, ← List.flatten_append]
      exact congrArg List.flatten (accepted_append .agents pre post new)
    rw [hv pre, hv moves, hl]
    exact resurrections_le_append _ _
  · intro pre ticket r post _ hr
    have hn : ListView.agents.taken? (run pre) (.answer ticket r) = none := by
      cases hk : ListView.agents.taken? (run pre) (.answer ticket r) with
      | none => rfl
      | some l => exact absurd (taken?_answer_eq_some .agents _ hk).2 hr
    obtain ⟨tickets, he⟩ := applyRefresh_of_taken?_none (run pre) ticket r hn
    rw [he]

-- an agent that is terminated in one list and runs again in the next, which is counted once
example (now : Timestamp) : (ListView.agents.run new [
    .fetch, .answer 1 (.ok [⟨⟨"a"⟩, .terminated, 2, 0, now, now⟩]),
    .fetch, .answer 2 (.ok [⟨⟨"a"⟩, .running, 2, 1, now, now⟩, ⟨⟨"b"⟩, .running, 2, 1, now, now⟩])]).violations = 1 := rfl

end AgentsView
end CalcConsole
