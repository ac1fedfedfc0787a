import CalcConsole.Proofs.Views.ListView
/-! # Answers in any order

Any number of fetches of a list may be under way, and their answers may come late, in another order or more than once.
The list on display is nevertheless that of the last ticket that was answered in time, and every other list is counted
and dropped (`answers_in_any_order`). -/
namespace CalcConsole
namespace ListView

variable {w : ListView}

/-- **What one answer does**, by its ticket and by what it brings. -/
structure Answered (h : History w) (ticket : Nat) (r : Except ServiceError (List w.Item)) : Prop where
  /-- A list is taken over just if it comes with the ticket that was given out last. -/
  replaced_iff : (w.applyRefresh h.view ticket r).1 = .ok .replaced ↔
    (∃ l, r = .ok l) ∧ h.issued.head? = some ticket
  latest : ∀ l, r = .ok l → h.issued.head? = some ticket → w.shown (w.applyRefresh h.view ticket r).2.1 = l
  older : ∀ l, r = .ok l → h.issued.head? ≠ some ticket →
    (w.applyRefresh h.view ticket r).1 = .ok .stale ∧ (w.applyRefresh h.view ticket r).2.1 =
      w.setTickets h.view { w.tickets h.view with discarded := (w.tickets h.view).discarded + 1 }
  failed : ∀ e, r = .error e →
    (w.applyRefresh h.view ticket r).1 = .error e ∧ (w.applyRefresh h.view ticket r).2.1 = h.view

namespace History

/-- What every run keeps: the counters of the view say what the run says, and the view shows what was taken over. -/
structure Sound (h : History w) : Prop where
  latest : h.issued.head?.getD 0 = (w.tickets h.view).issued
  issued_le : ∀ t ∈ h.issued, t ≤ (w.tickets h.view).issued
  shown : w.shown h.view = (h.onDisplay.map (·.2)).getD []
  displayed_le : h.displayed ≤ (w.tickets h.view).issued
  late : (w.tickets h.view).discarded = h.late

theorem sound_start (w : ListView) (c : ClearInput) : (start w c).Sound where
  latest := by rw [start, tickets_fresh]; rfl
  issued_le _ h := by cases h
  shown := w.shown_fresh c
  displayed_le := Nat.zero_le _
  late := by rw [start, tickets_fresh]; rfl

theorem Sound.head?_eq_some_iff {h : History w} (hs : h.Sound) {ticket : Nat} (ht : ticket ∈ h.issued) :
    h.issued.head? = some ticket ↔ ticket = (w.tickets h.view).issued := by
  obtain ⟨t, ts, hts⟩ := List.exists_cons_of_ne_nil (List.ne_nil_of_mem ht)
  have hl := hs.latest
  rw [hts, List.head?_cons, Option.getD_some] at hl
  rw [hts, List.head?_cons, Option.some.injEq, hl, eq_comm]

theorem Sound.answered {h : History w} (hs : h.Sound) {ticket : Nat} (ht : ticket ∈ h.issued)
    (r : Except ServiceError (List w.Item)) : Answered h ticket r := by
  have hi := hs.head?_eq_some_iff ht
  refine ⟨by rw [w.replaced_iff, hi], ?_, ?_, ?_⟩
  · rintro l rfl hlast
    exact (w.applyRefresh_latest h.view (hi.mp hlast) l).2.1
  · rintro l rfl hlast
    exact w.applyRefresh_stale h.view (fun he => hlast (hi.mpr he)) l
  · rintro e rfl
    rw [w.applyRefresh_error]
    exact ⟨rfl, rfl⟩

/-- **One move keeps the run sound**, and never takes the display back to an older ticket. -/
theorem Sound.step {h : History w} (hs : h.Sound) (m : Move w) (hm : h.Permits m) :
    (h.step m).Sound ∧ h.displayed ≤ (h.step m).displayed := by
  cases m with
  | fetch =>
    have hb := w.beginRefresh_eq h.view
    refine ⟨⟨?_, ?_, ?_, ?_, ?_⟩, Nat.le_refl _⟩ <;>
      simp only [History.step, move, hb, tickets_setTickets, shown_setTickets]
    · rfl
    · exact List.forall_mem_cons.mpr ⟨Nat.le_refl _, fun t ht => Nat.le_succ_of_le (hs.issued_le t ht)⟩
    · exact hs.shown
    · exact Nat.le_succ_of_le hs.displayed_le
    · exact hs.late
  | touch x =>
    refine ⟨⟨?_, ?_, ?_, ?_, ?_⟩, Nat.le_refl _⟩ <;> simp only [History.step, move, tickets_touch, shown_touch]
    · exact hs.latest
    · exact hs.issued_le
    · exact hs.shown
    · exact hs.displayed_le
    · exact hs.late
  | answer ticket r =>
    cases r with
    | error e =>
      have he : h.step (.answer ticket (.error e)) = h := by
        simp only [History.step, move, applyRefresh_error]
      rw [he]
      exact ⟨hs, Nat.le_refl _⟩
    | ok l =>
      have hi := hs.head?_eq_some_iff hm
      by_cases hc : ticket = (w.tickets h.view).issued
      · obtain ⟨-, h2, h3⟩ := w.applyRefresh_latest h.view hc l
        have hst : h.step (.answer ticket (.ok l)) =
            { h with view := (w.applyRefresh h.view ticket (.ok l)).2.1, onDisplay := some (ticket, l) } := by
          simp only [History.step, move, if_pos (hi.2 hc)]
        rw [hst]
        have hd : h.displayed ≤ ticket := hc ▸ hs.displayed_le
        refine ⟨⟨?_, ?_, h2, ?_, ?_⟩, hd⟩
        · rw [h3]; exact hs.latest
        · rw [h3]; exact hs.issued_le
        · rw [h3]; exact Nat.le_of_eq hc
        · rw [h3]; exact hs.late
      · obtain ⟨-, h2⟩ := w.applyRefresh_stale h.view hc l
        have hst : h.step (.answer ticket (.ok l)) =
            { h with view := (w.applyRefresh h.view ticket (.ok l)).2.1, late := h.late + 1 } := by
          simp only [History.step, move, if_neg (fun hr => hc (hi.1 hr))]
        rw [hst, h2]
        refine ⟨⟨?_, ?_, ?_, ?_, ?_⟩, Nat.le_refl _⟩ <;> simp only [tickets_setTickets, shown_setTickets]
        · exact hs.latest
        · exact hs.issued_le
        · exact hs.shown
        · exact hs.displayed_le
        · rw [hs.late]

/-- **A fetch takes a new ticket**, beyond all that were given out. -/
theorem Sound.lt_begun {h : History w} (hs : h.Sound) : ∀ t ∈ h.issued, t < (w.beginRefresh h.view).1 := by
  intro t ht
  rw [w.beginRefresh_eq]
  exact Nat.lt_succ_of_le (hs.issued_le t ht)

theorem Sound.run (ms : List (Move w)) : ∀ {h : History w}, h.Sound → h.Proper ms →
    (h.run ms).Sound ∧ h.displayed ≤ (h.run ms).displayed := by
  induction ms with
  | nil => intro h hs _; exact ⟨hs, Nat.le_refl _⟩
  | cons m ms ih =>
    intro h hs hp
    obtain ⟨hs1, hd1⟩ := hs.step m hp.1
    obtain ⟨hs2, hd2⟩ := ih hs1 hp.2
    exact ⟨hs2, Nat.le_trans hd1 hd2⟩

end History

open History in
/-- **Answers in any order**, for each of the three views: in a run from a new view, where every answer comes with a
ticket that was given out before, each fetch takes a ticket beyond all before it, and each answer does what its ticket
says (`Answered`); the list on display is the one that was taken over last, its ticket never decreases, and the lists
that came too late are all counted. -/
theorem answers_in_any_order (w : ListView) (c : ClearInput) (moves : List (Move w))
    (hp : (start w c).Proper moves) :
    (∀ pre post, moves = pre ++ .fetch :: post →
      ∀ t ∈ ((start w c).run pre).issued, t < (w.beginRefresh ((start w c).run pre).view).1) ∧
    (∀ pre ticket r post, moves = pre ++ .answer ticket r :: post → Answered ((start w c).run pre) ticket r) ∧
    (∀ pre post, moves = pre ++ post → ((start w c).run pre).displayed ≤ ((start w c).run moves).displayed) ∧
    w.shown ((start w c).run moves).view = (((start w c).run moves).onDisplay.map (·.2)).getD [] ∧
    (w.tickets ((start w c).run moves).view).discarded = ((start w c).run moves).late := by
  have hsound : ∀ pre post, moves = pre ++ post →
      ((start w c).run pre).Sound ∧ ((start w c).run pre).Proper post := by
    intro pre post hm
    rw [hm, proper_append] at hp
    exact ⟨(Sound.run pre (sound_start w c) hp.1).1, hp.2⟩
  obtain ⟨hs, -⟩ := hsound moves [] (List.append_nil moves).symm
  refine ⟨fun pre post hm => (hsound pre _ hm).1.lt_begun, ?_, ?_, hs.shown, hs.late⟩
  · intro pre ticket r post hm
    obtain ⟨hs1, hp1⟩ := hsound pre _ hm
    exact hs1.answered hp1.1 r
  · intro pre post hm
    obtain ⟨hs1, hp1⟩ := hsound pre post hm
    have hr : (start w c).run moves = ((start w c).run pre).run post := by
      rw [hm]
      exact List.foldl_append
    rw [hr]
    exact (Sound.run post hs1 hp1).2

/-- Two fetches of the operations whose answers come the other way round, with an edit between them and the newer answer
coming once more as a failure: the older list is counted and dropped. -/
theorem answers_in_any_order_swapped :
    let plus : Operation := ⟨⟨"1"⟩, "+", 5, none⟩
    let moves : List (Move .operations) := [.fetch, .fetch, .answer 2 (.ok [plus]), .touch ("+", 7),
      .answer 1 (.ok []), .answer 2 (.error (.transport "refused"))]
    (History.start .operations .always).Proper moves ∧
    ((History.start .operations .always).run moves).view.rows.map (·.operation) = [plus] ∧
    ((History.start .operations .always).run moves).view.tickets.discarded = 1 := by
  intro plus moves
  have hp : (History.start .operations .always).Proper moves :=
    ⟨trivial, trivial, (by decide : 2 ∈ [2, 1]), trivial, (by decide : 1 ∈ [2, 1]), (by decide : 2 ∈ [2, 1]), trivial⟩
  obtain ⟨-, -, -, hshown, hlate⟩ := answers_in_any_order .operations .always moves hp
  exact ⟨hp, hshown, hlate⟩

end ListView
end CalcConsole
