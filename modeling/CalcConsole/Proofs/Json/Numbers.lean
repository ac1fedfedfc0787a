import CalcConsole.Proofs.Json.Spelling
import CalcConsole.Proofs.Text.Digits
/-! # Numbers that are read back

A number is read from its own characters alone, so one that is read back as a text is read back inside of any text too.
Natural numbers of 64 bits always are. -/
namespace CalcConsole
namespace Json

open Text (Stops spanDigits spanDigits_spec spanDigits_append natChars natChars_cases isDigit_of_mem_natChars)

variable {cs r rest : List Char}

theorem Ends.stops (h : Ends rest) : Stops rest := by
  intro c hc
  rcases h c hc with hs | rfl | rfl | rfl
  · cases hd : c.isDigit with
    | false => rfl
    | true =>
      rw [(not_isSpace_of_isDigit (.inr hd)).1] at hs
      cases hs
  all_goals rfl

theorem Ends.head_ne (h : Ends rest) {d : Char} (hs : isSpace d = false) (hc : d ≠ ',') (hb : d ≠ ']') (he : d ≠ '\x7d')
    (t : List Char) : rest ≠ d :: t := by
  rintro rfl
  rcases h d rfl with hd | hd | hd | hd
  · rw [hs] at hd
    cases hd
  · exact hc hd
  · exact hb hd
  · exact he hd

theorem spanDigits_before (h : Stops rest) (cs : List Char) : spanDigits (cs ++ rest).length (cs ++ rest) =
    ((spanDigits cs.length cs).1, (spanDigits cs.length cs).2 ++ rest) := by
  obtain ⟨happ, hds, hstop⟩ := spanDigits_spec cs.length cs
  have hstop := hstop (Nat.le_refl _)
  generalize spanDigits cs.length cs = p at happ hds hstop
  obtain ⟨ds, back⟩ := p
  dsimp only at happ hds hstop
  have hback : Stops (back ++ rest) := by
    cases back with
    | nil => exact h
    | cons c cs => exact fun d hd => hstop d hd
  rw [happ, List.append_assoc]
  exact spanDigits_append hds _ (by simp) hback

theorem readExponent_of_ends (h : Ends rest) : readExponent rest = some (none, rest) := by
  unfold readExponent
  split
  · exact absurd rfl (h.head_ne (by decide) (by decide) (by decide) (by decide) _)
  · exact absurd rfl (h.head_ne (by decide) (by decide) (by decide) (by decide) _)
  · rfl

def exponentSign (cs : List Char) : Bool × List Char :=
  match cs with
  | '+' :: r => (false, r)
  | '-' :: r => (true, r)
  | r => (false, r)

theorem exponentSign_append (h : cs ≠ []) (rest : List Char) :
    exponentSign (cs ++ rest) = ((exponentSign cs).1, (exponentSign cs).2 ++ rest) := by
  obtain ⟨c, t, rfl⟩ := List.exists_cons_of_ne_nil h
  rw [List.cons_append]
  by_cases hp : c = '+'
  · rw [hp]
    rfl
  by_cases hm : c = '-'
  · rw [hm]
    rfl
  have hplain : ∀ t, exponentSign (c :: t) = (false, c :: t) := by
    intro t
    unfold exponentSign
    split
    · rename_i he
      exact absurd (List.cons.inj he).1 hp
    · rename_i he
      exact absurd (List.cons.inj he).1 hm
    · rfl
  rw [hplain, hplain]
  rfl

theorem readExponent_mark {c : Char} (h : c = 'e' ∨ c = 'E') (cs : List Char) : readExponent (c :: cs) =
    match spanDigits (exponentSign cs).2.length (exponentSign cs).2 with
    | ([], _) => none
    | (ds, rest) => some (some (if (exponentSign cs).1 then -(Text.natOf ds : Int) else Text.natOf ds), rest) := by
  rcases h with rfl | rfl <;> rfl

theorem readExponent_unmarked {c : Char} (h : ¬ (c = 'e' ∨ c = 'E')) (cs : List Char) :
    readExponent (c :: cs) = some (none, c :: cs) := by
  unfold readExponent
  split
  · rename_i he
    exact absurd (.inl (List.cons.inj he).1) h
  · rename_i he
    exact absurd (.inr (List.cons.inj he).1) h
  · rfl

theorem readExponent_append (h : Ends rest) {e : Option Int} (hr : readExponent cs = some (e, r)) :
    readExponent (cs ++ rest) = some (e, r ++ rest) := by
  cases cs with
  | nil =>
    cases hr
    exact readExponent_of_ends h
  | cons c t =>
    rw [List.cons_append]
    by_cases hmark : c = 'e' ∨ c = 'E'
    · rw [readExponent_mark hmark] at hr ⊢
      have hne : t ≠ [] := by
        rintro rfl
        cases hr
      rw [exponentSign_append hne, spanDigits_before h.stops]
      generalize exponentSign t = p at hr ⊢
      obtain ⟨negative, u⟩ := p
      dsimp only at hr ⊢
      generalize spanDigits u.length u = q at hr ⊢
      obtain ⟨_ | ⟨d, ds⟩, back⟩ := q
      · cases hr
      · cases hr
        rfl
    · rw [readExponent_unmarked hmark] at hr ⊢
      cases hr
      rfl

/-- What is read behind the digits before the point, once they are known to be no more than one after a zero. -/
def afterWhole (negative : Bool) (whole cs : List Char) : Option (Number × List Char) :=
  match cs with
  | '.' :: r => do
    let (fraction, r) := spanDigits r.length r
    if fraction.isEmpty then none
    let (exponent, r) ← readExponent r
    some (Literal.value ⟨negative, whole, fraction, true, exponent⟩, r)
  | r => do
    let (exponent, r) ← readExponent r
    some (Literal.value ⟨negative, whole, [], false, exponent⟩, r)

theorem afterWhole_point (negative : Bool) (whole cs : List Char) : afterWhole negative whole ('.' :: cs) =
    if (spanDigits cs.length cs).1.isEmpty then none
    else (readExponent (spanDigits cs.length cs).2).map fun p =>
      (Literal.value ⟨negative, whole, (spanDigits cs.length cs).1, true, p.1⟩, p.2) := by
  have hread : afterWhole negative whole ('.' :: cs) = (do
      let (fraction, r) := spanDigits cs.length cs
      if fraction.isEmpty then none
      let (exponent, r) ← readExponent r
      some (Literal.value ⟨negative, whole, fraction, true, exponent⟩, r)) := rfl
  rw [hread]
  generalize spanDigits cs.length cs = q
  obtain ⟨fraction, back⟩ := q
  cases fraction with
  | nil => rfl
  | cons d ds =>
    dsimp only [List.isEmpty_cons]
    cases readExponent back <;> rfl

theorem afterWhole_plain (negative : Bool) (whole : List Char) (h : ∀ u, cs ≠ '.' :: u) :
    afterWhole negative whole cs =
      (readExponent cs).map fun p => (Literal.value ⟨negative, whole, [], false, p.1⟩, p.2) := by
  unfold afterWhole
  split
  · exact absurd rfl (h _)
  · cases readExponent cs <;> rfl

theorem afterWhole_append (h : Ends rest) {negative : Bool} {whole : List Char} {n : Number}
    (hr : afterWhole negative whole cs = some (n, r)) :
    afterWhole negative whole (cs ++ rest) = some (n, r ++ rest) := by
  cases cs with
  | nil =>
    have hpoint : ∀ u, rest ≠ '.' :: u := h.head_ne (by decide) (by decide) (by decide) (by decide)
    cases hr
    rw [List.nil_append, afterWhole_plain negative whole hpoint, readExponent_of_ends h]
    rfl
  | cons c t =>
    rw [List.cons_append]
    by_cases hpoint : c = '.'
    · subst hpoint
      rw [afterWhole_point] at hr ⊢
      rw [spanDigits_before h.stops]
      dsimp only
      obtain ⟨hempty, hr⟩ := Option.ite_none_left_eq_some.mp hr
      obtain ⟨⟨e, back⟩, he, hn⟩ := Option.map_eq_some_iff.mp hr
      cases hn
      rw [if_neg hempty, readExponent_append h he]
      rfl
    · have hne : ∀ t u, c :: t ≠ '.' :: u := fun t u he => hpoint (List.cons.inj he).1
      rw [afterWhole_plain negative whole (hne _)] at hr ⊢
      obtain ⟨⟨e, back⟩, he, hn⟩ := Option.map_eq_some_iff.mp hr
      cases hn
      rw [← List.cons_append, readExponent_append h he]
      rfl

/-- Whether digits may stand before the point: one or more, and no zero before another. -/
def isWhole (ds : List Char) : Bool :=
  match ds with
  | [] => false
  | '0' :: _ :: _ => false
  | _ => true

theorem readUnsigned_eq (negative : Bool) (cs : List Char) : readUnsigned negative cs =
    if isWhole (spanDigits cs.length cs).1 then
      afterWhole negative (spanDigits cs.length cs).1 (spanDigits cs.length cs).2
    else none := by
  unfold readUnsigned
  generalize spanDigits cs.length cs = p
  obtain ⟨whole, back⟩ := p
  dsimp only
  split
  · rfl
  · rfl
  · rename_i hnil hzero
    have hwhole : isWhole whole = true := by
      unfold isWhole
      split
      · exact (hnil rfl).elim
      · exact (hzero _ _ rfl).elim
      · rfl
    rw [if_pos hwhole]
    rfl

theorem readUnsigned_append (h : Ends rest) {negative : Bool} {n : Number}
    (hr : readUnsigned negative cs = some (n, r)) : readUnsigned negative (cs ++ rest) = some (n, r ++ rest) := by
  rw [readUnsigned_eq] at hr ⊢
  rw [spanDigits_before h.stops]
  obtain ⟨hwhole, hr⟩ := Option.ite_none_right_eq_some.mp hr
  rw [if_pos hwhole]
  exact afterWhole_append h hr

theorem readNumber_unsigned {c : Char} (h : c ≠ '-') (cs : List Char) :
    readNumber (c :: cs) = readUnsigned false (c :: cs) := by
  unfold readNumber
  split
  · rename_i he
    exact absurd (List.cons.inj he).1 h
  · rfl

/-- **A number is read** from its own characters alone. -/
theorem readNumber_append (h : Ends rest) {n : Number} (hr : readNumber cs = some (n, r)) :
    readNumber (cs ++ rest) = some (n, r ++ rest) := by
  cases cs with
  | nil => cases hr
  | cons c t =>
    rw [List.cons_append]
    by_cases hminus : c = '-'
    · subst hminus
      exact readUnsigned_append h hr
    · rw [readNumber_unsigned hminus] at hr ⊢
      exact readUnsigned_append h hr

/-! ## Numbers as texts -/

theorem head_of_readNumber {n : Number} (h : readNumber cs = some (n, r)) :
    ∃ c t, cs = c :: t ∧ (c = '-' ∨ c.isDigit = true) := by
  cases cs with
  | nil => cases h
  | cons c t =>
    refine ⟨c, t, rfl, ?_⟩
    by_cases hminus : c = '-'
    · exact .inl hminus
    · right
      rw [readNumber_unsigned hminus, readUnsigned_eq] at h
      obtain ⟨hwhole, -⟩ := Option.ite_none_right_eq_some.mp h
      cases hc : c.isDigit with
      | true => rfl
      | false =>
        rw [Text.spanDigits_stop (Text.stops_cons hc t)] at hwhole
        cases hwhole

/-- **What is read back as a text** is a spelling of the number. -/
theorem spellsNumber_of_readNumber {n : Number} (h : readNumber cs = some (n, [])) : SpellsNumber n cs :=
  ⟨head_of_readNumber h, fun _ hr => readNumber_append hr h⟩

/-- **A natural number of 64 bits** reads back from its digits. -/
theorem readNumber_natChars {n : Nat} (h : n < unsignedBound) : readNumber (natChars n) = some (.whole n, []) := by
  have hdigits : ∀ c ∈ natChars n, c.isDigit = true := fun _ hc => isDigit_of_mem_natChars hc
  have hspan := spanDigits_append hdigits (natChars n).length (Nat.le_refl _) Text.stops_nil
  rw [List.append_nil] at hspan
  have hwhole : isWhole (natChars n) = true := by
    rcases natChars_cases n with hn | ⟨d, ds, hn, hd⟩
    · rw [hn]
      rfl
    · rw [hn]
      unfold isWhole
      split
      · rename_i he
        cases he
      · rename_i he
        exact absurd (List.cons.inj he).1 hd
      · rfl
  have hvalue : Literal.value ⟨false, natChars n, [], false, none⟩ = .whole n := by
    unfold Literal.value
    dsimp only
    rw [Text.natOf_natChars, if_pos (by simp [h])]
    rfl
  have hread : readNumber (natChars n) = readUnsigned false (natChars n) := by
    obtain ⟨d, ds, hn, hd⟩ := Text.natChars_head n
    rw [hn, readNumber_unsigned (Text.ne_of_isDigit hd rfl)]
  rw [hread, readUnsigned_eq, hspan, if_pos hwhole, afterWhole_plain _ _ (fun _ he => (by cases he))]
  exact congrArg (fun m => some (m, [])) hvalue

end Json
end CalcConsole
