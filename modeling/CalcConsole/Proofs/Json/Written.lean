import CalcConsole.Proofs.Json.Numbers
/-! # What is written is JSON

A number may read back as another one than it was written from, but the text is that of a number, and so the text of an
array is always that of an array with as many items (`exists_spells_prettyArray`).  With a double this hangs on its
point: one is added behind a whole number, which must not have one yet.  It has none because its shortest decimal is
whole too: on the grid of ones there is always a hit, which is the number itself. -/
namespace CalcConsole

/-! ## The shortest decimal of a whole number -/

namespace Decimal

theorem exponent_le_normalize (fuel : Nat) : ∀ d : Decimal, d.exponent ≤ (normalize fuel d).exponent := by
  induction fuel with
  | zero => exact fun d => Int.le_refl _
  | succ fuel ih =>
    intro d
    unfold normalize
    split
    · have := ih ⟨d.digits / 10, d.exponent + 1⟩
      dsimp only at this
      omega
    · exact Int.le_refl _

theorem digitCount_mono {m n : Nat} (h : m ≤ n) : digitCount m ≤ digitCount n := by
  unfold digitCount
  have hpos : 0 < (Nat.toDigits 10 n).length := List.length_pos_iff.mpr Nat.toDigits_ne_nil
  rw [Nat.length_toDigits_le_iff (by decide) hpos]
  exact Nat.lt_of_le_of_lt h ((Nat.length_toDigits_le_iff (by decide) hpos).mp (Nat.le_refl _))

theorem one_le_pointOf {num den : Nat} (h : den ≤ num) : 1 ≤ pointOf num den := by
  have hcount := digitCount_mono h
  unfold pointOf
  dsimp only
  rw [if_pos hcount]
  by_cases hsame : digitCount num = digitCount den
  · rw [hsame, Nat.sub_self, if_pos (by rw [show tenTo 0 = 1 from rfl]; omega)]
    decide
  · split <;> omega

end Decimal

namespace Binary64

variable {x : Binary64} (tie : Tie)

theorem units_pos (h : x.isZero = false) : 0 < x.units := by
  have hmantissa : x.mantissa ≠ 0 := by simpa [isZero] using h
  exact Nat.mul_pos (Nat.pos_of_ne_zero hmantissa) (twoTo_pos x.scale)

theorem gridStep_zero : gridStep 0 = (den4, 1) := by
  have hone : tenTo 0 = 1 := rfl
  show gridStep (.ofNat 0) = _
  rw [gridStep, hone, Nat.mul_one]

theorem roundsTo_middle4 (h : x.isZero = false) : x.roundsTo x.middle4 1 = true := by
  have hunits := units_pos h
  have hscale := twoTo_pos x.scale
  have hlower : x.lower4 < x.middle4 := by
    unfold lower4 middle4
    split <;> omega
  have hupper : x.middle4 < x.upper4 := by
    unfold upper4 middle4
    omega
  unfold roundsTo
  split <;> simp <;> omega

/-- **On the grid of ones** a whole number is hit. -/
theorem isSome_onGrid?_zero (h : x.isZero = false) (hwhole : x.isWhole = true) : (x.onGrid? tie 0).isSome = true := by
  have hmod : x.units % twoTo 1074 = 0 := by simpa [isWhole] using hwhole
  have hvalue : x.middle4 * 1 / den4 * den4 = x.middle4 := by
    rw [Nat.mul_one]
    refine Nat.div_mul_cancel ?_
    exact Nat.mul_dvd_mul_left 4 (Nat.dvd_of_mod_eq_zero hmod)
  have hpos : 0 < x.middle4 * 1 / den4 := by
    have hmiddle : 0 < x.middle4 := Nat.mul_pos (by decide) (units_pos h)
    rcases Nat.eq_zero_or_pos (x.middle4 * 1 / den4) with hz | hz
    · rw [hz, Nat.zero_mul] at hvalue
      omega
    · exact hz
  unfold onGrid?
  rw [gridStep_zero]
  dsimp only
  rw [hvalue, roundsTo_middle4 h, decide_eq_true hpos, Bool.true_and]
  split
  · split
    · rfl
    · split
      · rfl
      · split <;> rfl
  · rfl

/-- As long as the grid of ones is not behind it, a search has no hit on a finer grid. -/
theorem exponent_search (h : x.isZero = false) (hwhole : x.isWhole = true) (point : Int) : ∀ (fuel n : Nat) (d : Decimal),
    (n : Int) ≤ point → x.search tie point n fuel = some d → 0 ≤ d.exponent := by
  intro fuel
  induction fuel with
  | zero => exact fun n d _ hd => (by cases hd)
  | succ fuel ih =>
    intro n d hn hd
    unfold search at hd
    cases hgrid : x.onGrid? tie (point - n) with
    | some digits =>
      rw [hgrid] at hd
      cases hd
      exact Int.le_trans (Int.sub_nonneg_of_le hn) (Decimal.exponent_le_normalize 20 ⟨digits, point - n⟩)
    | none =>
      rw [hgrid] at hd
      refine ih (n + 1) d ?_ hd
      -- the grid of ones would have been hit
      have hne : (n : Int) ≠ point := by
        intro he
        rw [he, Int.sub_self] at hgrid
        have hsome := isSome_onGrid?_zero tie h hwhole
        rw [hgrid] at hsome
        cases hsome
      omega

/-- **The shortest decimal of a whole number** is a whole number. -/
theorem exponent_shortest (hwhole : x.isWhole = true) : 0 ≤ (x.shortest tie).exponent := by
  unfold shortest
  cases hzero : x.isZero with
  | true => exact Int.le_refl 0
  | false =>
    rw [if_neg (by decide)]
    have hle : den4 ≤ x.middle4 := by
      have hmod : x.units % twoTo 1074 = 0 := by simpa [isWhole] using hwhole
      have hdvd : twoTo 1074 ≤ x.units := Nat.le_of_dvd (units_pos hzero) (Nat.dvd_of_mod_eq_zero hmod)
      exact Nat.mul_le_mul_left 4 hdvd
    cases hsearch : x.search tie (Decimal.pointOf x.middle4 den4) 1 17 with
    | none => exact Int.le_refl 0
    | some d =>
      exact exponent_search tie hzero hwhole _ 17 1 d (Decimal.one_le_pointOf hle) hsearch

end Binary64

/-! ## The text of a double -/

namespace Json

open Text (natChars natChars_cases isDigit_of_mem_natChars spanDigits spanDigits_append Stops)
open Decimal (zeros signedDigits)

structure Tail (cs : List Char) : Prop where
  read : ∃ e, readExponent cs = some (e, [])
  stops : Stops cs
  unpointed : ∀ r, cs ≠ '.' :: r

theorem tail_nil : Tail [] := ⟨⟨none, rfl⟩, Text.stops_nil, fun r h => by cases h⟩

theorem tail_exponent (e : Int) : Tail ('e' :: signedDigits e) := by
  refine ⟨?_, Text.stops_cons rfl _, fun r h => by cases h⟩
  have hspan : ∀ n, spanDigits (natChars n).length (natChars n) = (natChars n, []) := by
    intro n
    have happ := spanDigits_append (fun c => isDigit_of_mem_natChars (n := n)) _ (Nat.le_refl _) Text.stops_nil
    rw [List.append_nil] at happ
    exact happ
  have hne : ∀ n, natChars n ≠ [] := fun n => Nat.toDigits_ne_nil
  rw [readExponent_mark (.inl rfl)]
  have hsign : ∃ negative n, exponentSign (signedDigits e) = (negative, natChars n) := by
    cases e with
    | ofNat k => exact ⟨false, k, rfl⟩
    | negSucc k => exact ⟨true, k + 1, rfl⟩
  obtain ⟨negative, n, hsign⟩ := hsign
  rw [hsign]
  dsimp only
  rw [hspan]
  obtain ⟨c, cs, hcs⟩ := List.exists_cons_of_ne_nil (hne n)
  rw [hcs]
  exact ⟨_, rfl⟩

variable {whole fraction tail : List Char}

theorem readUnsigned_plain (hd : ∀ c ∈ whole, c.isDigit = true) (hw : isWhole whole = true) (ht : Tail tail)
    (negative : Bool) : ∃ n, readUnsigned negative (whole ++ tail) = some (n, []) := by
  obtain ⟨e, he⟩ := ht.read
  rw [readUnsigned_eq, spanDigits_append hd _ (by simp) ht.stops, if_pos hw, afterWhole_plain _ _ ht.unpointed, he]
  exact ⟨_, rfl⟩

theorem readUnsigned_pointed (hd : ∀ c ∈ whole, c.isDigit = true) (hw : isWhole whole = true)
    (hf : ∀ c ∈ fraction, c.isDigit = true) (hne : fraction ≠ []) (ht : Tail tail) (negative : Bool) :
    ∃ n, readUnsigned negative (whole ++ '.' :: (fraction ++ tail)) = some (n, []) := by
  obtain ⟨e, he⟩ := ht.read
  have hspan := spanDigits_append hf (fraction ++ tail).length (by simp) ht.stops
  rw [readUnsigned_eq, spanDigits_append hd _ (by simp) (Text.stops_cons rfl _), if_pos hw]
  dsimp only
  rw [afterWhole_point, hspan]
  dsimp only
  rw [if_neg (by rw [List.isEmpty_iff]; exact hne), he]
  exact ⟨_, rfl⟩

theorem readNumber_signed {cs : List Char} (h : ∀ negative, ∃ n, readUnsigned negative cs = some (n, [])) (x : Binary64) :
    ∃ n, readNumber (x.signed cs) = some (n, []) := by
  unfold Binary64.signed
  cases x.negative with
  | true => exact h true
  | false =>
    obtain ⟨n, hn⟩ := h false
    refine ⟨n, ?_⟩
    rw [if_neg (by decide)]
    cases cs with
    | nil => exact hn
    | cons c t =>
      rw [readNumber_unsigned ?_, hn]
      rintro rfl
      rw [readUnsigned_eq, Text.spanDigits_stop (Text.stops_cons rfl t)] at hn
      cases hn

/-! ### Layouts -/

theorem isWhole_of_head {c : Char} (h : c ≠ '0') (cs : List Char) : isWhole (c :: cs) = true := by
  unfold isWhole
  split
  · rename_i he
    cases he
  · rename_i he
    exact absurd (List.cons.inj he).1 h
  · rfl

theorem isWhole_natChars_append (n : Nat) (h : natChars n ≠ ['0']) (cs : List Char) : isWhole (natChars n ++ cs) = true := by
  obtain hn | ⟨c, ds, hn, hc⟩ := natChars_cases n
  · exact absurd hn h
  · rw [hn]
    exact isWhole_of_head hc _

theorem isDigit_zeros {n : Nat} : ∀ c ∈ zeros n, c.isDigit = true := by
  intro c hc
  rw [List.eq_of_mem_replicate hc]
  rfl

theorem natChars_ne_zero {n : Nat} (h : n ≠ 0) : natChars n ≠ ['0'] := by
  intro hn
  have hvalue := Text.natOf_natChars n
  rw [hn] at hvalue
  exact h hvalue.symm

theorem positional_whole {d : Decimal} (h : 0 ≤ d.exponent) :
    (∀ c ∈ d.positional, c.isDigit = true) ∧ isWhole d.positional = true := by
  obtain ⟨e, he⟩ := Int.eq_ofNat_of_zero_le h
  unfold Decimal.positional
  rw [he]
  dsimp only
  by_cases hzero : d.digits = 0
  · rw [if_pos hzero]
    exact ⟨fun c hc => by rw [List.mem_singleton.mp hc]; rfl, rfl⟩
  · rw [if_neg hzero]
    refine ⟨fun c hc => ?_, isWhole_natChars_append _ (natChars_ne_zero hzero) _⟩
    rcases List.mem_append.mp hc with hc | hc
    · exact isDigit_of_mem_natChars hc
    · exact isDigit_zeros c hc

theorem positional_pointed {d : Decimal} (h : ¬ 0 ≤ d.exponent) : ∃ whole fraction,
    d.positional = whole ++ '.' :: fraction ∧ (∀ c ∈ whole, c.isDigit = true) ∧ isWhole whole = true ∧
      (∀ c ∈ fraction, c.isDigit = true) ∧ fraction ≠ [] := by
  obtain ⟨e, he⟩ := Int.eq_negSucc_of_lt_zero (Int.not_le.mp h)
  have hdigits : ∀ c ∈ natChars d.digits, c.isDigit = true := fun c => isDigit_of_mem_natChars
  have hpos : 0 < (natChars d.digits).length := List.length_pos_iff.mpr Nat.toDigits_ne_nil
  unfold Decimal.positional
  rw [he]
  show ∃ whole fraction, (if (natChars d.digits).length ≤ e + 1 then
    '0' :: '.' :: zeros (e + 1 - (natChars d.digits).length) ++ natChars d.digits
    else (natChars d.digits).take ((natChars d.digits).length - (e + 1)) ++
      '.' :: (natChars d.digits).drop ((natChars d.digits).length - (e + 1))) = _ ∧ _
  by_cases hshort : (natChars d.digits).length ≤ e + 1
  · rw [if_pos hshort]
    refine ⟨['0'], zeros (e + 1 - (natChars d.digits).length) ++ natChars d.digits, rfl, ?_, rfl, ?_, ?_⟩
    · exact fun c hc => by rw [List.mem_singleton.mp hc]; rfl
    · intro c hc
      rcases List.mem_append.mp hc with hc | hc
      · exact isDigit_zeros c hc
      · exact hdigits c hc
    · exact List.append_ne_nil_of_right_ne_nil _ Nat.toDigits_ne_nil
  · rw [if_neg hshort]
    refine ⟨_, _, rfl, fun c hc => hdigits c (List.mem_of_mem_take hc), ?_,
      fun c hc => hdigits c (List.mem_of_mem_drop hc), ?_⟩
    · obtain hn | ⟨c, ds, hn, hc⟩ := natChars_cases d.digits
      · rw [hn] at hshort
        exact absurd (Nat.le_add_left 1 e) hshort
      · rw [hn] at hshort ⊢
        obtain ⟨k, hk⟩ : ∃ k, (c :: ds).length - (e + 1) = k + 1 := ⟨(c :: ds).length - (e + 1) - 1, by omega⟩
        rw [hk, List.take_succ_cons]
        exact isWhole_of_head hc _
    · rw [Ne, List.drop_eq_nil_iff]
      omega

theorem isWhole_singleton (c : Char) : isWhole [c] = true := by
  unfold isWhole
  split
  · rename_i he
    cases he
  · rename_i he
    cases he
  · rfl

theorem readUnsigned_scientific (d : Decimal) (negative : Bool) :
    ∃ n, readUnsigned negative d.scientific = some (n, []) := by
  have hdigits : ∀ c ∈ natChars d.digits, c.isDigit = true := fun c => isDigit_of_mem_natChars
  have htail := tail_exponent d.magnitude
  obtain ⟨c, ds, hn, hc⟩ := Text.natChars_head d.digits
  have hn' : Nat.toDigits 10 d.digits = c :: ds := hn
  rw [hn] at hdigits
  unfold Decimal.scientific
  rw [hn']
  generalize 'e' :: signedDigits d.magnitude = tail at htail ⊢
  have hone : ∀ d ∈ [c], d.isDigit = true := fun d hd => by rw [List.mem_singleton.mp hd]; exact hc
  cases ds with
  | nil => exact readUnsigned_plain hone (isWhole_singleton c) htail negative
  | cons c' ds =>
    have hf : ∀ d ∈ c' :: ds, d.isDigit = true := fun d hd => hdigits d (.tail _ hd)
    exact readUnsigned_pointed hone (isWhole_singleton c) hf (List.cons_ne_nil _ _) htail negative

theorem readUnsigned_positional (x : Binary64) (tie : Tie) (negative : Bool) : ∃ n, readUnsigned negative
    (if x.isWhole then (x.shortest tie).positional ++ ['.', '0'] else (x.shortest tie).positional) = some (n, []) := by
  by_cases hexponent : 0 ≤ (x.shortest tie).exponent
  · obtain ⟨hdigits, hw⟩ := positional_whole hexponent
    split
    · have hzero : ∀ c ∈ ['0'], c.isDigit = true := List.forall_mem_singleton.mpr rfl
      exact readUnsigned_pointed hdigits hw hzero (List.cons_ne_nil _ _) tail_nil negative
    · have hread := readUnsigned_plain hdigits hw tail_nil negative
      rw [List.append_nil] at hread
      exact hread
  · rw [if_neg fun hwhole => hexponent (Binary64.exponent_shortest tie hwhole)]
    obtain ⟨whole, fraction, hpositional, hdigits, hw, hf, hne⟩ := positional_pointed hexponent
    have hread := readUnsigned_pointed hdigits hw hf hne tail_nil negative
    rw [List.append_nil] at hread
    rw [hpositional]
    exact hread

/-- **A double is written as a number.** -/
theorem spellsNumber_marked (x : Binary64) : ∃ n, SpellsNumber n x.marked := by
  suffices h : ∃ n, readNumber x.marked = some (n, []) by
    obtain ⟨n, hn⟩ := h
    exact ⟨n, spellsNumber_of_readNumber hn⟩
  unfold Binary64.marked
  dsimp only
  split
  · exact readNumber_signed (readUnsigned_positional x .even) x
  · exact readNumber_signed (readUnsigned_scientific _) x

/-! ## The text of any value -/

theorem spellsNumber_intChars (n : Int) : ∃ m, SpellsNumber m (Text.intChars n) := by
  have hnat : ∀ (k : Nat) (negative : Bool), ∃ m, readUnsigned negative (natChars k) = some (m, []) := by
    intro k negative
    have hw : isWhole (natChars k) = true := by
      by_cases hk : natChars k = ['0']
      · rw [hk]
        rfl
      · have hhead := isWhole_natChars_append k hk []
        rw [List.append_nil] at hhead
        exact hhead
    have hread := readUnsigned_plain (fun c => isDigit_of_mem_natChars (n := k)) hw tail_nil negative
    rw [List.append_nil] at hread
    exact hread
  suffices h : ∃ m, readNumber (Text.intChars n) = some (m, []) by
    obtain ⟨m, hm⟩ := h
    exact ⟨m, spellsNumber_of_readNumber hm⟩
  cases n with
  | ofNat k => exact readNumber_signed (hnat k) (Binary64.zero false)
  | negSucc k => exact readNumber_signed (hnat (k + 1)) (Binary64.zero true)

theorem spells_array {depth : Nat} {v : Json} {vs ws : List Json} (hlength : ws.length = (v :: vs).length)
    (h : SpellsItems ws (prettyItems (depth + 1) (v :: vs) ++ newLine depth)) :
    Spells (.array ws) (prettyChars depth (.array (v :: vs))) := by
  cases ws with
  | nil => cases hlength
  | cons w ws =>
    rw [Spells, prettyChars]
    · refine ⟨_, h, ?_⟩
      rw [List.append_assoc, List.cons_append, List.cons_append, List.append_assoc]
    · simp

mutual

/-- **What is stored is written as JSON**: its text spells a value, if not always the same number as the one that it is
written from. -/
theorem exists_spells_pretty : ∀ (depth : Nat) {room : Nat} (v : Json), storable room v = true →
    ∃ w, Spells w (prettyChars depth v)
  | _, _, .null, _ => ⟨.null, by rw [prettyChars, Spells]; rfl; all_goals simp⟩
  | _, _, .bool true, _ => ⟨.bool true, by rw [prettyChars, Spells]; rfl; all_goals simp⟩
  | _, _, .bool false, _ => ⟨.bool false, by rw [prettyChars, Spells]; rfl; all_goals simp⟩
  | _, _, .number (.whole n), _ => by
    obtain ⟨m, hm⟩ := spellsNumber_intChars n
    exact ⟨.number m, by rw [prettyChars, Spells]; exact hm; all_goals simp⟩
  | _, _, .number (.real x), _ => by
    obtain ⟨m, hm⟩ := spellsNumber_marked x
    exact ⟨.number m, by rw [prettyChars, Spells]; exact hm; all_goals simp⟩
  | _, _, .number .beyond, h => by
    rw [storable] at h
    cases h
  | _, _, .string (some s), _ => ⟨.string (some s), by rw [prettyChars, Spells]; rfl; all_goals simp⟩
  | _, _, .string none, h => by
    rw [storable] at h
    cases h
  | _, _, .array [], _ => ⟨.array [], by rw [prettyChars, Spells]; exact ⟨[], blanks_nil, rfl⟩⟩
  | depth, _, .array (v :: vs), h => by
    rw [storable, Bool.and_eq_true] at h
    obtain ⟨ws, hlength, hws⟩ := exists_spells_prettyItems (depth + 1) (v :: vs) (List.cons_ne_nil v vs) h.2
    exact ⟨.array ws, spells_array hlength (hws (blanks_newLine depth))⟩
  | _, _, .object [], _ => ⟨.object [], by rw [prettyChars, Spells]; exact ⟨[], blanks_nil, rfl⟩⟩
  | depth, _, .object (m :: ms), h => by
    rw [storable, Bool.and_eq_true] at h
    obtain ⟨m', ms', hms⟩ := exists_spells_prettyMembers (depth + 1) (m :: ms) (List.cons_ne_nil m ms) h.2
    refine ⟨.object (m' :: ms'), ?_⟩
    rw [Spells, prettyChars]
    · refine ⟨_, hms (blanks_newLine depth), ?_⟩
      rw [List.append_assoc, List.cons_append, List.cons_append, List.append_assoc]
    · simp
  | _, _, .broken, h => by
    rw [storable] at h
    cases h

theorem exists_spells_prettyItems : ∀ (depth : Nat) {room : Nat} (vs : List Json), vs ≠ [] →
    storableItems room vs = true → ∃ ws, ws.length = vs.length ∧
      ∀ {trail : List Char}, Blanks trail → SpellsItems ws (prettyItems depth vs ++ trail)
  | _, _, [], hne, _ => absurd rfl hne
  | depth, _, [v], _, h => by
    rw [storableItems, Bool.and_eq_true] at h
    obtain ⟨w, hw⟩ := exists_spells_pretty depth v h.1
    refine ⟨[w], rfl, fun ht => ?_⟩
    rw [SpellsItems, prettyItems]
    exact ⟨newLine depth, _, _, blanks_newLine depth, hw, ht, .inl ⟨rfl, rfl⟩⟩
  | depth, _, v :: v' :: vs, _, h => by
    rw [storableItems, Bool.and_eq_true] at h
    obtain ⟨w, hw⟩ := exists_spells_pretty depth v h.1
    obtain ⟨ws, hlength, hws⟩ := exists_spells_prettyItems depth (v' :: vs) (List.cons_ne_nil v' vs) h.2
    refine ⟨w :: ws, congrArg (· + 1) hlength, fun ht => ?_⟩
    rw [SpellsItems, prettyItems]
    · refine ⟨newLine depth, _, [], blanks_newLine depth, hw, blanks_nil, .inr ⟨_, hws ht, ?_⟩⟩
      rw [List.append_nil, List.append_assoc, List.cons_append]
    · simp

theorem exists_spells_prettyMembers : ∀ (depth : Nat) {room : Nat} (ms : List (Option String × Json)), ms ≠ [] →
    storableMembers room ms = true → ∃ m' ms',
      ∀ {trail : List Char}, Blanks trail → SpellsMembers (m' :: ms') (prettyMembers depth ms ++ trail)
  | _, _, [], hne, _ => absurd rfl hne
  | _, _, (none, _) :: _, _, h => by
    rw [storableMembers] at h
    cases h
  | depth, _, [(some k, v)], _, h => by
    rw [storableMembers, Bool.and_eq_true, Bool.and_eq_true] at h
    obtain ⟨w, hw⟩ := exists_spells_pretty depth v h.1.2
    refine ⟨(some k, w), [], fun ht => ?_⟩
    rw [SpellsMembers, prettyMembers]
    refine ⟨k, newLine depth, [], [' '], _, _, rfl, blanks_newLine depth, blanks_nil, blanks_space, hw, ht,
      .inl ⟨rfl, ?_⟩⟩
    unfold keyChars
    simp only [Option.getD_some, List.append_assoc, List.cons_append, List.nil_append, List.append_nil]
  | depth, _, (some k, v) :: m :: ms, _, h => by
    rw [storableMembers, Bool.and_eq_true, Bool.and_eq_true] at h
    obtain ⟨w, hw⟩ := exists_spells_pretty depth v h.1.2
    obtain ⟨m', ms', hms⟩ := exists_spells_prettyMembers depth (m :: ms) (List.cons_ne_nil m ms) h.2
    refine ⟨(some k, w), m' :: ms', fun ht => ?_⟩
    rw [SpellsMembers, prettyMembers]
    · refine ⟨k, newLine depth, [], [' '], _, [], rfl, blanks_newLine depth, blanks_nil, blanks_space, hw, blanks_nil,
        .inr ⟨_, hms ht, ?_⟩⟩
      unfold keyChars
      simp only [Option.getD_some, List.append_assoc, List.cons_append, List.nil_append, List.append_nil]
    · simp

end

/-- **An array is written** with one item for each of its own. -/
theorem exists_spells_prettyArray (depth : Nat) {room : Nat} {vs : List Json} (h : storableItems room vs = true) :
    ∃ ws, Spells (.array ws) (prettyChars depth (.array vs)) ∧ ws.length = vs.length := by
  cases vs with
  | nil => exact ⟨[], by rw [prettyChars, Spells]; exact ⟨[], blanks_nil, rfl⟩, rfl⟩
  | cons v vs =>
    obtain ⟨ws, hlength, hws⟩ := exists_spells_prettyItems (depth + 1) (v :: vs) (List.cons_ne_nil v vs) h
    exact ⟨ws, spells_array hlength (hws (blanks_newLine depth)), hlength⟩

theorem read_line {v : Json} {s : String} (h : Spells v s.toList) : read (s ++ "\n") = ⟨v, true⟩ := by
  have hline : (s ++ "\n").toList = s.toList ++ ['\n'] := String.toList_append
  have hends : Ends ['\n'] := ends_cons (.inl rfl) []
  have hread := readValue_of_spells v h (2 * (s ++ "\n").toList.length + 1) (by rw [hline, List.length_append]; omega)
    hends
  unfold read readChars
  rw [hline] at hread ⊢
  rw [hread]
  rfl

end Json
end CalcConsole
