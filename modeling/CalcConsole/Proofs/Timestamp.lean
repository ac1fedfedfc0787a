import CalcConsole.Proofs.Text.Digits
import CalcConsole.Timestamp
/-! # Time stamps read back

Every instant is read back from the form that it is written in, whatever its year and its fraction are. -/
namespace CalcConsole
namespace Timestamp

open Text (padZeros trimStart isBlank Stops spanDigits natOf isDigit_of_mem_padZeros padZeros_head natOf_padZeros
  length_padZeros spanDigits_append spanDigits_length stops_cons)

theorem not_isBlank_of_isDigit {c : Char} (h : c.isDigit = true) : isBlank c = false := by
  have hbounds : 48 ≤ c.toNat ∧ c.toNat ≤ 57 := by
    simpa [Char.isDigit, UInt32.le_iff_toNat_le] using h
  unfold isBlank
  simp
  omega

theorem trimStart_cons {c : Char} (h : isBlank c = false) (cs : List Char) : trimStart (c :: cs) = c :: cs :=
  List.dropWhile_cons_of_neg (by rw [h]; decide)

theorem trimStart_padZeros (width n : Nat) (rest : List Char) :
    trimStart (padZeros width n ++ rest) = padZeros width n ++ rest := by
  obtain ⟨d, ds, hds, hd⟩ := padZeros_head width n
  rw [hds, List.cons_append]
  exact trimStart_cons (not_isBlank_of_isDigit hd) _

theorem mark?_self {c : Char} (h : isBlank c = false) (cs : List Char) : mark? c (c :: cs) = some cs := by
  unfold mark?
  rw [trimStart_cons h]
  exact if_pos rfl

theorem number?_padZeros {n : Nat} (h : n < 100) (rest : List Char) :
    number? 2 (padZeros 2 n ++ rest) = some (n, rest) := by
  have hspan := spanDigits_length (isDigit_of_mem_padZeros 2 n) rest
  rw [length_padZeros (by decide) h] at hspan
  obtain ⟨d, ds, hds, -⟩ := padZeros_head 2 n
  have hvalue := natOf_padZeros 2 n
  unfold number?
  rw [trimStart_padZeros, hspan]
  rw [hds] at hvalue ⊢
  exact congrArg (fun m => some (m, rest)) hvalue

/-! ## Years -/

theorem spanDigits_year (n : Nat) {rest : List Char} (h : Stops rest) :
    spanDigits (padZeros 4 n ++ rest).length (padZeros 4 n ++ rest) = (padZeros 4 n, rest) :=
  spanDigits_append (isDigit_of_mem_padZeros 4 n) _ (by simp) h

/-- A year behind the mark `c`, where `sign` is what the mark makes of its digits. -/
theorem year?_signed {c : Char} (sign : Nat → Int)
    (hread : ∀ cs, year? (c :: cs) = match spanDigits cs.length cs with
      | ([], _) => none
      | (ds, rest) => some (sign (natOf ds), rest)) (n : Nat) {rest : List Char} (h : Stops rest) :
    year? (c :: padZeros 4 n ++ rest) = some (sign n, rest) := by
  have hspan := spanDigits_year n h
  obtain ⟨d, ds, hds, -⟩ := padZeros_head 4 n
  have hvalue := natOf_padZeros 4 n
  rw [List.cons_append, hread, hspan]
  rw [hds] at hvalue ⊢
  dsimp only
  rw [hvalue]

theorem year?_minus (n : Nat) {rest : List Char} (h : Stops rest) :
    year? ('-' :: padZeros 4 n ++ rest) = some (-(n : Int), rest) := by
  refine year?_signed (fun m => -(m : Int)) (fun cs => ?_) n h
  unfold year?
  rw [trimStart_cons (by decide)]
  rfl

theorem year?_plus (n : Nat) {rest : List Char} (h : Stops rest) :
    year? ('+' :: padZeros 4 n ++ rest) = some ((n : Int), rest) := by
  refine year?_signed (fun m => (m : Int)) (fun cs => ?_) n h
  unfold year?
  rw [trimStart_cons (by decide)]
  rfl

theorem year?_digits {n : Nat} (hn : n ≤ 9999) (rest : List Char) :
    year? (padZeros 4 n ++ rest) = some ((n : Int), rest) := by
  have hspan := spanDigits_length (isDigit_of_mem_padZeros 4 n) rest
  rw [length_padZeros (by decide) (show n < 10000 by omega)] at hspan
  obtain ⟨d, ds, hds, hd⟩ := padZeros_head 4 n
  have hvalue := natOf_padZeros 4 n
  unfold year?
  rw [trimStart_padZeros]
  rw [hds] at hspan hvalue ⊢
  rw [List.cons_append] at hspan ⊢
  split
  · rename_i he
    exact absurd (List.cons.inj he).1 (Text.ne_of_isDigit hd rfl)
  · rename_i he
    exact absurd (List.cons.inj he).1 (Text.ne_of_isDigit hd rfl)
  · rw [hspan]
    dsimp only
    rw [hvalue]

/-- **A year** is read back, with its sign if it has one. -/
theorem year?_yearChars (y : Int) {rest : List Char} (h : Stops rest) :
    year? (yearChars y ++ rest) = some (y, rest) := by
  unfold yearChars
  cases y with
  | ofNat n =>
    dsimp only
    by_cases hn : n ≤ 9999
    · rw [if_pos hn]
      exact year?_digits hn rest
    · rw [if_neg hn]
      exact year?_plus n h
  | negSucc n => exact year?_minus (n + 1) h

/-! ## Fractions -/

theorem fraction?_point (cs : List Char) : fraction? ('.' :: cs) = match spanDigits 9 cs with
    | ([], _) => none
    | (ds, rest) => some (natOf ds * tenTo (9 - ds.length), rest.dropWhile Char.isDigit) :=
  rfl

theorem fraction?_digits {width n : Nat} (hw : 0 < width) (hwidth : width ≤ 9) (h : n < tenTo width) :
    fraction? ('.' :: padZeros width n ++ ['Z']) = some (n * tenTo (9 - width), ['Z']) := by
  have hlen := length_padZeros hw h
  have hspan := spanDigits_append (isDigit_of_mem_padZeros width n) 9
    (by rw [hlen]; exact hwidth) (stops_cons (c := 'Z') rfl [])
  obtain ⟨d, ds, hds, -⟩ := padZeros_head width n
  have hvalue := natOf_padZeros width n
  rw [List.cons_append, fraction?_point, hspan]
  rw [hds] at hvalue hlen ⊢
  dsimp only
  rw [hvalue, hlen]
  rfl

/-- **A fraction** of three, six or nine digits, or of none, says all nanoseconds. -/
theorem fraction?_fractionChars {nano : Nat} (h : nano < 1000000000) :
    fraction? (fractionChars nano ++ ['Z']) = some (nano, ['Z']) := by
  unfold fractionChars
  by_cases h0 : nano = 0
  · rw [if_pos h0, h0]
    rfl
  rw [if_neg h0]
  by_cases h3 : nano % 1000000 = 0
  · rw [if_pos h3, fraction?_digits (by decide) (by decide) (show _ < 1000 by omega)]
    have hnano : nano / 1000000 * tenTo (9 - 3) = nano := by
      show nano / 1000000 * 1000000 = nano
      omega
    rw [hnano]
  rw [if_neg h3]
  by_cases h6 : nano % 1000 = 0
  · rw [if_pos h6, fraction?_digits (by decide) (by decide) (show _ < 1000000 by omega)]
    have hnano : nano / 1000 * tenTo (9 - 6) = nano := by
      show nano / 1000 * 1000 = nano
      omega
    rw [hnano]
  · rw [if_neg h6, fraction?_digits (by decide) (by decide) (show _ < 1000000000 from h)]
    exact congrArg (fun m => some (m, ['Z'])) (Nat.mul_one nano)

/-! ## The whole -/

theorem ofLocal?_self (t : Timestamp) :
    ofLocal? t.year t.month t.day t.hour t.minute t.second t.nano 0 = some t := by
  obtain ⟨year, month, day, hour, minute, second, nano, hdate, hhour, hminute, hsecond, hnano⟩ := t
  have hclock : ((hour * 60 + minute : Nat) - 0 : Int) = ((hour * 60 + minute : Nat) : Int) := Int.sub_zero _
  have hmod : (((hour * 60 + minute : Nat) : Int) % 1440).toNat = hour * 60 + minute := by omega
  unfold ofLocal?
  dsimp only
  rw [if_neg (by simp [hdate, hhour, hminute, hsecond]), hclock, if_neg (by omega), if_pos (by omega), hmod]
  have hh : (hour * 60 + minute) / 60 = hour := by omega
  have hm : (hour * 60 + minute) % 60 = minute := by omega
  dsimp only
  rw [hh, hm]
  unfold make?
  rw [dif_pos ⟨hdate, hhour, hminute, hsecond, hnano⟩]

theorem lt_hundred_of_isDate {y : Int} {month day : Nat} (h : Calendar.isDate y month day = true) :
    month < 100 ∧ day < 100 := by
  unfold Calendar.isDate at h
  simp only [Bool.and_eq_true, decide_eq_true_eq] at h
  have hdays : Calendar.daysIn y month ≤ 31 := by
    unfold Calendar.daysIn
    split
    · split <;> omega
    all_goals omega
  omega

/-- **An instant reads back** from the form that it is written in. -/
theorem read?_render (t : Timestamp) : read? t.render = some t := by
  obtain ⟨hmonth, hday⟩ := lt_hundred_of_isDate t.date_valid
  have hhour : t.hour < 100 := Nat.lt_trans t.hour_lt (by decide)
  have hminute : t.minute < 100 := Nat.lt_trans t.minute_lt (by decide)
  have hsecond : t.second < 100 := Nat.lt_of_le_of_lt t.second_le (by decide)
  have hclock := ofLocal?_self t
  have hzulu : offset? (trimStart ['Z']) = some (0, []) := by decide
  unfold read? render readChars?
  rw [String.toList_ofList]
  unfold chars dateChars clockChars
  simp only [List.append_assoc, List.cons_append]
  rw [year?_yearChars _ (stops_cons (c := '-') rfl _)]
  simp only [Option.bind_eq_bind, Option.bind_some, mark?_self (c := '-') rfl, mark?_self (c := ':') rfl,
    number?_padZeros hmonth, number?_padZeros hday, number?_padZeros hhour, number?_padZeros hminute,
    number?_padZeros hsecond, fraction?_fractionChars t.nano_lt]
  rw [hzulu, Option.bind_some]
  exact (if_pos (by decide)).trans hclock

end Timestamp
end CalcConsole
