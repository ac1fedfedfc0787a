import CalcConsole.Text.Digits
/-! # Digits

The digits of a number, with zeros before them or without, are taken from the front of a text as a whole, and read as
that number. -/
namespace CalcConsole
namespace Text

variable {c : Char} {ds rest : List Char}

theorem natChars_cases (n : Nat) :
    natChars n = ['0'] ∨ ∃ d ds, natChars n = d :: ds ∧ d ≠ '0' := by
  induction n using Nat.strongRecOn with
  | _ n ih =>
    by_cases hn : n < 10
    · have hdigit : ∀ m < 10, Nat.digitChar m = '0' ∨ Nat.digitChar m ≠ '0' := by decide
      rcases hdigit n hn with h | h
      · exact .inl (by rw [natChars, Nat.toDigits_of_lt_base hn, h])
      · exact .inr ⟨_, [], by rw [natChars, Nat.toDigits_of_lt_base hn], h⟩
    · have hstep : natChars n = natChars (n / 10) ++ [(n % 10).digitChar] :=
        Nat.toDigits_of_base_le (by decide) (by omega)
      -- The digits of `n / 10` come first, and are a zero alone only if `n` has one digit.
      rcases ih (n / 10) (by omega) with h | ⟨d, ds, h, hd⟩
      · have hzero : n / 10 = 0 := by
          have hvalue := natOf_natChars (n / 10)
          rw [h] at hvalue
          exact hvalue.symm
        omega
      · exact .inr ⟨d, ds ++ [(n % 10).digitChar], by rw [hstep, h]; rfl, hd⟩

theorem isDigit_of_mem_natChars {n : Nat} (h : c ∈ natChars n) : c.isDigit = true :=
  Nat.isDigit_of_mem_toDigits (by decide) (by decide) h

theorem natChars_head (n : Nat) : ∃ d ds, natChars n = d :: ds ∧ d.isDigit = true := by
  have hne : natChars n ≠ [] := Nat.toDigits_ne_nil
  obtain ⟨d, ds, h⟩ := List.exists_cons_of_ne_nil hne
  exact ⟨d, ds, h, isDigit_of_mem_natChars (n := n) (h ▸ List.mem_cons_self ..)⟩

theorem ne_of_isDigit (h : c.isDigit = true) {d : Char} (hd : d.isDigit = false) : c ≠ d :=
  fun he => by rw [he, hd] at h; cases h

theorem ofList_intChars (n : Int) : String.ofList (intChars n) = toString n := by
  cases n with
  | ofNat n => rfl
  | negSucc n =>
    rw [intChars, ← List.singleton_append, String.ofList_append]
    rfl

/-! ## Taking digits -/

def Stops (rest : List Char) : Prop := ∀ c ∈ rest.head?, c.isDigit = false

theorem stops_nil : Stops [] := fun _ h => (by cases h)

theorem stops_cons (h : c.isDigit = false) (cs : List Char) : Stops (c :: cs) := by
  intro d hd
  cases hd
  exact h

theorem spanDigits_stop (h : Stops rest) (max : Nat) : spanDigits max rest = ([], rest) := by
  cases max with
  | zero => rfl
  | succ max =>
    cases rest with
    | nil => rfl
    | cons c cs => simp [spanDigits, h c rfl]

/-- **Digits are taken as a whole**, if they are no more than may be taken. -/
theorem spanDigits_append (hd : ∀ c ∈ ds, c.isDigit = true) (max : Nat) (hlen : ds.length ≤ max) (h : Stops rest) :
    spanDigits max (ds ++ rest) = (ds, rest) := by
  induction ds generalizing max with
  | nil => exact spanDigits_stop h max
  | cons c ds ih =>
    obtain ⟨hc, hds⟩ := List.forall_mem_cons.mp hd
    obtain ⟨max, rfl⟩ : ∃ n, max = n + 1 := ⟨max - 1, by simp at hlen; omega⟩
    rw [List.cons_append, spanDigits, if_pos hc, ih hds max (by simpa using hlen)]

theorem spanDigits_length (hd : ∀ c ∈ ds, c.isDigit = true) (rest : List Char) :
    spanDigits ds.length (ds ++ rest) = (ds, rest) := by
  induction ds with
  | nil => rfl
  | cons c ds ih =>
    obtain ⟨hc, hds⟩ := List.forall_mem_cons.mp hd
    rw [List.cons_append, List.length_cons, spanDigits, if_pos hc, ih hds]

theorem spanDigits_spec (max : Nat) (cs : List Char) :
    cs = (spanDigits max cs).1 ++ (spanDigits max cs).2 ∧ (∀ c ∈ (spanDigits max cs).1, c.isDigit = true) ∧
      (cs.length ≤ max → Stops (spanDigits max cs).2) := by
  induction max generalizing cs with
  | zero =>
    refine ⟨rfl, fun c hc => (by cases hc), fun hlen => ?_⟩
    rw [List.length_eq_zero_iff.mp (Nat.le_zero.mp hlen)]
    exact stops_nil
  | succ max ih =>
    cases cs with
    | nil => exact ⟨rfl, fun c hc => (by cases hc), fun _ => stops_nil⟩
    | cons c cs =>
      unfold spanDigits
      by_cases hc : c.isDigit = true
      · obtain ⟨happ, hds, hstop⟩ := ih cs
        rw [if_pos hc]
        exact ⟨congrArg (c :: ·) happ, List.forall_mem_cons.mpr ⟨hc, hds⟩,
          fun hlen => hstop (Nat.le_of_succ_le_succ hlen)⟩
      · rw [if_neg hc]
        exact ⟨rfl, fun c hc => (by cases hc), fun _ => stops_cons (Bool.eq_false_iff.mpr hc) cs⟩

/-! ## Zeros before digits -/

variable {width n : Nat}

theorem isDigit_of_mem_padZeros (width n : Nat) : ∀ c ∈ padZeros width n, c.isDigit = true := by
  intro c h
  rcases List.mem_append.mp h with h | h
  · rw [List.eq_of_mem_replicate h]
    rfl
  · exact isDigit_of_mem_natChars h

theorem natOf_padZeros (width n : Nat) : natOf (padZeros width n) = n := by
  unfold natOf padZeros
  rw [Nat.ofDigitChars_append, Nat.ofDigitChars_replicate_zero, Nat.mul_zero]
  exact natOf_natChars n

theorem length_padZeros (hw : 0 < width) (h : n < tenTo width) : (padZeros width n).length = width := by
  have hle : (natChars n).length ≤ width := (Nat.length_toDigits_le_iff (by decide) hw).mpr h
  unfold padZeros
  rw [List.length_append, List.length_replicate]
  omega

theorem padZeros_head (width n : Nat) : ∃ d ds, padZeros width n = d :: ds ∧ d.isDigit = true := by
  have hne : padZeros width n ≠ [] := by
    unfold padZeros
    exact List.append_ne_nil_of_right_ne_nil _ Nat.toDigits_ne_nil
  obtain ⟨d, ds, h⟩ := List.exists_cons_of_ne_nil hne
  exact ⟨d, ds, h, isDigit_of_mem_padZeros width n d (h ▸ List.mem_cons_self ..)⟩

/-! ## Faults of digits -/

theorem le_ofDigitChars (cs : List Char) (n : Nat) : n ≤ Nat.ofDigitChars 10 cs n := by
  induction cs generalizing n with
  | nil => exact Nat.le_refl n
  | cons c cs ih =>
    rw [Nat.ofDigitChars_cons]
    have hrest := ih (10 * n + (c.toNat - '0'.toNat))
    omega

theorem digitsFault?_eq_none_iff {beyond : String} {bound n : Nat} {cs : List Char} (hn : n ≤ bound) :
    digitsFault? beyond bound n cs = none ↔ cs.all Char.isDigit = true ∧ Nat.ofDigitChars 10 cs n ≤ bound := by
  induction cs generalizing n with
  | nil => exact ⟨fun _ => ⟨rfl, hn⟩, fun _ => rfl⟩
  | cons c cs ih =>
    rw [digitsFault?, List.all_cons, Nat.ofDigitChars_cons, Bool.and_eq_true]
    by_cases hc : c.isDigit = true
    · rw [hc, Bool.not_true, if_neg Bool.false_ne_true]
      by_cases hm : bound < 10 * n + (c.toNat - '0'.toNat)
      · have hbeyond := le_ofDigitChars cs (10 * n + (c.toNat - '0'.toNat))
        rw [if_pos hm]
        exact ⟨fun h => (by cases h), fun h => absurd h.2 (by omega)⟩
      · rw [if_neg hm, ih (Nat.le_of_not_lt hm), and_iff_right rfl]
    · rw [Bool.eq_false_iff.mpr hc, Bool.not_false, if_pos rfl]
      exact ⟨fun h => (by cases h), fun h => (by cases h.1.1)⟩

/-- **A text has a fault** just if it is no number of 64 bits. -/
theorem i64Fault?_eq_none_iff (s : String) : i64Fault? s = none ↔ (readI64? s).isSome = true := by
  -- digits are read and found fault with alike, whatever the sign before them
  have hdigits : ∀ (beyond : String) (bound : Nat) (cs : List Char), cs ≠ [] →
      (digitsFault? beyond bound 0 cs = none ↔ ¬(cs.isEmpty || !cs.all Char.isDigit || bound < natOf cs) = true) := by
    intro beyond bound cs hcs
    rw [digitsFault?_eq_none_iff (Nat.zero_le _), ← natOf, List.isEmpty_eq_false_iff.mpr hcs, Bool.false_or]
    cases cs.all Char.isDigit <;> simp
  have hpositive : ∀ (beyond : String) (cs : List Char), cs ≠ [] → (digitsFault? beyond (signedBound - 1) 0 cs = none ↔
      (((if cs.isEmpty || !cs.all Char.isDigit then none else some (natOf cs)).filter (· < signedBound)).map
        Int.ofNat).isSome = true) := by
    intro beyond cs hcs
    have hbound : natOf cs < signedBound ↔ ¬signedBound - 1 < natOf cs := by
      have : 0 < signedBound := by decide
      omega
    rw [hdigits beyond _ cs hcs]
    cases h : (cs.isEmpty || !cs.all Char.isDigit) <;> simp [hbound]
  unfold i64Fault? readI64? readNat?
  generalize s.toList = cs
  rcases cs with _ | ⟨c, cs⟩
  · decide
  by_cases hminus : c = '-'
  · subst hminus
    rcases cs with _ | ⟨d, ds⟩
    · decide
    · have h := hdigits "number too small to fit in target type" signedBound (d :: ds) (List.cons_ne_nil d ds)
      simpa using h
  by_cases hplus : c = '+'
  · subst hplus
    rcases cs with _ | ⟨d, ds⟩
    · decide
    · have h := hpositive "number too large to fit in target type" (d :: ds) (List.cons_ne_nil d ds)
      simpa using h
  · have h := hpositive "number too large to fit in target type" (c :: cs) (List.cons_ne_nil c cs)
    simpa [hminus, hplus] using h
end Text
end CalcConsole
