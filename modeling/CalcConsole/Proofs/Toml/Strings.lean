import CalcConsole.Toml.Lexeme
import CalcConsole.Toml.Printer
/-! # Strings and keys read back

Whatever text is written as a string or as a key, the reader takes it back whole and stops behind it.  In a string of
several lines the reader looks for the closing quotes at every character: it has to find them at the end, together with
the quotes that the text itself ends in, and nowhere before. -/
namespace CalcConsole
namespace Toml

open Text (dropLead? hexUpper)

variable {c q : Char} {cs rest : List Char}

/-! ## Escapes -/

theorem hexChar?_of_lt : ∀ n < 128, hexChar? ['0', '0', hexUpper (n / 16), hexUpper (n % 16)] = some (Char.ofNat n) := by
  decide +kernel

theorem toNat_of_isControl (h : isControl c = true) : c.toNat < 128 := by
  simp only [isControl, Bool.or_eq_true, decide_eq_true_eq, beq_iff_eq] at h
  omega

theorem isPrintable_of_not_isControl (h : isControl c = false) : isPrintable c = true := by
  simp only [isControl, Bool.or_eq_false_iff, decide_eq_false_iff_not, beq_eq_false_iff_ne] at h
  have hn : 0x20 ≤ c.toNat := by omega
  simp [isPrintable, h.2, hn]

theorem escape?_control (h : isControl c = true) :
    escape? (['u', '0', '0', hexUpper (c.toNat / 16), hexUpper (c.toNat % 16)] ++ rest) = some (c, rest) := by
  have hhex := hexChar?_of_lt c.toNat (toNat_of_isControl h)
  rw [Char.ofNat_toNat] at hhex
  simp [escape?, hhex]

/-- A character other than a quote stands for itself, or behind a backslash; a line feed stands for itself only where
there are several lines. -/
theorem escapedChar_cases (multi : Bool) (c : Char) :
    (escapedChar multi c = [c] ∧ (isPrintable c = true ∧ c ≠ '\n' ∨ multi = true ∧ c = '\n') ∧ c ≠ '\\' ∧ c ≠ '\r') ∨
    ∃ e es, escapedChar multi c = '\\' :: e :: es ∧ isBlank e = false ∧ e ≠ '\n' ∧ e ≠ '\r' ∧
      ∀ rest, escape? (e :: (es ++ rest)) = some (c, rest) := by
  unfold escapedChar
  by_cases h1 : c = '\x08'
  · exact .inr ⟨'b', [], by simp [h1], by decide, by decide, by decide, fun rest => by rw [h1]; rfl⟩
  by_cases h2 : c = '\t'
  · exact .inr ⟨'t', [], by simp [h2], by decide, by decide, by decide, fun rest => by rw [h2]; rfl⟩
  by_cases h3 : c = '\n'
  · cases multi with
    | true => exact .inl ⟨by simp [h3], .inr ⟨rfl, h3⟩, by rw [h3]; decide, by rw [h3]; decide⟩
    | false => exact .inr ⟨'n', [], by simp [h3], by decide, by decide, by decide, fun rest => by rw [h3]; rfl⟩
  by_cases h4 : c = '\x0c'
  · exact .inr ⟨'f', [], by simp [h4], by decide, by decide, by decide, fun rest => by rw [h4]; rfl⟩
  by_cases h5 : c = '\r'
  · exact .inr ⟨'r', [], by simp [h5], by decide, by decide, by decide, fun rest => by rw [h5]; rfl⟩
  by_cases h6 : c = '\\'
  · exact .inr ⟨'\\', [], by simp [h6], by decide, by decide, by decide, fun rest => by rw [h6]; rfl⟩
  by_cases h7 : isControl c = true
  · exact .inr ⟨'u', _, by simp [h1, h2, h3, h4, h5, h6, h7], by decide, by decide, by decide,
      fun rest => escape?_control h7⟩
  · have hprint := isPrintable_of_not_isControl (Bool.eq_false_iff.mpr h7)
    exact .inl ⟨by simp [h1, h2, h3, h4, h5, h6, h7], .inl ⟨hprint, h3⟩, h6, h5⟩

theorem escapedChars_cons (multi : Bool) (run : Nat) (h : c ≠ '"') (cs : List Char) :
    escapedChars multi run (c :: cs) = escapedChar multi c ++ escapedChars multi 0 cs := by
  rw [escapedChars, if_neg h]

theorem length_le_escapedChars (multi : Bool) (run : Nat) (cs : List Char) :
    cs.length ≤ (escapedChars multi run cs).length := by
  induction cs generalizing run with
  | nil => exact Nat.le_refl _
  | cons c cs ih =>
    by_cases h : c = '"'
    · rw [escapedChars, if_pos h]
      have h0 := ih 0
      have h1 := ih (run + 1)
      split <;> simp only [List.length_cons] <;> omega
    · rw [escapedChars_cons multi run h]
      have h0 := ih 0
      rcases escapedChar_cases multi c with ⟨he, -⟩ | ⟨e, es, he, -⟩
      · rw [he]
        simpa using h0
      · rw [he]
        simp only [List.length_cons, List.length_append]
        omega

/-! ## One line -/

/-- **A basic string** on one line. -/
theorem basic?_escapedChars (cs rest : List Char) : ∀ fuel : Nat, cs.length < fuel →
    basic? fuel (escapedChars false 0 cs ++ '"' :: rest) = some (cs, rest) := by
  induction cs with
  | nil =>
    intro fuel h
    obtain ⟨fuel, rfl⟩ := Nat.exists_eq_succ_of_ne_zero (Nat.ne_zero_of_lt h)
    rfl
  | cons c cs ih =>
    intro fuel h
    obtain ⟨fuel, rfl⟩ := Nat.exists_eq_succ_of_ne_zero (Nat.ne_zero_of_lt h)
    have hrest := ih fuel (Nat.lt_of_succ_lt_succ h)
    by_cases hq : c = '"'
    · subst hq
      simp [escapedChars, basic?, escape?, escaped?, hrest]
    · rw [escapedChars_cons false 0 hq, List.append_assoc]
      rcases escapedChar_cases false c with ⟨he, hp, hb, -⟩ | ⟨e, es, he, -, -, -, hread⟩
      · have hp : isPrintable c = true := by simpa using hp.resolve_right (by simp) |>.1
        simp [he, basic?, hq, hb, hp, hrest]
      · simp [he, basic?, hread, hrest]

/-- **A literal string** on one line. -/
theorem literal?_append (h : ∀ c ∈ cs, isPrintable c = true ∧ c ≠ '\'') (rest : List Char) :
    literal? (cs ++ '\'' :: rest) = some (cs, rest) := by
  induction cs with
  | nil => rfl
  | cons c cs ih =>
    obtain ⟨⟨hp, hq⟩, hcs⟩ := List.forall_mem_cons.mp h
    simp [literal?, hp, hq, ih hcs]

/-! ## Several lines -/

/-- Closing quotes behind quotes of the text are found together with these, and only at the end of the text. -/
theorem closing?_lead {m : Nat} (hm : m ≤ 2) {e : List Char} (he : e.head? ≠ some q) (hrest : rest.head? ≠ some q) :
    closing? q (List.replicate m q ++ e ++ (q :: q :: q :: rest)) =
      if e = [] then some (List.replicate m q, rest) else none := by
  have hcases : m = 0 ∨ m = 1 ∨ m = 2 := by omega
  cases e with
  | nil =>
    cases rest with
    | nil => rcases hcases with rfl | rfl | rfl <;> simp [closing?, dropLead?, List.replicate]
    | cons r rest =>
      have hr : ¬ r = q := fun h => hrest (by rw [h]; rfl)
      rcases hcases with rfl | rfl | rfl
      · cases rest <;> simp [closing?, dropLead?, hr]
      · simp [closing?, dropLead?, hr]
      · simp [closing?, dropLead?, List.replicate]
  | cons c e =>
    have hc : ¬ q = c := fun h => he (by rw [h]; rfl)
    rcases hcases with rfl | rfl | rfl <;> simp [closing?, dropLead?, List.replicate, hc]

/-- The quotes at the front of a text that is written between quotes are at most two, and all of it only if the text is
these quotes. -/
theorem escapedChars_lead (run : Nat) (hrun : run ≤ 2) (cs : List Char) :
    ∃ m e, escapedChars true run cs = List.replicate m '"' ++ e ∧ e.head? ≠ some '"' ∧ m + run ≤ 2 ∧
      (e = [] → cs = List.replicate m '"') := by
  induction cs generalizing run with
  | nil => exact ⟨0, [], rfl, by simp, by omega, fun _ => rfl⟩
  | cons c cs ih =>
    by_cases hq : c = '"'
    · subst hq
      by_cases hlt : run < 2
      · obtain ⟨m, e, he, hhead, hm, hend⟩ := ih (run + 1) (by omega)
        refine ⟨m + 1, e, ?_, hhead, by omega, fun h => by rw [hend h, List.replicate_succ]⟩
        simp [escapedChars, hlt, he, List.replicate_succ]
      · refine ⟨0, escapedChars true run ('"' :: cs), rfl, ?_, by omega, fun h => ?_⟩
        · simp [escapedChars, hlt]
        · simp [escapedChars, hlt] at h
    · refine ⟨0, escapedChars true run (c :: cs), rfl, ?_, by omega, fun h => ?_⟩
      · rw [escapedChars_cons true run hq]
        rcases escapedChar_cases true c with ⟨he, -⟩ | ⟨e, es, he, -⟩
        · simp [he, hq]
        · simp [he]
      · rw [escapedChars_cons true run hq] at h
        rcases escapedChar_cases true c with ⟨he, -⟩ | ⟨e, es, he, -⟩ <;> simp [he] at h

theorem folded?_of_not_blank {e : Char} (hb : isBlank e = false) (hn : e ≠ '\n') (hr : e ≠ '\r') (cs : List Char) :
    folded? (e :: cs) = none := by
  have hskip : skipBlanks (e :: cs) = e :: cs := by simp [skipBlanks, hb]
  unfold folded?
  rw [hskip]
  unfold newline?
  split
  · simp_all
  · simp_all
  · rfl

theorem newline?_of_ne (hn : c ≠ '\n') (hr : c ≠ '\r') (cs : List Char) : newline? (c :: cs) = none := by
  unfold newline?
  split <;> simp_all

theorem multiBasic?_closed {r : List Char × List Char} (h : closing? '"' cs = some r) (fuel : Nat) :
    multiBasic? (fuel + 1) cs = some r := by
  rw [multiBasic?.eq_def]
  simp [h]

theorem multiBasic?_plain (hclosing : closing? '"' (c :: cs) = none) (hb : c ≠ '\\') (hr : c ≠ '\r')
    (hp : isPrintable c = true ∧ c ≠ '\n' ∨ c = '\n') (fuel : Nat) :
    multiBasic? (fuel + 1) (c :: cs) = (multiBasic? fuel cs).map fun r => (c :: r.1, r.2) := by
  rw [multiBasic?, hclosing]
  · rcases hp with ⟨hp, hn⟩ | rfl
    · simp [newline?_of_ne hn hr, hp]
    · simp [newline?]
  · exact hb

/-- **A basic string** of several lines. -/
theorem multiBasic?_escapedChars (hrest : rest.head? ≠ some '"') (cs : List Char) :
    ∀ run ≤ 2, ∀ fuel, cs.length < fuel →
      multiBasic? fuel (escapedChars true run cs ++ '"' :: '"' :: '"' :: rest) = some (cs, rest) := by
  induction cs with
  | nil =>
    intro run _ fuel h
    obtain ⟨fuel, rfl⟩ := Nat.exists_eq_succ_of_ne_zero (Nat.ne_zero_of_lt h)
    have hclosing := closing?_lead (Nat.zero_le 2) (e := []) (by simp) hrest
    rw [if_pos rfl] at hclosing
    exact multiBasic?_closed hclosing fuel
  | cons c cs ih =>
    intro run hrun fuel h
    obtain ⟨fuel, rfl⟩ := Nat.exists_eq_succ_of_ne_zero (Nat.ne_zero_of_lt h)
    have hfuel : cs.length < fuel := Nat.lt_of_succ_lt_succ h
    -- Before each character the reader looks for the closing quotes, which are there only if all that is left of the
    -- text are quotes.
    obtain ⟨m, e, he, hhead, hm, hend⟩ := escapedChars_lead run hrun (c :: cs)
    have hclosing := closing?_lead (Nat.le_of_add_right_le hm) hhead hrest
    rw [← he] at hclosing
    by_cases hnil : e = []
    · rw [if_pos hnil] at hclosing
      rw [multiBasic?_closed hclosing, hend hnil]
    · rw [if_neg hnil] at hclosing
      by_cases hq : c = '"'
      · subst hq
        by_cases hlt : run < 2
        · have hchars : escapedChars true run ('"' :: cs) = '"' :: escapedChars true (run + 1) cs := by
            simp [escapedChars, hlt]
          rw [hchars, List.cons_append] at hclosing ⊢
          rw [multiBasic?_plain hclosing (by decide) (by decide) (.inl (by decide)), ih (run + 1) (by omega) fuel hfuel]
          rfl
        · have hchars : escapedChars true run ('"' :: cs) = '\\' :: '"' :: escapedChars true 0 cs := by
            simp [escapedChars, hlt]
          rw [hchars] at hclosing ⊢
          have hread := ih 0 (by omega) fuel hfuel
          simp only [List.cons_append] at hclosing ⊢
          rw [multiBasic?, hclosing]
          simp [folded?_of_not_blank, isBlank, escape?, escaped?, hread]
      · rw [escapedChars_cons true run hq, List.append_assoc] at hclosing ⊢
        have hread := ih 0 (by omega) fuel hfuel
        rcases escapedChar_cases true c with ⟨he, hp, hb, hr⟩ | ⟨e, es, he, hblank, hn, hr, hescape⟩
        · rw [he, List.singleton_append] at hclosing ⊢
          rw [multiBasic?_plain hclosing hb hr (hp.imp_right fun h => h.2), hread]
          rfl
        · rw [he] at hclosing ⊢
          simp only [List.cons_append] at hclosing ⊢
          rw [multiBasic?, hclosing]
          simp [folded?_of_not_blank hblank hn hr, hescape, hread]

theorem multiLiteral?_closed {r : List Char × List Char} (h : closing? '\'' cs = some r) (fuel : Nat) :
    multiLiteral? (fuel + 1) cs = some r := by
  rw [multiLiteral?.eq_def]
  simp [h]

theorem multiLiteral?_plain (hclosing : closing? '\'' (c :: cs) = none) (hr : c ≠ '\r')
    (hp : isPrintable c = true ∧ c ≠ '\n' ∨ c = '\n') (fuel : Nat) :
    multiLiteral? (fuel + 1) (c :: cs) = (multiLiteral? fuel cs).map fun r => (c :: r.1, r.2) := by
  rw [multiLiteral?, hclosing]
  rcases hp with ⟨hp, hn⟩ | rfl
  · simp [newline?_of_ne hn hr, hp]
  · simp [newline?]

theorem le_longestRun (q : Char) (run : Nat) (cs : List Char) : run ≤ longestRun q run cs := by
  induction cs generalizing run with
  | nil => exact Nat.le_refl _
  | cons c cs ih =>
    have h := ih (run + 1)
    rw [longestRun]
    split <;> omega

theorem longestRun_lead {run : Nat} (h : longestRun q run cs ≤ 2) :
    ∃ m e, cs = List.replicate m q ++ e ∧ e.head? ≠ some q ∧ m + run ≤ 2 := by
  induction cs generalizing run with
  | nil =>
    have hrun := le_longestRun q run []
    exact ⟨0, [], rfl, by simp, by omega⟩
  | cons c cs ih =>
    by_cases hq : c = q
    · subst hq
      rw [longestRun, if_pos rfl] at h
      obtain ⟨m, e, he, hhead, hm⟩ := ih h
      exact ⟨m + 1, e, by rw [he, List.replicate_succ, List.cons_append], hhead, by omega⟩
    · have hrun := le_longestRun q run (c :: cs)
      exact ⟨0, c :: cs, rfl, by simp [hq], by omega⟩

/-- **A literal string** of several lines. -/
theorem multiLiteral?_append (hrest : rest.head? ≠ some '\'')
    (hcs : ∀ c ∈ cs, (isPrintable c = true ∧ c ≠ '\n' ∨ c = '\n') ∧ c ≠ '\r') :
    ∀ run, longestRun '\'' run cs ≤ 2 → ∀ fuel, cs.length < fuel →
      multiLiteral? fuel (cs ++ '\'' :: '\'' :: '\'' :: rest) = some (cs, rest) := by
  induction cs with
  | nil =>
    intro run _ fuel h
    obtain ⟨fuel, rfl⟩ := Nat.exists_eq_succ_of_ne_zero (Nat.ne_zero_of_lt h)
    have hclosing := closing?_lead (Nat.zero_le 2) (e := []) (by simp) hrest
    rw [if_pos rfl] at hclosing
    exact multiLiteral?_closed hclosing fuel
  | cons c cs ih =>
    intro run hrun fuel h
    obtain ⟨fuel, rfl⟩ := Nat.exists_eq_succ_of_ne_zero (Nat.ne_zero_of_lt h)
    obtain ⟨⟨hp, hr⟩, hcs⟩ := List.forall_mem_cons.mp hcs
    obtain ⟨m, e, he, hhead, hm⟩ := longestRun_lead hrun
    have hclosing := closing?_lead (Nat.le_of_add_right_le hm) hhead hrest
    rw [← he] at hclosing
    by_cases hnil : e = []
    · rw [if_pos hnil] at hclosing
      rw [multiLiteral?_closed hclosing, he, hnil, List.append_nil]
    · rw [if_neg hnil] at hclosing
      have hnext : ∃ run, longestRun '\'' run cs ≤ 2 := by
        rw [longestRun] at hrun
        split at hrun
        · exact ⟨_, hrun⟩
        · exact ⟨0, by omega⟩
      obtain ⟨run, hrun⟩ := hnext
      rw [List.cons_append] at hclosing ⊢
      rw [multiLiteral?_plain hclosing hr hp, ih hcs run hrun fuel (Nat.lt_of_succ_lt_succ h)]
      rfl

/-! ## Strings of any form -/

theorem isPrintable_of_not_isHidden (h : isHidden c = false) :
    (isPrintable c = true ∧ c ≠ '\n' ∨ c = '\n') ∧ c ≠ '\r' := by
  by_cases hn : c = '\n'
  · exact ⟨.inr hn, by rw [hn]; decide⟩
  · by_cases ht : c = '\t'
    · exact ⟨.inl ⟨by rw [ht]; decide, hn⟩, by rw [ht]; decide⟩
    · have hcontrol : isControl c = false := by simpa [isHidden, hn, ht] using h
      refine ⟨.inl ⟨isPrintable_of_not_isControl hcontrol, hn⟩, fun hr => ?_⟩
      rw [hr] at hcontrol
      cases hcontrol

theorem formOf_literal (h : formOf cs = .literal) :
    (∀ c ∈ cs, isPrintable c = true ∧ c ≠ '\'') ∧ cs ≠ [] := by
  unfold formOf at h
  split at h
  · cases h
  next hbasic =>
    split at h
    next hliteral =>
      simp only [Bool.and_eq_true, Bool.not_eq_true', hasHidden, List.any_eq_false, List.contains_eq_mem,
        decide_eq_false_iff_not] at hliteral
      obtain ⟨⟨hhidden, hbreak⟩, hquote⟩ := hliteral
      refine ⟨fun c hc => ⟨?_, fun hq => hquote (hq ▸ hc)⟩, fun hnil => hbasic (by rw [hnil]; rfl)⟩
      have hcases := (isPrintable_of_not_isHidden (Bool.eq_false_iff.mpr (hhidden c hc))).1
      exact (hcases.resolve_right fun hn => hbreak (hn ▸ hc)).1
    · split at h
      · cases h
      · split at h
        · cases h
        · split at h <;> cases h

theorem formOf_multiLiteral (h : formOf cs = .multiLiteral) :
    (∀ c ∈ cs, isHidden c = false) ∧ longestRun '\'' 0 cs ≤ 2 := by
  unfold formOf at h
  split at h
  · cases h
  · split at h
    · cases h
    · split at h
      · cases h
      · split at h
        next hmulti =>
          simp only [Bool.and_eq_true, Bool.not_eq_true', hasHidden, List.any_eq_false, decide_eq_true_eq] at hmulti
          exact ⟨fun c hc => Bool.eq_false_iff.mpr (hmulti.1 c hc), hmulti.2⟩
        · split at h <;> cases h

theorem dropNewline_leadBreak (cs : List Char) {body : List Char} (h : '\n' ∉ cs → newline? body = none) :
    dropNewline (leadBreak cs ++ body) = body := by
  unfold leadBreak dropNewline
  by_cases hn : '\n' ∈ cs
  · simp [hn, newline?]
  · simp [hn, h hn]

theorem newline?_escapedChars (hn : '\n' ∉ cs) (rest : List Char) :
    newline? (escapedChars true 0 cs ++ '"' :: rest) = none := by
  cases cs with
  | nil => rfl
  | cons c cs =>
    by_cases hq : c = '"'
    · subst hq
      simp [escapedChars, newline?]
    · rw [escapedChars_cons true 0 hq]
      rcases escapedChar_cases true c with ⟨he, -, -, hr⟩ | ⟨e, es, he, -⟩
      · rw [he]
        exact newline?_of_ne (fun h => hn (h ▸ List.mem_cons_self ..)) hr _
      · rw [he]
        exact newline?_of_ne (by decide) (by decide) _

theorem newline?_append (hn : '\n' ∉ cs) (hr : '\r' ∉ cs) (rest : List Char) : newline? (cs ++ '\'' :: rest) = none := by
  cases cs with
  | nil => rfl
  | cons c cs =>
    exact newline?_of_ne (fun h => hn (h ▸ List.mem_cons_self ..)) (fun h => hr (h ▸ List.mem_cons_self ..)) _

def taken (r : List Char × List Char) : String × List Char := (String.ofList r.1, r.2)

theorem string?_basic {r : List Char} (h : dropLead? ['"', '"'] r = none) :
    string? ('"' :: r) = (basic? (r.length + 1) r).map taken := by
  have hlead : dropLead? ['"', '"', '"'] ('"' :: r) = none := h
  unfold string?
  rw [hlead]
  rfl

theorem string?_literal {r : List Char} (h : dropLead? ['\'', '\''] r = none) :
    string? ('\'' :: r) = (literal? r).map taken := by
  have hlead : dropLead? ['\'', '\'', '\''] ('\'' :: r) = none := h
  unfold string?
  rw [hlead]
  rfl

theorem string?_multiBasic (r : List Char) :
    string? ('"' :: '"' :: '"' :: r) = (multiBasic? (r.length + 1) (dropNewline r)).map taken := rfl

theorem string?_multiLiteral (r : List Char) :
    string? ('\'' :: '\'' :: '\'' :: r) = (multiLiteral? (r.length + 1) (dropNewline r)).map taken := rfl

theorem string?_basicChars (hrest : rest.head? ≠ some '"') (cs : List Char) :
    string? (basicChars cs ++ rest) = some (String.ofList cs, rest) := by
  have hlength := length_le_escapedChars false 0 cs
  have hlead : dropLead? ['"', '"'] (escapedChars false 0 cs ++ '"' :: rest) = none := by
    cases cs with
    | nil =>
      cases rest with
      | nil => rfl
      | cons r rest =>
        have hr : ¬ '"' = r := fun h => hrest (by rw [h]; rfl)
        simp [escapedChars, dropLead?, hr]
    | cons c cs =>
      by_cases hq : c = '"'
      · subst hq
        simp [escapedChars, dropLead?]
      · rw [escapedChars_cons false 0 hq]
        rcases escapedChar_cases false c with ⟨he, -⟩ | ⟨e, es, he, -⟩
        · simp [he, dropLead?, Ne.symm hq]
        · simp [he, dropLead?]
  unfold basicChars
  simp only [List.cons_append, List.append_assoc, List.nil_append]
  rw [string?_basic hlead, basic?_escapedChars cs rest _ (by rw [List.length_append]; omega)]
  rfl

theorem string?_literalChars (h : (∀ c ∈ cs, isPrintable c = true ∧ c ≠ '\'') ∧ cs ≠ []) (rest : List Char) :
    string? (literalChars cs ++ rest) = some (String.ofList cs, rest) := by
  obtain ⟨hcs, hnil⟩ := h
  have hlead : dropLead? ['\'', '\''] (cs ++ '\'' :: rest) = none := by
    obtain ⟨c, cs, rfl⟩ := List.exists_cons_of_ne_nil hnil
    exact if_neg fun h => (hcs c (List.mem_cons_self ..)).2 h.symm
  unfold literalChars
  simp only [List.cons_append, List.append_assoc, List.nil_append]
  rw [string?_literal hlead, literal?_append hcs]
  rfl

/-- **A string** of any form is read back from its text. -/
theorem string?_stringChars (hrest : ∀ c, rest.head? = some c → c ≠ '"' ∧ c ≠ '\'') (cs : List Char) :
    string? (stringChars cs ++ rest) = some (String.ofList cs, rest) := by
  have hbasic : rest.head? ≠ some '"' := fun h => (hrest _ h).1 rfl
  have hliteral : rest.head? ≠ some '\'' := fun h => (hrest _ h).2 rfl
  unfold stringChars
  cases hform : formOf cs with
  | basic => exact string?_basicChars hbasic cs
  | literal => exact string?_literalChars (formOf_literal hform) rest
  | multiBasic =>
    have hbreak := dropNewline_leadBreak cs fun hn => newline?_escapedChars hn ('"' :: '"' :: rest)
    have hlength := length_le_escapedChars true 0 cs
    simp only [List.cons_append, List.nil_append, List.append_assoc]
    rw [string?_multiBasic, hbreak, multiBasic?_escapedChars hbasic cs 0 (by omega) _
      (by simp only [List.length_append]; omega)]
    rfl
  | multiLiteral =>
    obtain ⟨hhidden, hrun⟩ := formOf_multiLiteral hform
    have hcs : ∀ c ∈ cs, (isPrintable c = true ∧ c ≠ '\n' ∨ c = '\n') ∧ c ≠ '\r' :=
      fun c hc => isPrintable_of_not_isHidden (hhidden c hc)
    have hbreak := dropNewline_leadBreak cs fun hn =>
      newline?_append hn (fun hr => (hcs _ hr).2 rfl) ('\'' :: '\'' :: rest)
    simp only [List.cons_append, List.nil_append, List.append_assoc]
    rw [string?_multiLiteral, hbreak, multiLiteral?_append hliteral hcs 0 hrun _
      (by simp only [List.length_append]; omega)]
    rfl

/-! ## Keys -/

theorem keyText_head (k : String) : ∃ c cs, keyText k = c :: cs ∧ (isKeyChar c = true ∨ c = '"' ∨ c = '\'') := by
  unfold keyText keyChars
  split
  next hbare =>
    simp only [Bool.and_eq_true, Bool.not_eq_true', List.isEmpty_eq_false_iff] at hbare
    obtain ⟨c, cs, hcs⟩ := List.exists_cons_of_ne_nil hbare.1
    exact ⟨c, cs, hcs, .inl (List.all_eq_true.mp hbare.2 c (hcs ▸ List.mem_cons_self ..))⟩
  · split
    · exact ⟨'\'', _, rfl, .inr (.inr rfl)⟩
    · exact ⟨'"', _, rfl, .inr (.inl rfl)⟩

theorem simpleKey?_bare (hcs : cs ≠ []) (hbare : cs.all isKeyChar = true)
    (hrest : ∀ c, rest.head? = some c → isKeyChar c = false) :
    simpleKey? (cs ++ rest) = some (String.ofList cs, rest) := by
  have hall := List.all_eq_true.mp hbare
  have htake : (cs ++ rest).takeWhile isKeyChar = cs := by
    have hnone : rest.takeWhile isKeyChar = [] := by
      cases rest with
      | nil => rfl
      | cons r rest => simp [hrest r rfl]
    rw [List.takeWhile_append_of_pos hall, hnone, List.append_nil]
  have hdrop : (cs ++ rest).dropWhile isKeyChar = rest := by
    have happend := List.takeWhile_append_dropWhile (p := isKeyChar) (l := cs ++ rest)
    rw [htake] at happend
    exact List.append_cancel_left happend
  obtain ⟨c, cs, rfl⟩ := List.exists_cons_of_ne_nil hcs
  have hc := hall c (List.mem_cons_self ..)
  have hquote : c ≠ '"' := fun h => by rw [h] at hc; cases hc
  have hquote' : c ≠ '\'' := fun h => by rw [h] at hc; cases hc
  unfold simpleKey?
  split
  next h => exact absurd (List.cons.inj h).1 hquote
  next h => exact absurd (List.cons.inj h).1 hquote'
  · rw [htake, hdrop]

/-- **A key** is read back from its text. -/
theorem simpleKey?_keyText (hrest : ∀ c, rest.head? = some c → isKeyChar c = false) (k : String) :
    simpleKey? (keyText k ++ rest) = some (k, rest) := by
  have htext : String.ofList k.toList = k := String.ofList_toList
  unfold keyText keyChars
  split
  next hbare =>
    simp only [Bool.and_eq_true, Bool.not_eq_true', List.isEmpty_eq_false_iff] at hbare
    rw [simpleKey?_bare hbare.1 hbare.2 hrest, htext]
  · split
    next hform =>
      have hread := literal?_append (formOf_literal hform).1 rest
      unfold literalChars
      simp only [List.cons_append, List.append_assoc, List.nil_append, simpleKey?]
      rw [hread, Option.map_some, htext]
    · have hlength := length_le_escapedChars false 0 k.toList
      have hread := basic?_escapedChars k.toList rest
      unfold basicChars
      simp only [List.cons_append, List.append_assoc, List.nil_append, simpleKey?]
      rw [hread _ (by rw [List.length_append]; omega), Option.map_some, htext]

end Toml
end CalcConsole
