import CalcConsole.Proofs.Text.Digits
import CalcConsole.Proofs.Toml.Strings
import CalcConsole.Toml.Reader
/-! # Lines read back

A text, or an integer of 64 bits, is read back from what stands behind its key, and so a line says what was written
into it.  `Speaks` puts lines together: what some lines say comes before what the lines after them say. -/
namespace CalcConsole
namespace Toml

open Text (dropLead? natChars intChars spanDigits natChars_cases natChars_head isDigit_of_mem_natChars ne_of_isDigit)

variable {c : Char} {ds rest : List Char}

/-! ## Integers -/

theorem spanNumber_digits (hd : ∀ c ∈ ds, c.isDigit = true) (hne : ds ≠ []) (rest : List Char) :
    spanNumber Char.isDigit (ds ++ '\n' :: rest) = some (ds, '\n' :: rest) := by
  induction ds with
  | nil => exact absurd rfl hne
  | cons c ds ih =>
    obtain ⟨hc, hds⟩ := List.forall_mem_cons.mp hd
    cases ds with
    | nil => simp [spanNumber, hc]
    | cons d ds =>
      have hdigit := hds d (List.mem_cons_self ..)
      have hread := ih hds (by simp)
      rw [List.cons_append] at hread
      simp [spanNumber, hc, hdigit, ne_of_isDigit hdigit (d := '_') rfl, hread]

theorem wholePart?_natChars (n : Nat) (rest : List Char) :
    wholePart? (natChars n ++ '\n' :: rest) = some (natChars n, '\n' :: rest) := by
  have hread := spanNumber_digits (fun _ h => isDigit_of_mem_natChars h) (Nat.toDigits_ne_nil (n := n)) rest
  rcases natChars_cases n with h | ⟨d, ds, h, hd⟩
  · rw [h]
    rfl
  · rw [h, List.cons_append] at hread ⊢
    unfold wholePart?
    split
    next he => exact absurd (List.cons.inj he).1 hd
    · exact hread

theorem spanDigits_rest (hd : ∀ c ∈ ds, c.isDigit = true) (count : Nat) (rest : List Char) :
    ∃ c cs, (spanDigits count (ds ++ '\n' :: rest)).2 = c :: cs ∧ (c.isDigit = true ∨ c = '\n') := by
  induction ds generalizing count with
  | nil => cases count <;> exact ⟨'\n', rest, rfl, .inr rfl⟩
  | cons d ds ih =>
    obtain ⟨hc, hds⟩ := List.forall_mem_cons.mp hd
    cases count with
    | zero => exact ⟨d, _, rfl, .inl hc⟩
    | succ count =>
      obtain ⟨c, cs, h, hcs⟩ := ih hds count
      exact ⟨c, cs, by simp [spanDigits, hc, h], hcs⟩

theorem dropLead?_field? {count low high : Nat} {r : Nat × List Char} {mark : Char}
    (hd : ∀ c ∈ ds, c.isDigit = true) (hmark : mark.isDigit = false) (hbreak : mark ≠ '\n')
    (h : field? count low high (ds ++ '\n' :: rest) = some r) : dropLead? [mark] r.2 = none := by
  obtain ⟨c, cs, hspan, hc⟩ := spanDigits_rest hd count rest
  unfold field? at h
  obtain ⟨-, h⟩ := Option.ite_none_right_eq_some.mp h
  cases h
  rw [hspan]
  have hne : ¬ mark = c := by
    rcases hc with hc | rfl
    · exact (ne_of_isDigit hc hmark).symm
    · exact hbreak
  simp [dropLead?, hne]

theorem datetime?_digits (hd : ∀ c ∈ ds, c.isDigit = true) (rest : List Char) :
    datetime? (ds ++ '\n' :: rest) = none := by
  have hdate : date? (ds ++ '\n' :: rest) = none := by
    unfold date?
    cases hf : field? 4 0 9999 (ds ++ '\n' :: rest) with
    | none => rfl
    | some r =>
      have hmark : dropLead? ['-'] r.2 = none := dropLead?_field? hd rfl (by decide) hf
      simp [hmark]
  have htime : time? 23 (ds ++ '\n' :: rest) = none := by
    unfold time?
    cases hf : field? 2 0 23 (ds ++ '\n' :: rest) with
    | none => rfl
    | some r =>
      have hmark : dropLead? [':'] r.2 = none := dropLead?_field? hd rfl (by decide) hf
      simp [hmark]
  unfold datetime?
  rw [hdate, htime]
  rfl

theorem datetime?_minus (cs : List Char) : datetime? ('-' :: cs) = none := by
  simp [datetime?, date?, time?, field?, spanDigits]

theorem sign_natChars (n : Nat) (rest : List Char) :
    sign (natChars n ++ rest) = (false, natChars n ++ rest) := by
  obtain ⟨d, ds, h, hd⟩ := natChars_head n
  rw [h, List.cons_append]
  unfold sign
  split
  next he => exact absurd (List.cons.inj he).1 (ne_of_isDigit hd rfl)
  next he => exact absurd (List.cons.inj he).1 (ne_of_isDigit hd rfl)
  · rfl

theorem dropLead?_natChars (n : Nat) (rest : List Char) {l : Char} (hl : l.isDigit = false) (lead : List Char) :
    dropLead? (l :: lead) (natChars n ++ rest) = none := by
  obtain ⟨d, ds, h, hd⟩ := natChars_head n
  have hne : ¬ l = d := (ne_of_isDigit hd hl).symm
  rw [h, List.cons_append, dropLead?, if_neg hne]

theorem real?_of_sign {negative : Bool} {cs : List Char} {n : Nat}
    (h : sign cs = (negative, natChars n ++ '\n' :: rest)) : real? cs = none := by
  unfold real?
  rw [h]
  dsimp only
  rw [dropLead?_natChars n _ rfl, dropLead?_natChars n _ rfl]
  dsimp only
  rw [wholePart?_natChars]
  rfl

theorem integer?_natChars {n : Nat} (hn : n < signedBound) (rest : List Char) :
    integer? (natChars n ++ '\n' :: rest) = some ((n : Int), '\n' :: rest) := by
  have hplain : ∀ c cs, natChars n ++ '\n' :: rest = '0' :: c :: cs → c = '\n' := by
    intro c cs he
    rcases natChars_cases n with h | ⟨d, ds, h, hd⟩
    · rw [h] at he
      exact ((List.cons.inj (List.cons.inj he).2).1).symm
    · rw [h] at he
      exact absurd (List.cons.inj he).1 hd
  unfold integer?
  split
  next he => exact absurd (hplain _ _ he) (by decide)
  next he => exact absurd (hplain _ _ he) (by decide)
  next he => exact absurd (hplain _ _ he) (by decide)
  · simp [sign_natChars, wholePart?_natChars, Text.natOf_natChars, hn]

theorem integer?_minus {n : Nat} (hn : n ≤ signedBound) (rest : List Char) :
    integer? ('-' :: natChars n ++ '\n' :: rest) = some (-(n : Int), '\n' :: rest) := by
  simp [integer?, sign, wholePart?_natChars, Text.natOf_natChars, hn]

/-- **An integer** is read back on its line. -/
theorem integer?_intChars {n : Int} (hlow : -(signedBound : Int) ≤ n) (hhigh : n < signedBound) (rest : List Char) :
    datetime? (intChars n ++ '\n' :: rest) = none ∧ real? (intChars n ++ '\n' :: rest) = none ∧
      integer? (intChars n ++ '\n' :: rest) = some (n, '\n' :: rest) := by
  cases n with
  | ofNat n =>
    have hn : n < signedBound := by
      have h : (n : Int) < signedBound := hhigh
      omega
    exact ⟨datetime?_digits (fun _ h => isDigit_of_mem_natChars h) rest, real?_of_sign (sign_natChars n _),
      integer?_natChars hn rest⟩
  | negSucc n =>
    have hn : n + 1 ≤ signedBound := by omega
    have hvalue : (-((n + 1 : Nat) : Int)) = Int.negSucc n := rfl
    rw [← hvalue]
    exact ⟨datetime?_minus _, real?_of_sign (n := n + 1) rfl, integer?_minus hn rest⟩

/-! ## Values on a line -/

/-- A text or an integer of 64 bits. -/
inductive Leaf : Toml → Prop
  | string (s : String) : Leaf (.string s)
  | integer {n : Int} (low : -(signedBound : Int) ≤ n) (high : n < signedBound) : Leaf (.integer n)

theorem Leaf.not_table {v : Toml} (h : Leaf v) : isTable v = false := by cases h <;> rfl

theorem stringChars_head (cs : List Char) : ∃ c t, stringChars cs = c :: t ∧ (c = '"' ∨ c = '\'') := by
  unfold stringChars
  cases formOf cs with
  | basic => exact ⟨'"', _, rfl, .inl rfl⟩
  | literal => exact ⟨'\'', _, rfl, .inr rfl⟩
  | multiBasic => exact ⟨'"', _, rfl, .inl rfl⟩
  | multiLiteral => exact ⟨'\'', _, rfl, .inr rfl⟩

theorem intChars_head (n : Int) : ∃ c t, intChars n = c :: t ∧ (c = '-' ∨ c.isDigit = true) := by
  cases n with
  | ofNat n =>
    obtain ⟨d, ds, h, hd⟩ := natChars_head n
    exact ⟨d, ds, h, .inr hd⟩
  | negSucc n => exact ⟨'-', _, rfl, .inl rfl⟩

/-- **A text or an integer** is read back on its line. -/
theorem scalar?_valueChars {v : Toml} (h : Leaf v) (rest : List Char) :
    scalar? (valueChars v ++ '\n' :: rest) = some (v, '\n' :: rest) := by
  cases h with
  | string s =>
    have hread : string? (stringChars s.toList ++ '\n' :: rest) = some (String.ofList s.toList, '\n' :: rest) :=
      string?_stringChars (fun c hc => by cases hc; decide) s.toList
    rw [String.ofList_toList] at hread
    obtain ⟨c, t, he, hc⟩ := stringChars_head s.toList
    rw [valueChars]
    rw [he, List.cons_append] at hread ⊢
    rw [scalar?, if_pos hc, hread]
    rfl
  | @integer n low high =>
    obtain ⟨hdate, hreal, hint⟩ := integer?_intChars low high rest
    obtain ⟨c, t, he, hc⟩ := intChars_head n
    rw [valueChars]
    rw [he, List.cons_append] at hdate hreal hint ⊢
    have hne : ∀ d : Char, d ≠ '-' → d.isDigit = false → c ≠ d := by
      intro d hd hdigit
      rcases hc with rfl | hc
      · exact hd.symm
      · exact ne_of_isDigit hc hdigit
    rw [scalar?, if_neg (not_or.mpr ⟨hne _ (by decide) rfl, hne _ (by decide) rfl⟩), if_neg (hne _ (by decide) rfl),
      if_neg (hne _ (by decide) rfl), hdate, hreal, hint]

theorem valueChars_head {v : Toml} (h : Leaf v) :
    ∃ c t, valueChars v = c :: t ∧ isBlank c = false ∧ c ≠ '[' ∧ c ≠ '\x7b' := by
  cases h with
  | string s =>
    obtain ⟨c, t, he, rfl | rfl⟩ := stringChars_head s.toList
    · exact ⟨_, t, he, by decide⟩
    · exact ⟨_, t, he, by decide⟩
  | @integer n _ _ =>
    obtain ⟨c, t, he, rfl | hc⟩ := intChars_head n
    · exact ⟨_, t, he, by decide⟩
    · refine ⟨c, t, he, ?_, ne_of_isDigit hc rfl, ne_of_isDigit hc rfl⟩
      unfold isBlank
      simp [ne_of_isDigit hc (d := ' ') rfl, ne_of_isDigit hc (d := '\t') rfl]

theorem value?_valueChars {v : Toml} (h : Leaf v) (fuel depth : Nat) (rest : List Char) :
    value? (fuel + 1) depth (valueChars v ++ '\n' :: rest) = some (v, '\n' :: rest) := by
  have hread := scalar?_valueChars h rest
  obtain ⟨c, t, he, -, hbracket, hbrace⟩ := valueChars_head h
  rw [he, List.cons_append] at hread ⊢
  rw [value?.eq_def]
  dsimp only
  split
  next heq => exact absurd (List.cons.inj heq).1 hbracket
  next heq => exact absurd (List.cons.inj heq).1 hbrace
  · exact hread

/-! ## Lines -/

theorem skipBlanks_of_not_blank (h : isBlank c = false) (cs : List Char) : skipBlanks (c :: cs) = c :: cs := by
  simp [skipBlanks, h]

theorem not_blank_of_isKeyChar (h : isKeyChar c = true) : isBlank c = false := by
  cases hb : isBlank c with
  | false => rfl
  | true =>
    have hcases : c = ' ' ∨ c = '\t' := by simpa [isBlank] using hb
    rcases hcases with rfl | rfl <;> cases h

theorem keyText_start (k : String) : ∃ c t, keyText k = c :: t ∧ isBlank c = false ∧
    c ≠ '#' ∧ c ≠ '\n' ∧ c ≠ '\r' ∧ c ≠ '[' ∧ c ≠ '\ufeff' := by
  obtain ⟨c, t, he, hc | rfl | rfl⟩ := keyText_head k
  · have hne : ∀ d, isKeyChar d = false → c ≠ d := fun d hd he => by rw [he, hd] at hc; cases hc
    exact ⟨c, t, he, not_blank_of_isKeyChar hc, hne _ rfl, hne _ rfl, hne _ rfl, hne _ rfl, hne _ rfl⟩
  · exact ⟨_, t, he, by decide⟩
  · exact ⟨_, t, he, by decide⟩

theorem entryLine_start (e : String × Toml) : ∃ c t, entryLine e = c :: t ∧ isBlank c = false ∧
    c ≠ '#' ∧ c ≠ '\n' ∧ c ≠ '\r' ∧ c ≠ '[' ∧ c ≠ '\ufeff' := by
  obtain ⟨c, t, he, hc⟩ := keyText_start e.1
  exact ⟨c, _, by rw [entryLine, he]; rfl, hc⟩

theorem key?_keyText (k : String) (fuel : Nat) (blanks : List Char) (hblanks : ∀ c ∈ blanks, c = ' ') (mark : Char)
    (hmark : isKeyChar mark = false) (hpoint : mark ≠ '.') (hblank : isBlank mark = false)
    (rest : List Char) :
    key? (fuel + 1) (keyText k ++ (blanks ++ mark :: rest)) = some (([], k), mark :: rest) := by
  have hskip : skipBlanks (keyText k ++ (blanks ++ mark :: rest)) = keyText k ++ (blanks ++ mark :: rest) := by
    obtain ⟨c, t, he, hc, -⟩ := keyText_start k
    rw [he]
    exact skipBlanks_of_not_blank hc _
  have hrest : ∀ c, (blanks ++ mark :: rest).head? = some c → isKeyChar c = false := by
    intro c hc
    cases blanks with
    | nil => cases hc; exact hmark
    | cons b blanks =>
      have hb : b = ' ' := hblanks b (List.mem_cons_self ..)
      cases hc
      rw [hb]
      rfl
  have hskip' : skipBlanks (blanks ++ mark :: rest) = mark :: rest := by
    have hall : ∀ c ∈ blanks, isBlank c = true := fun c hc => by rw [hblanks c hc]; rfl
    unfold skipBlanks
    rw [List.dropWhile_append_of_pos hall]
    exact skipBlanks_of_not_blank hblank rest
  rw [key?, hskip, simpleKey?_keyText hrest]
  simp only [Option.bind_eq_bind, Option.bind_some, hskip']
  split
  next heq => exact absurd (List.cons.inj heq).1 hpoint
  · rfl

theorem lineEnd?_break (rest : List Char) : lineEnd? ('\n' :: rest) = some rest := rfl

/-- **The line of an entry** is read back. -/
theorem pair?_entryLine {v : Toml} (hv : Leaf v) (k : String) (rest : List Char) :
    pair? (entryLine (k, v) ++ rest) = some (.pair [] k v, rest) := by
  obtain ⟨c, t, he, hblank, -⟩ := valueChars_head hv
  have hkey := key?_keyText k 78 [' '] (by simp) '=' rfl (by decide) rfl
    (' ' :: (valueChars v ++ '\n' :: rest))
  have hskip : skipBlanks (' ' :: (valueChars v ++ '\n' :: rest)) = valueChars v ++ '\n' :: rest := by
    rw [he, List.cons_append]
    exact skipBlanks_of_not_blank hblank _
  unfold pair? entryLine
  simp only [List.append_assoc, List.cons_append, List.nil_append] at hkey ⊢
  rw [show maxParts = 78 + 1 from rfl, hkey]
  simp [dropLead?, hskip, value?_valueChars hv, lineEnd?_break]

/-- **The line of a header** of one part is read back. -/
theorem header?_headerLine (k : String) (rest : List Char) :
    header? (headerLine [k] ++ rest) = some (.header [] k, rest) := by
  have hkey := key?_keyText k 78 [] (by simp) ']' rfl (by decide) rfl ('\n' :: rest)
  have hlead : dropLead? ['[', '['] ('[' :: (keyText k ++ (']' :: '\n' :: rest))) = none := by
    obtain ⟨c, t, he, -, -, -, -, hc, -⟩ := keyText_start k
    rw [he]
    simp [dropLead?, hc.symm]
  unfold header? headerLine pathChars
  simp only [List.map_cons, List.map_nil, List.intercalate_singleton, List.cons_append, List.append_assoc,
    List.nil_append] at hkey ⊢
  rw [hlead, show maxParts = 78 + 1 from rfl]
  simp [dropLead?, hkey, lineEnd?_break]

/-! ## What lines say -/

/-- The statements of a text, which are found by any fuel beyond its length. -/
def Says (cs : List Char) (ss : List Statement) : Prop := ∀ fuel, cs.length < fuel → statements? fuel cs = some ss

def Speaks (cs : List Char) (ss : List Statement) : Prop :=
  ∀ rest more, Says rest more → Says (cs ++ rest) (ss ++ more)

theorem says_nil : Says [] [] := by
  intro fuel h
  obtain ⟨fuel, rfl⟩ := Nat.exists_eq_succ_of_ne_zero (Nat.ne_zero_of_lt h)
  rfl

namespace Speaks

theorem alone {cs : List Char} {ss : List Statement} (h : Speaks cs ss) : Says cs ss := by
  have hsays := h [] [] says_nil
  rwa [List.append_nil, List.append_nil] at hsays

theorem nil : Speaks [] [] := fun _ _ h => h

theorem append {cs cs' : List Char} {ss ss' : List Statement} (h : Speaks cs ss) (h' : Speaks cs' ss') :
    Speaks (cs ++ cs') (ss ++ ss') := by
  intro rest more hrest
  rw [List.append_assoc, List.append_assoc]
  exact h _ _ (h' _ _ hrest)

theorem blank : Speaks ['\n'] [] := by
  intro rest more hrest fuel h
  obtain ⟨fuel, rfl⟩ := Nat.exists_eq_succ_of_ne_zero (Nat.ne_zero_of_lt h)
  have hread := hrest fuel (by simpa using h)
  simpa [statements?, skipBlanks, isBlank, lineEnd?, skipComment, newline?] using hread

theorem pair {v : Toml} (hv : Leaf v) (k : String) : Speaks (entryLine (k, v)) [.pair [] k v] := by
  intro rest more hrest fuel h
  obtain ⟨fuel, rfl⟩ := Nat.exists_eq_succ_of_ne_zero (Nat.ne_zero_of_lt h)
  have hline := pair?_entryLine hv k rest
  obtain ⟨c, t, he, hblank, hcomment, hfeed, hreturn, hbracket, -⟩ := entryLine_start (k, v)
  rw [he, List.cons_append] at hline h ⊢
  have hread := hrest fuel (by simp only [List.length_cons, List.length_append] at h; omega)
  simp [statements?, skipBlanks_of_not_blank hblank, hcomment, hfeed, hreturn, hbracket, hline, hread]

theorem header (k : String) : Speaks (headerLine [k]) [.header [] k] := by
  intro rest more hrest fuel h
  obtain ⟨fuel, rfl⟩ := Nat.exists_eq_succ_of_ne_zero (Nat.ne_zero_of_lt h)
  have hline := header?_headerLine k rest
  obtain ⟨t, he⟩ : ∃ t, headerLine [k] = '[' :: t := ⟨_, rfl⟩
  rw [he, List.cons_append] at hline h ⊢
  have hread := hrest fuel (by simp only [List.length_cons, List.length_append] at h; omega)
  simp [statements?, skipBlanks_of_not_blank (show isBlank '[' = false from rfl), hline, hread]

theorem entries {es : Entries} (h : ∀ e ∈ es, Leaf e.2) :
    Speaks (es.flatMap entryLine) (es.map fun e => .pair [] e.1 e.2) := by
  induction es with
  | nil => exact nil
  | cons e es ih =>
    obtain ⟨he, hes⟩ := List.forall_mem_cons.mp h
    exact (pair he e.1).append (ih hes)

theorem intercalate {α : Type} (block : α → List Char) (said : α → List Statement) :
    ∀ xs : List α, (∀ x ∈ xs, Speaks (block x) (said x)) → Speaks (['\n'].intercalate (xs.map block)) (xs.flatMap said)
  | [], _ => nil
  | [x], h => by simpa using h x (by simp)
  | x :: y :: xs, h => by
    have hrest := intercalate block said (y :: xs) (fun z hz => h z (List.mem_cons_of_mem _ hz))
    have happend := ((h x (by simp)).append blank).append hrest
    simpa [List.intercalate_cons_of_ne_nil] using happend

end Speaks

end Toml
end CalcConsole
