import CalcConsole.Json.Printer
import CalcConsole.Json.Reader
/-! # Texts that spell a value

`Spells v cs` says that `cs` is a text of the value `v`, with blanks wherever JSON allows them.  A text that spells a
value reads as that value (`readValue_of_spells`), whatever stands behind it, and the texts that are written spell what
they were written from. -/
namespace CalcConsole
namespace Json

def Blanks (ws : List Char) : Prop := ∀ c ∈ ws, isSpace c = true

theorem blanks_nil : Blanks [] := fun _ h => (by cases h)

theorem blanks_space : Blanks [' '] := by
  intro c hc
  rw [List.mem_singleton.mp hc]
  decide

theorem skipSpace_append {ws : List Char} (h : Blanks ws) (cs : List Char) : skipSpace (ws ++ cs) = skipSpace cs := by
  unfold skipSpace
  rw [List.dropWhile_append_of_pos h]

theorem skipSpace_cons {c : Char} (h : isSpace c = false) (cs : List Char) : skipSpace (c :: cs) = c :: cs :=
  List.dropWhile_cons_of_neg (by rw [h]; decide)

/-! ## Strings -/

/-- The characters that have an escape of one letter. -/
def lettered : List Char := ['"', '\\', '\x08', '\t', '\n', '\x0c', '\r']

theorem readPieces_of_lettered {c : Char} (h : c ∈ lettered) (rest : List Char) :
    readPieces (escapedChar c ++ rest) = (readPieces rest).map fun r => (.char c :: r.1, r.2) := by
  simp only [lettered, List.mem_cons, List.not_mem_nil, or_false] at h
  rcases h with rfl | rfl | rfl | rfl | rfl | rfl | rfl <;> rfl

theorem escapedChar_of_not_lettered {c : Char} (h : c ∉ lettered) : escapedChar c =
    if c.toNat < 0x20 then ['\\', 'u', '0', '0', Text.hexLower (c.toNat / 16), Text.hexLower (c.toNat % 16)]
    else [c] := by
  simp only [lettered, List.mem_cons, List.not_mem_nil, or_false, not_or] at h
  obtain ⟨h1, h2, h3, h4, h5, h6, h7⟩ := h
  unfold escapedChar
  rw [if_neg h1, if_neg h2, if_neg h3, if_neg h4, if_neg h5, if_neg h6, if_neg h7]

theorem ofUnit_of_control {c : Char} (h : c.toNat < 0x20) : Piece.ofUnit c.toNat = .char c := by
  have hh : isHigh c.toNat = false := by unfold isHigh; simp; omega
  have hl : isLow c.toNat = false := by unfold isLow; simp; omega
  unfold Piece.ofUnit
  rw [hh, hl, Char.ofNat_toNat]
  rfl

theorem unit?_of_control {c : Char} (h : c.toNat < 0x20) :
    unit? '0' '0' (Text.hexLower (c.toNat / 16)) (Text.hexLower (c.toNat % 16)) = some c.toNat := by
  have h0 : Text.hexValue? '0' = some 0 := by decide
  have h1 := Text.hexValue?_hexLower (c.toNat / 16) (by omega)
  have h2 := Text.hexValue?_hexLower (c.toNat % 16) (by omega)
  unfold unit?
  rw [h0, h1, h2]
  exact congrArg some (by omega)

theorem readPieces_escapedChar (c : Char) (rest : List Char) :
    readPieces (escapedChar c ++ rest) = (readPieces rest).map fun r => (.char c :: r.1, r.2) := by
  by_cases hc : c ∈ lettered
  · exact readPieces_of_lettered hc rest
  rw [escapedChar_of_not_lettered hc]
  by_cases hlow : c.toNat < 0x20
  · rw [if_pos hlow]
    show readPieces ('\\' :: 'u' :: '0' :: '0' :: _ :: _ :: rest) = _
    rw [readPieces, unit?_of_control hlow]
    dsimp only
    rw [ofUnit_of_control hlow]
  · rw [if_neg hlow]
    have hquote : c ≠ '"' := fun he => hc (by rw [he]; decide)
    have hslash : c ≠ '\\' := fun he => hc (by rw [he]; decide)
    show readPieces (c :: rest) = _
    rw [readPieces.eq_def]
    split
    · simp_all
    · simp_all
    · simp_all
    · simp_all
    · rename_i he
      cases he
      rw [if_neg (by simp [hslash, hlow])]

theorem readPieces_string (cs rest : List Char) :
    readPieces (cs.flatMap escapedChar ++ '"' :: rest) = some (cs.map .char, rest) := by
  induction cs with
  | nil => rfl
  | cons c cs ih =>
    rw [List.flatMap_cons, List.append_assoc, readPieces_escapedChar, ih]
    rfl

theorem joinPieces_chars (cs : List Char) : joinPieces (cs.map .char) = some cs := by
  induction cs with
  | nil => rfl
  | cons c cs ih =>
    rw [List.map_cons, joinPieces, ih]
    rfl

/-- **A string reads back**, whatever its characters are. -/
theorem readString_string (s : String) (rest : List Char) :
    readString (s.toList.flatMap escapedChar ++ '"' :: rest) = some (some s, rest) := by
  unfold readString
  rw [readPieces_string, Option.map_some, joinPieces_chars, Option.map_some, String.ofList_toList]

/-! ## Values -/

/-- What may stand behind a value: nothing, a blank, or a mark. -/
def Ends (rest : List Char) : Prop := ∀ c ∈ rest.head?, isSpace c = true ∨ c = ',' ∨ c = ']' ∨ c = '\x7d'

def SpellsNumber (n : Number) (cs : List Char) : Prop :=
  (∃ c t, cs = c :: t ∧ (c = '-' ∨ c.isDigit = true)) ∧ ∀ rest, Ends rest → readNumber (cs ++ rest) = some (n, rest)

mutual

def Spells : Json → List Char → Prop
  | .null, cs => cs = ['n', 'u', 'l', 'l']
  | .bool true, cs => cs = ['t', 'r', 'u', 'e']
  | .bool false, cs => cs = ['f', 'a', 'l', 's', 'e']
  | .number n, cs => SpellsNumber n cs
  | .string (some s), cs => cs = stringChars s.toList
  | .string none, _ => False
  | .array [], cs => ∃ ws, Blanks ws ∧ cs = '[' :: ws ++ [']']
  | .array (v :: vs), cs => ∃ body, SpellsItems (v :: vs) body ∧ cs = '[' :: body ++ [']']
  | .object [], cs => ∃ ws, Blanks ws ∧ cs = '\x7b' :: ws ++ ['\x7d']
  | .object (m :: ms), cs => ∃ body, SpellsMembers (m :: ms) body ∧ cs = '\x7b' :: body ++ ['\x7d']
  | .broken, _ => False

def SpellsItems : List Json → List Char → Prop
  | [], _ => False
  | v :: vs, cs => ∃ lead body trail, Blanks lead ∧ Spells v body ∧ Blanks trail ∧
      (vs = [] ∧ cs = lead ++ body ++ trail ∨
        ∃ more, SpellsItems vs more ∧ cs = lead ++ body ++ trail ++ ',' :: more)

def SpellsMembers : List (Option String × Json) → List Char → Prop
  | [], _ => False
  | m :: ms, cs => ∃ k lead inner first body trail, m.1 = some k ∧ Blanks lead ∧ Blanks inner ∧ Blanks first ∧
      Spells m.2 body ∧ Blanks trail ∧
      (ms = [] ∧ cs = lead ++ stringChars k.toList ++ inner ++ ':' :: first ++ body ++ trail ∨
        ∃ more, SpellsMembers ms more ∧
          cs = lead ++ stringChars k.toList ++ inner ++ ':' :: first ++ body ++ trail ++ ',' :: more)

end

theorem not_isSpace_of_isDigit {c : Char} (h : c = '-' ∨ c.isDigit = true) :
    isSpace c = false ∧ c ≠ '"' ∧ c ≠ 'n' ∧ c ≠ 't' ∧ c ≠ 'f' ∧ c ≠ '[' ∧ c ≠ ']' ∧ c ≠ '\x7b' ∧ c ≠ '\x7d' := by
  rcases h with rfl | h
  · decide
  · have hne : ∀ d : Char, d.isDigit = false → c ≠ d := fun d hd he => by rw [he, hd] at h; cases h
    refine ⟨?_, hne _ rfl, hne _ rfl, hne _ rfl, hne _ rfl, hne _ rfl, hne _ rfl, hne _ rfl, hne _ rfl⟩
    unfold isSpace
    simp [hne ' ' rfl, hne '\n' rfl, hne '\t' rfl, hne '\r' rfl]

theorem Spells.head {v : Json} {cs : List Char} (h : Spells v cs) :
    ∃ c t, cs = c :: t ∧ isSpace c = false ∧ c ≠ ']' ∧ c ≠ '\x7d' := by
  cases v with
  | null => rw [Spells] at h; exact ⟨'n', _, h, by decide⟩
  | bool b =>
    cases b with
    | true => rw [Spells] at h; exact ⟨'t', _, h, by decide⟩
    | false => rw [Spells] at h; exact ⟨'f', _, h, by decide⟩
  | number n =>
    rw [Spells] at h
    obtain ⟨⟨c, t, rfl, hc⟩, -⟩ := h
    obtain ⟨h1, -, -, -, -, -, h2, -, h3⟩ := not_isSpace_of_isDigit hc
    exact ⟨c, t, rfl, h1, h2, h3⟩
  | string s =>
    cases s with
    | none => rw [Spells] at h; exact h.elim
    | some s => rw [Spells] at h; exact ⟨'"', _, h, by decide⟩
  | array vs =>
    cases vs with
    | nil => rw [Spells] at h; obtain ⟨ws, -, rfl⟩ := h; exact ⟨'[', _, rfl, by decide⟩
    | cons v vs => rw [Spells] at h; obtain ⟨body, -, rfl⟩ := h; exact ⟨'[', _, rfl, by decide⟩
  | object ms =>
    cases ms with
    | nil => rw [Spells] at h; obtain ⟨ws, -, rfl⟩ := h; exact ⟨'\x7b', _, rfl, by decide⟩
    | cons m ms => rw [Spells] at h; obtain ⟨body, -, rfl⟩ := h; exact ⟨'\x7b', _, rfl, by decide⟩
  | broken => rw [Spells] at h; exact h.elim

theorem ends_cons {c : Char} (h : isSpace c = true ∨ c = ',' ∨ c = ']' ∨ c = '\x7d') (t : List Char) :
    Ends (c :: t) := by
  intro d hd
  cases hd
  exact h

theorem ends_nil : Ends [] := fun _ h => (by cases h)

theorem ends_comma (t : List Char) : Ends (',' :: t) := ends_cons (by decide) t

theorem ends_bracket (t : List Char) : Ends (']' :: t) := ends_cons (by decide) t

theorem ends_brace (t : List Char) : Ends ('\x7d' :: t) := ends_cons (by decide) t

theorem ends_append {ws rest : List Char} (hw : Blanks ws) (h : Ends rest) : Ends (ws ++ rest) := by
  cases ws with
  | nil => exact h
  | cons c ws => exact ends_cons (.inl (hw c List.mem_cons_self)) _

theorem skipSpace_idem (cs : List Char) : skipSpace (skipSpace cs) = skipSpace cs := by
  unfold skipSpace
  induction cs with
  | nil => rfl
  | cons c cs ih =>
    by_cases hc : isSpace c = true
    · rw [List.dropWhile_cons_of_pos hc, ih]
    · rw [List.dropWhile_cons_of_neg hc, List.dropWhile_cons_of_neg hc]

theorem readValue_skipSpace (fuel : Nat) (cs : List Char) : readValue fuel (skipSpace cs) = readValue fuel cs := by
  cases fuel with
  | zero => rfl
  | succ fuel => rw [readValue, readValue, skipSpace_idem]

theorem readItems_skipSpace (fuel : Nat) (cs : List Char) : readItems fuel (skipSpace cs) = readItems fuel cs := by
  cases fuel with
  | zero => rfl
  | succ fuel => rw [readItems, readItems, readValue_skipSpace]

theorem readMembers_skipSpace (fuel : Nat) (cs : List Char) :
    readMembers fuel (skipSpace cs) = readMembers fuel cs := by
  cases fuel with
  | zero => rfl
  | succ fuel => rw [readMembers, readMembers, skipSpace_idem]

theorem readValue_append {ws : List Char} (h : Blanks ws) (fuel : Nat) (cs : List Char) :
    readValue fuel (ws ++ cs) = readValue fuel cs := by
  rw [← readValue_skipSpace, skipSpace_append h, readValue_skipSpace]

theorem readValue_scalar {c : Char} (hs : isSpace c = false) (ha : c ≠ '[') (ho : c ≠ '\x7b') (fuel : Nat)
    (t : List Char) : readValue (fuel + 1) (c :: t) =
      readScalar (c :: t) := by
  rw [readValue, skipSpace_cons hs]
  split
  · rename_i he
    exact absurd (List.cons.inj he).1 ha
  · rename_i he
    exact absurd (List.cons.inj he).1 ho
  · rfl

theorem readScalar_number {n : Number} {cs : List Char} (h : SpellsNumber n cs) {rest : List Char} (hr : Ends rest) :
    readScalar (cs ++ rest) = (.number n, some rest) := by
  obtain ⟨⟨c, t, rfl, hc⟩, hread⟩ := h
  have hread := hread rest hr
  obtain ⟨-, h1, h2, h3, h4, -⟩ := not_isSpace_of_isDigit hc
  rw [List.cons_append] at hread ⊢
  unfold readScalar
  split
  · rename_i he; exact absurd (List.cons.inj he).1 h1
  · rename_i he; exact absurd (List.cons.inj he).1 h2
  · rename_i he; exact absurd (List.cons.inj he).1 h3
  · rename_i he; exact absurd (List.cons.inj he).1 h4
  · rw [hread]

theorem readScalar_string (s : String) (rest : List Char) :
    readScalar (stringChars s.toList ++ rest) = (.string (some s), some rest) := by
  have h := readString_string s rest
  unfold stringChars
  rw [List.append_assoc, List.singleton_append, List.cons_append, readScalar, h]

/-! Every step of the reader looks at one mark.  The lemmas that follow say so for each mark, since a comparison with a
character does not reduce by itself. -/

theorem readValue_bracket (fuel : Nat) (r : List Char) : readValue (fuel + 1) ('[' :: r) = match skipSpace r with
    | ']' :: rest => (array [], some rest)
    | r => (array (readItems fuel r).1, (readItems fuel r).2) := by
  rw [readValue, skipSpace_cons (by decide)]
  rfl

theorem readValue_array {r : List Char} {fuel : Nat} {c : Char} {t : List Char} (hr : skipSpace r = c :: t)
    (hc : c ≠ ']') : readValue (fuel + 1) ('[' :: r) = (.array (readItems fuel r).1, (readItems fuel r).2) := by
  rw [readValue_bracket, ← readItems_skipSpace, hr]
  split
  · rename_i he
    exact absurd (List.cons.inj he).1 hc
  · rfl

theorem readValue_array_nil {r rest : List Char} {fuel : Nat} (hr : skipSpace r = ']' :: rest) :
    readValue (fuel + 1) ('[' :: r) = (.array [], some rest) := by
  rw [readValue_bracket, hr]
  rfl

theorem readValue_brace (fuel : Nat) (r : List Char) : readValue (fuel + 1) ('\x7b' :: r) = match skipSpace r with
    | '\x7d' :: rest => (object [], some rest)
    | r => (object (readMembers fuel r).1, (readMembers fuel r).2) := by
  rw [readValue, skipSpace_cons (by decide)]
  rfl

theorem readValue_object {r : List Char} {fuel : Nat} {c : Char} {t : List Char} (hr : skipSpace r = c :: t)
    (hc : c ≠ '\x7d') :
    readValue (fuel + 1) ('\x7b' :: r) = (.object (readMembers fuel r).1, (readMembers fuel r).2) := by
  rw [readValue_brace, ← readMembers_skipSpace, hr]
  split
  · rename_i he
    exact absurd (List.cons.inj he).1 hc
  · rfl

theorem readValue_object_nil {r rest : List Char} {fuel : Nat} (hr : skipSpace r = '\x7d' :: rest) :
    readValue (fuel + 1) ('\x7b' :: r) = (.object [], some rest) := by
  rw [readValue_brace, hr]
  rfl

theorem readItems_last {cs r rest : List Char} {fuel : Nat} {v : Json} (hv : readValue fuel cs = (v, some r))
    (hr : skipSpace r = ']' :: rest) : readItems (fuel + 1) cs = ([v], some rest) := by
  rw [readItems, hv]
  dsimp only
  rw [hr]
  rfl

theorem readItems_more {cs r more : List Char} {fuel : Nat} {v : Json} (hv : readValue fuel cs = (v, some r))
    (hr : skipSpace r = ',' :: more) :
    readItems (fuel + 1) cs = (v :: (readItems fuel more).1, (readItems fuel more).2) := by
  rw [readItems, hv]
  dsimp only
  rw [hr]
  rfl

def afterMember (fuel : Nat) (k : Option String) (v : Json) (cs : List Char) :
    List (Option String × Json) × Option (List Char) :=
  match skipSpace cs with
  | ',' :: r => ((k, v) :: (readMembers fuel r).1, (readMembers fuel r).2)
  | '\x7d' :: rest => ([(k, v)], some rest)
  | _ => ([(k, v), (none, .broken)], none)

section Member

variable {cs r r₁ r₂ r₃ rest : List Char} {fuel : Nat} {k : Option String} {v : Json}
  (hcs : skipSpace cs = '"' :: r) (hk : readString r = some (k, r₁)) (hr : skipSpace r₁ = ':' :: r₂)
  (hv : readValue fuel r₂ = (v, some r₃))

include hcs hk hr hv

theorem readMembers_member : readMembers (fuel + 1) cs = afterMember fuel k v r₃ := by
  rw [readMembers, hcs]
  simp only [hk, hr, hv]
  rfl

theorem readMembers_last (h : skipSpace r₃ = '\x7d' :: rest) : readMembers (fuel + 1) cs = ([(k, v)], some rest) := by
  rw [readMembers_member hcs hk hr hv, afterMember, h]
  rfl

theorem readMembers_more (h : skipSpace r₃ = ',' :: rest) :
    readMembers (fuel + 1) cs = ((k, v) :: (readMembers fuel rest).1, (readMembers fuel rest).2) := by
  rw [readMembers_member hcs hk hr hv, afterMember, h]
  rfl

end Member

theorem SpellsItems.head {vs : List Json} {cs : List Char} (h : SpellsItems vs cs) (rest : List Char) :
    ∃ c t, skipSpace (cs ++ rest) = c :: t ∧ c ≠ ']' := by
  cases vs with
  | nil => rw [SpellsItems] at h; exact h.elim
  | cons v vs =>
    rw [SpellsItems] at h
    obtain ⟨lead, body, trail, hlead, hbody, -, hcs⟩ := h
    obtain ⟨c, t, rfl, hs, hc, -⟩ := hbody.head
    rcases hcs with ⟨-, rfl⟩ | ⟨more, -, rfl⟩
    all_goals
      simp only [List.append_assoc]
      rw [skipSpace_append hlead, List.cons_append, skipSpace_cons hs]
      exact ⟨c, _, rfl, hc⟩

theorem SpellsMembers.head {ms : List (Option String × Json)} {cs : List Char} (h : SpellsMembers ms cs)
    (rest : List Char) : ∃ c t, skipSpace (cs ++ rest) = c :: t ∧ c ≠ '\x7d' := by
  cases ms with
  | nil => rw [SpellsMembers] at h; exact h.elim
  | cons m ms =>
    rw [SpellsMembers] at h
    obtain ⟨k, lead, inner, first, body, trail, -, hlead, -, -, -, -, hcs⟩ := h
    rcases hcs with ⟨-, rfl⟩ | ⟨more, -, rfl⟩
    all_goals
      unfold stringChars
      simp only [List.append_assoc, List.cons_append]
      rw [skipSpace_append hlead, skipSpace_cons (by decide)]
      exact ⟨'"', _, rfl, by decide⟩

mutual

/-- **A text that spells a value reads as that value**, with what stands behind it left over. -/
theorem readValue_of_spells : ∀ (v : Json) {cs : List Char}, Spells v cs → ∀ (fuel : Nat) {rest : List Char},
    2 * cs.length ≤ fuel + 1 → Ends rest → readValue fuel (cs ++ rest) = (v, some rest)
  | v, cs, h, 0, rest, hf, _ => by
    -- a text of a value is not empty, so there is fuel for it
    obtain ⟨c, t, rfl, -⟩ := h.head
    rw [List.length_cons] at hf
    omega
  | .null, cs, h, fuel + 1, rest, _, _ => by
    rw [Spells] at h
    rw [h, List.cons_append, readValue_scalar (by decide) (by decide) (by decide)]
    rfl
  | .bool true, cs, h, fuel + 1, rest, _, _ => by
    rw [Spells] at h
    rw [h, List.cons_append, readValue_scalar (by decide) (by decide) (by decide)]
    rfl
  | .bool false, cs, h, fuel + 1, rest, _, _ => by
    rw [Spells] at h
    rw [h, List.cons_append, readValue_scalar (by decide) (by decide) (by decide)]
    rfl
  | .number n, cs, h, fuel + 1, rest, _, hr => by
    rw [Spells] at h
    have hs := readScalar_number h hr
    obtain ⟨⟨c, t, rfl, hc⟩, -⟩ := h
    obtain ⟨h1, -, -, -, -, h2, -, h3, -⟩ := not_isSpace_of_isDigit hc
    rw [List.cons_append, readValue_scalar h1 h2 h3, ← List.cons_append, hs]
  | .string none, cs, h, _, _, _, _ => by
    rw [Spells] at h
    exact h.elim
  | .string (some s), cs, h, fuel + 1, rest, _, _ => by
    rw [Spells] at h
    have hs := readScalar_string s rest
    rw [h]
    unfold stringChars at hs ⊢
    rw [List.cons_append, List.cons_append] at hs ⊢
    rw [readValue_scalar (by decide) (by decide) (by decide), hs]
  | .array [], cs, h, fuel + 1, rest, _, _ => by
    rw [Spells] at h
    obtain ⟨ws, hws, rfl⟩ := h
    rw [List.cons_append, List.cons_append, List.append_assoc, List.singleton_append]
    exact readValue_array_nil (by rw [skipSpace_append hws, skipSpace_cons (by decide)])
  | .array (v :: vs), cs, h, fuel + 1, rest, hf, _ => by
    rw [Spells] at h
    obtain ⟨body, hbody, rfl⟩ := h
    obtain ⟨c, t, hc, hne⟩ := hbody.head (']' :: rest)
    simp only [List.length_cons, List.length_append, List.length_nil] at hf
    rw [List.cons_append, List.cons_append, List.append_assoc, List.singleton_append, readValue_array hc hne,
      readItems_of_spells (v :: vs) hbody fuel rest (by omega)]
  | .object [], cs, h, fuel + 1, rest, _, _ => by
    rw [Spells] at h
    obtain ⟨ws, hws, rfl⟩ := h
    rw [List.cons_append, List.cons_append, List.append_assoc, List.singleton_append]
    exact readValue_object_nil (by rw [skipSpace_append hws, skipSpace_cons (by decide)])
  | .object (m :: ms), cs, h, fuel + 1, rest, hf, _ => by
    rw [Spells] at h
    obtain ⟨body, hbody, rfl⟩ := h
    obtain ⟨c, t, hc, hne⟩ := hbody.head ('\x7d' :: rest)
    simp only [List.length_cons, List.length_append, List.length_nil] at hf
    rw [List.cons_append, List.cons_append, List.append_assoc, List.singleton_append, readValue_object hc hne,
      readMembers_of_spells (m :: ms) hbody fuel rest (by omega)]
  | .broken, cs, h, _, _, _, _ => by
    rw [Spells] at h
    exact h.elim

theorem readItems_of_spells : ∀ (vs : List Json) {cs : List Char}, SpellsItems vs cs → ∀ (fuel : Nat)
    (rest : List Char), 2 * cs.length ≤ fuel → readItems fuel (cs ++ ']' :: rest) = (vs, some rest)
  | [], cs, h, _, _, _ => by
    rw [SpellsItems] at h
    exact h.elim
  | v :: vs, cs, h, fuel, rest, hf => by
    rw [SpellsItems] at h
    obtain ⟨lead, body, trail, hlead, hbody, htrail, hcs⟩ := h
    obtain ⟨c, t, hct, -⟩ := hbody.head
    have hlen : 0 < body.length := by rw [hct]; exact Nat.succ_pos _
    rcases hcs with ⟨rfl, rfl⟩ | ⟨more, hmore, rfl⟩
    · simp only [List.length_append] at hf
      obtain ⟨fuel, rfl⟩ : ∃ n, fuel = n + 1 := ⟨fuel - 1, by omega⟩
      -- the item may be as long as the whole text, with one unit of fuel less: hence two units for each character
      have hv := readValue_of_spells v hbody fuel (by omega) (ends_append htrail (ends_bracket rest))
      rw [List.append_assoc, List.append_assoc]
      refine readItems_last (by rw [readValue_append hlead, hv]) ?_
      rw [skipSpace_append htrail, skipSpace_cons (by decide)]
    · simp only [List.length_append, List.length_cons] at hf
      obtain ⟨fuel, rfl⟩ : ∃ n, fuel = n + 1 := ⟨fuel - 1, by omega⟩
      have hv := readValue_of_spells v hbody fuel (by omega)
        (ends_append htrail (ends_comma (more ++ ']' :: rest)))
      have hm := readItems_of_spells vs hmore fuel rest (by omega)
      rw [List.append_assoc, List.append_assoc, List.append_assoc, List.cons_append]
      rw [readItems_more (by rw [readValue_append hlead, hv])
        (by rw [skipSpace_append htrail, skipSpace_cons (by decide)]), hm]

theorem readMembers_of_spells : ∀ (ms : List (Option String × Json)) {cs : List Char}, SpellsMembers ms cs →
    ∀ (fuel : Nat) (rest : List Char), 2 * cs.length ≤ fuel →
      readMembers fuel (cs ++ '\x7d' :: rest) = (ms, some rest)
  | [], cs, h, _, _, _ => by
    rw [SpellsMembers] at h
    exact h.elim
  | m :: ms, cs, h, fuel, rest, hf => by
    rw [SpellsMembers] at h
    obtain ⟨k, lead, inner, first, body, trail, hk, hlead, hinner, hfirst, hbody, htrail, hcs⟩ := h
    obtain ⟨mk, mv⟩ := m
    dsimp only at hk hbody
    subst hk
    have hkey : ∀ more, readString (k.toList.flatMap escapedChar ++ '"' :: (inner ++ ':' :: more)) =
        some (some k, inner ++ ':' :: more) := fun more => readString_string k _
    rcases hcs with ⟨rfl, rfl⟩ | ⟨more, hmore, rfl⟩
    · simp only [List.length_append, List.length_cons] at hf
      obtain ⟨fuel, rfl⟩ : ∃ n, fuel = n + 1 := ⟨fuel - 1, by omega⟩
      have hv := readValue_of_spells mv hbody fuel (by omega) (ends_append htrail (ends_brace rest))
      unfold stringChars
      simp only [List.append_assoc, List.cons_append, List.nil_append]
      refine readMembers_last (by rw [skipSpace_append hlead, skipSpace_cons (by decide)]) (hkey _)
        (by rw [skipSpace_append hinner, skipSpace_cons (by decide)]) (by rw [readValue_append hfirst, hv]) ?_
      rw [skipSpace_append htrail, skipSpace_cons (by decide)]
    · simp only [List.length_append, List.length_cons] at hf
      obtain ⟨fuel, rfl⟩ : ∃ n, fuel = n + 1 := ⟨fuel - 1, by omega⟩
      have hv := readValue_of_spells mv hbody fuel (by omega)
        (ends_append htrail (ends_comma (more ++ '\x7d' :: rest)))
      have hm := readMembers_of_spells ms hmore fuel rest (by omega)
      unfold stringChars
      simp only [List.append_assoc, List.cons_append, List.nil_append]
      rw [readMembers_more (by rw [skipSpace_append hlead, skipSpace_cons (by decide)]) (hkey _)
        (by rw [skipSpace_append hinner, skipSpace_cons (by decide)]) (by rw [readValue_append hfirst, hv])
        (by rw [skipSpace_append htrail, skipSpace_cons (by decide)]), hm]

end

theorem read_of_spells {v : Json} {s : String} (h : Spells v s.toList) : read s = ⟨v, true⟩ := by
  have hr := readValue_of_spells v h (2 * s.toList.length + 1) (by omega) ends_nil
  rw [List.append_nil] at hr
  unfold read readChars
  rw [hr]
  rfl

/-! ## What is written -/

mutual

/-- Whether a written value says all that it holds: no part is broken, every string can be read, and every number
reads back from its digits. -/
def Legible : Json → Prop
  | .null | .bool _ => True
  | .number n => SpellsNumber n (numberChars n)
  | .string s => s.isSome
  | .array items => LegibleItems items
  | .object members => LegibleMembers members
  | .broken => False

def LegibleItems : List Json → Prop
  | [] => True
  | v :: vs => Legible v ∧ LegibleItems vs

def LegibleMembers : List (Option String × Json) → Prop
  | [] => True
  | m :: ms => m.1.isSome ∧ Legible m.2 ∧ LegibleMembers ms

end

theorem blanks_newLine (depth : Nat) : Blanks (newLine depth) := by
  intro c hc
  rcases List.mem_cons.mp hc with rfl | hc
  · decide
  · rw [List.eq_of_mem_replicate hc]
    decide

mutual

/-- **The text of a value on one line spells it.** -/
theorem spells_compact : ∀ v : Json, Legible v → Spells v (compactChars v)
  | .null, _ => by rw [Spells, compactChars]
  | .bool true, _ => by rw [Spells, compactChars]
  | .bool false, _ => by rw [Spells, compactChars]
  | .number n, h => by
    rw [Legible] at h
    rw [Spells, compactChars]
    exact h
  | .string none, h => by
    rw [Legible] at h
    cases h
  | .string (some s), _ => by
    rw [Spells, compactChars]
    rfl
  | .array [], _ => by
    rw [Spells, compactChars, compactItems]
    exact ⟨[], blanks_nil, rfl⟩
  | .array (v :: vs), h => by
    rw [Legible] at h
    rw [Spells, compactChars]
    exact ⟨_, spells_compactItems (v :: vs) (List.cons_ne_nil v vs) h, rfl⟩
  | .object [], _ => by
    rw [Spells, compactChars, compactMembers]
    exact ⟨[], blanks_nil, rfl⟩
  | .object (m :: ms), h => by
    rw [Legible] at h
    rw [Spells, compactChars]
    exact ⟨_, spells_compactMembers (m :: ms) (List.cons_ne_nil m ms) h, rfl⟩
  | .broken, h => by
    rw [Legible] at h
    exact h.elim

theorem spells_compactItems : ∀ vs : List Json, vs ≠ [] → LegibleItems vs → SpellsItems vs (compactItems vs)
  | [], hne, _ => absurd rfl hne
  | [v], _, h => by
    rw [LegibleItems] at h
    rw [SpellsItems, compactItems]
    exact ⟨[], _, [], blanks_nil, spells_compact v h.1, blanks_nil, .inl ⟨rfl, by rw [List.append_nil]; rfl⟩⟩
  | v :: w :: vs, _, h => by
    rw [LegibleItems] at h
    rw [SpellsItems, compactItems]
    · refine ⟨[], _, [], blanks_nil, spells_compact v h.1, blanks_nil,
        .inr ⟨_, spells_compactItems (w :: vs) (List.cons_ne_nil w vs) h.2, ?_⟩⟩
      rw [List.append_nil]
      rfl
    · simp

theorem spells_compactMembers : ∀ ms : List (Option String × Json), ms ≠ [] → LegibleMembers ms →
    SpellsMembers ms (compactMembers ms)
  | [], hne, _ => absurd rfl hne
  | (none, _) :: _, _, h => by
    rw [LegibleMembers] at h
    cases h.1
  | [(some k, v)], _, h => by
    rw [LegibleMembers] at h
    rw [SpellsMembers, compactMembers]
    refine ⟨k, [], [], [], _, [], rfl, blanks_nil, blanks_nil, blanks_nil, spells_compact v h.2.1, blanks_nil,
      .inl ⟨rfl, ?_⟩⟩
    unfold keyChars
    simp only [Option.getD_some, List.append_assoc, List.cons_append, List.nil_append, List.append_nil]
  | (some k, v) :: m :: ms, _, h => by
    rw [LegibleMembers] at h
    rw [SpellsMembers, compactMembers]
    · refine ⟨k, [], [], [], _, [], rfl, blanks_nil, blanks_nil, blanks_nil, spells_compact v h.2.1, blanks_nil,
        .inr ⟨_, spells_compactMembers (m :: ms) (List.cons_ne_nil m ms) h.2.2, ?_⟩⟩
      unfold keyChars
      simp only [Option.getD_some, List.append_assoc, List.cons_append, List.nil_append, List.append_nil]
    · simp

end

mutual

/-- **The text of a value spells it**, however deep it stands. -/
theorem spells_pretty : ∀ (depth : Nat) (v : Json), Legible v → Spells v (prettyChars depth v)
  | _, .null, h | _, .bool _, h | _, .number _, h | _, .string _, h => by
    rw [prettyChars]
    · exact spells_compact _ h
    all_goals simp
  | _, .array [], _ => by
    rw [Spells, prettyChars]
    exact ⟨[], blanks_nil, rfl⟩
  | depth, .array (v :: vs), h => by
    rw [Legible] at h
    rw [Spells, prettyChars]
    · refine ⟨_, spells_prettyItems (depth + 1) (v :: vs) (List.cons_ne_nil v vs) h (blanks_newLine depth), ?_⟩
      rw [List.append_assoc, List.cons_append, List.cons_append, List.append_assoc]
    · simp
  | _, .object [], _ => by
    rw [Spells, prettyChars]
    exact ⟨[], blanks_nil, rfl⟩
  | depth, .object (m :: ms), h => by
    rw [Legible] at h
    rw [Spells, prettyChars]
    · refine ⟨_, spells_prettyMembers (depth + 1) (m :: ms) (List.cons_ne_nil m ms) h (blanks_newLine depth), ?_⟩
      rw [List.append_assoc, List.cons_append, List.cons_append, List.append_assoc]
    · simp
  | _, .broken, h => by
    rw [Legible] at h
    exact h.elim

theorem spells_prettyItems : ∀ (depth : Nat) (vs : List Json), vs ≠ [] → LegibleItems vs →
    ∀ {trail : List Char}, Blanks trail → SpellsItems vs (prettyItems depth vs ++ trail)
  | _, [], hne, _, _, _ => absurd rfl hne
  | depth, [v], _, h, trail, ht => by
    rw [LegibleItems] at h
    rw [SpellsItems, prettyItems]
    exact ⟨newLine depth, _, trail, blanks_newLine depth, spells_pretty depth v h.1, ht, .inl ⟨rfl, rfl⟩⟩
  | depth, v :: w :: vs, _, h, trail, ht => by
    rw [LegibleItems] at h
    rw [SpellsItems, prettyItems]
    · refine ⟨newLine depth, _, [], blanks_newLine depth, spells_pretty depth v h.1, blanks_nil, .inr ?_⟩
      refine ⟨_, spells_prettyItems depth (w :: vs) (List.cons_ne_nil w vs) h.2 ht, ?_⟩
      rw [List.append_nil, List.append_assoc, List.cons_append]
    · simp

theorem spells_prettyMembers : ∀ (depth : Nat) (ms : List (Option String × Json)), ms ≠ [] → LegibleMembers ms →
    ∀ {trail : List Char}, Blanks trail → SpellsMembers ms (prettyMembers depth ms ++ trail)
  | _, [], hne, _, _, _ => absurd rfl hne
  | _, (none, _) :: _, _, h, _, _ => by
    rw [LegibleMembers] at h
    cases h.1
  | depth, [(some k, v)], _, h, trail, ht => by
    rw [LegibleMembers] at h
    rw [SpellsMembers, prettyMembers]
    refine ⟨k, newLine depth, [], [' '], _, trail, rfl, blanks_newLine depth, blanks_nil,
      blanks_space, spells_pretty depth v h.2.1, ht, .inl ⟨rfl, ?_⟩⟩
    unfold keyChars
    simp only [Option.getD_some, List.append_assoc, List.cons_append, List.nil_append, List.append_nil]
  | depth, (some k, v) :: m :: ms, _, h, trail, ht => by
    rw [LegibleMembers] at h
    rw [SpellsMembers, prettyMembers]
    · refine ⟨k, newLine depth, [], [' '], _, [], rfl, blanks_newLine depth, blanks_nil,
        blanks_space, spells_pretty depth v h.2.1, blanks_nil,
        .inr ⟨_, spells_prettyMembers depth (m :: ms) (List.cons_ne_nil m ms) h.2.2 ht, ?_⟩⟩
      unfold keyChars
      simp only [Option.getD_some, List.append_assoc, List.cons_append, List.nil_append, List.append_nil]
    · simp

end

/-- **A legible value reads back from its text** on one line. -/
theorem read_compact {v : Json} (h : Legible v) : read v.compact = ⟨v, true⟩ := by
  refine read_of_spells ?_
  unfold compact
  rw [String.toList_ofList]
  exact spells_compact v h

/-- **A legible value reads back from its text**, and nothing else stands in the text. -/
theorem read_pretty {v : Json} (h : Legible v) : read v.pretty = ⟨v, true⟩ := by
  refine read_of_spells ?_
  unfold pretty
  rw [String.toList_ofList]
  exact spells_pretty 0 v h

end Json
end CalcConsole
