import CalcConsole.Text.Utf8
/-! # Texts as bytes

The bytes of a text read as that text, whatever would stand for bytes that spell no character. -/
namespace CalcConsole
namespace Text

/-! ## One character -/

theorem ofByte?_two {b : Nat} (h : 0xc2 ≤ b) (h' : b ≤ 0xdf) :
    Lead.ofByte? b = some ⟨b - 0xc0, 0x80, 0xbf, 0⟩ := by
  unfold Lead.ofByte?
  rw [if_pos (by simp [h, h'])]

theorem ofByte?_three {b : Nat} (h : 0xe0 ≤ b) (h' : b ≤ 0xef) : Lead.ofByte? b =
    some ⟨b - 0xe0, if b = 0xe0 then 0xa0 else 0x80, if b = 0xed then 0x9f else 0xbf, 1⟩ := by
  have hb : b ∈ List.range' 0xe0 16 := by rw [List.mem_range'_1]; omega
  simp only [List.range', List.mem_cons, List.not_mem_nil, or_false] at hb
  rcases hb with rfl | rfl | rfl | rfl | rfl | rfl | rfl | rfl | rfl | rfl | rfl | rfl | rfl | rfl | rfl | rfl <;> rfl

theorem ofByte?_four {b : Nat} (h : 0xf0 ≤ b) (h' : b ≤ 0xf4) : Lead.ofByte? b =
    some ⟨b - 0xf0, if b = 0xf0 then 0x90 else 0x80, if b = 0xf4 then 0x8f else 0xbf, 2⟩ := by
  have hb : b ∈ List.range' 0xf0 5 := by rw [List.mem_range'_1]; omega
  simp only [List.range', List.mem_cons, List.not_mem_nil, or_false] at hb
  rcases hb with rfl | rfl | rfl | rfl | rfl <;> rfl

variable {mark : List Char}

theorem decoded_begin {b : Nat} {l : Lead} (hb : 0x80 ≤ b) (hl : Lead.ofByte? b = some l) (bs : List Nat) :
    decoded mark none (b :: bs) = decoded mark (some l) bs := by
  rw [decoded, step, begin, if_neg (by omega), hl]
  rfl

theorem decoded_next {bits low high more b : Nat} (h : low ≤ b) (h' : b ≤ high) (bs : List Nat) :
    decoded mark (some ⟨bits, low, high, more + 1⟩) (b :: bs) =
      decoded mark (some ⟨bits * 64 + (b - 0x80), 0x80, 0xbf, more⟩) bs := by
  rw [decoded, step, if_pos (by simp [h, h'])]
  rfl

theorem decoded_last {bits low high b : Nat} (h : low ≤ b) (h' : b ≤ high) (rest : List Nat) :
    decoded mark (some ⟨bits, low, high, 0⟩) (b :: rest) =
      Char.ofNat (bits * 64 + (b - 0x80)) :: decoded mark none rest := by
  rw [decoded, step, if_pos (by simp [h, h'])]
  rfl

theorem decoded_two {b₀ b₁ : Nat} (h₀ : 0xc2 ≤ b₀ ∧ b₀ ≤ 0xdf) (h₁ : 0x80 ≤ b₁ ∧ b₁ ≤ 0xbf) (rest : List Nat) :
    decoded mark none (b₀ :: b₁ :: rest) =
      Char.ofNat ((b₀ - 0xc0) * 64 + (b₁ - 0x80)) :: decoded mark none rest := by
  rw [decoded_begin (by omega) (ofByte?_two h₀.1 h₀.2), decoded_last h₁.1 h₁.2]

theorem decoded_three {b₀ b₁ b₂ : Nat} (h₀ : 0xe0 ≤ b₀ ∧ b₀ ≤ 0xef) (h₁ : 0x80 ≤ b₁ ∧ b₁ ≤ 0xbf)
    (hlong : b₀ = 0xe0 → 0xa0 ≤ b₁) (hhalf : b₀ = 0xed → b₁ ≤ 0x9f) (h₂ : 0x80 ≤ b₂ ∧ b₂ ≤ 0xbf) (rest : List Nat) :
    decoded mark none (b₀ :: b₁ :: b₂ :: rest) =
      Char.ofNat (((b₀ - 0xe0) * 64 + (b₁ - 0x80)) * 64 + (b₂ - 0x80)) :: decoded mark none rest := by
  rw [decoded_begin (by omega) (ofByte?_three h₀.1 h₀.2), decoded_next (by split <;> omega) (by split <;> omega),
    decoded_last h₂.1 h₂.2]

theorem decoded_four {b₀ b₁ b₂ b₃ : Nat} (h₀ : 0xf0 ≤ b₀ ∧ b₀ ≤ 0xf4) (h₁ : 0x80 ≤ b₁ ∧ b₁ ≤ 0xbf)
    (hlong : b₀ = 0xf0 → 0x90 ≤ b₁) (hlast : b₀ = 0xf4 → b₁ ≤ 0x8f) (h₂ : 0x80 ≤ b₂ ∧ b₂ ≤ 0xbf)
    (h₃ : 0x80 ≤ b₃ ∧ b₃ ≤ 0xbf) (rest : List Nat) :
    decoded mark none (b₀ :: b₁ :: b₂ :: b₃ :: rest) =
      Char.ofNat ((((b₀ - 0xf0) * 64 + (b₁ - 0x80)) * 64 + (b₂ - 0x80)) * 64 + (b₃ - 0x80)) ::
        decoded mark none rest := by
  rw [decoded_begin (by omega) (ofByte?_four h₀.1 h₀.2), decoded_next (by split <;> omega) (by split <;> omega),
    decoded_next h₂.1 h₂.2, decoded_last h₃.1 h₃.2]

/-- **The bytes of a character** read as that character, whatever comes behind them. -/
theorem decoded_utf8EncodeChar (c : Char) (rest : List Nat) :
    decoded mark none ((String.utf8EncodeChar c).map UInt8.toNat ++ rest) = c :: decoded mark none rest := by
  have hvalid : c.toNat < 0xd800 ∨ 0xdfff < c.toNat ∧ c.toNat < 0x110000 := c.valid
  have hchar : Char.ofNat c.toNat = c := Char.ofNat_toNat c
  have hval : c.val.toNat = c.toNat := rfl
  unfold String.utf8EncodeChar
  dsimp only
  rw [hval]
  generalize c.toNat = v at hvalid hchar
  subst hchar
  have hbyte : ∀ n < 256, (UInt8.ofNat n).toNat = n := fun n hn => Nat.mod_eq_of_lt hn
  by_cases h₁ : v ≤ 127
  · rw [if_pos h₁, List.map_singleton, hbyte v (by omega), List.singleton_append, decoded, step,
      begin, if_pos (by omega)]
    rfl
  rw [if_neg h₁]
  by_cases h₂ : v ≤ 2047
  · have hv : (v / 64 % 32 + 192 - 0xc0) * 64 + (v % 64 + 128 - 0x80) = v := by omega
    rw [if_pos h₂, List.map_cons, List.map_singleton, hbyte _ (by omega), hbyte _ (by omega), List.cons_append,
      List.singleton_append, decoded_two (by omega) (by omega), hv]
  rw [if_neg h₂]
  by_cases h₃ : v ≤ 65535
  · have hv : ((v / 4096 % 16 + 224 - 0xe0) * 64 + (v / 64 % 64 + 128 - 0x80)) * 64 + (v % 64 + 128 - 0x80) = v := by
      omega
    rw [if_pos h₃, List.map_cons, List.map_cons, List.map_singleton, hbyte _ (by omega), hbyte _ (by omega),
      hbyte _ (by omega), List.cons_append, List.cons_append, List.singleton_append,
      decoded_three (by omega) (by omega) (by omega) (by omega) (by omega), hv]
  · have hv : (((v / 262144 % 8 + 240 - 0xf0) * 64 + (v / 4096 % 64 + 128 - 0x80)) * 64 +
        (v / 64 % 64 + 128 - 0x80)) * 64 + (v % 64 + 128 - 0x80) = v := by omega
    rw [if_neg h₃, List.map_cons, List.map_cons, List.map_cons, List.map_singleton, hbyte _ (by omega),
      hbyte _ (by omega), hbyte _ (by omega), hbyte _ (by omega), List.cons_append, List.cons_append, List.cons_append,
      List.singleton_append, decoded_four (by omega) (by omega) (by omega) (by omega) (by omega) (by omega), hv]

/-! ## Texts -/

theorem decoded_flatMap (cs : List Char) :
    decoded mark none ((cs.flatMap String.utf8EncodeChar).map UInt8.toNat) = cs := by
  induction cs with
  | nil => rw [List.flatMap_nil, List.map_nil, decoded]
  | cons c cs ih => rw [List.flatMap_cons, List.map_append, decoded_utf8EncodeChar, ih]

theorem toList_data_toUTF8 (s : String) : s.toUTF8.data.toList = s.toList.flatMap String.utf8EncodeChar := by
  have hbytes : s.toUTF8 = (s.toList.flatMap String.utf8EncodeChar).toByteArray := String.utf8Encode_toList.symm
  rw [hbytes, List.toList_data_toByteArray]

/-- **The bytes of a text** hold nothing that would be marked. -/
theorem read_toUTF8 (mark : List Char) (s : String) : read mark s.toUTF8 = s := by
  unfold read
  rw [toList_data_toUTF8, decoded_flatMap, String.ofList_toList]

theorem lossy_toUTF8 (s : String) : lossy s.toUTF8 = s := read_toUTF8 _ s

end Text
end CalcConsole
