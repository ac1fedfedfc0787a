import CalcConsole.Proofs.Json.Records
import CalcConsole.Proofs.Text.Utf8
import CalcConsole.Service.Http
/-! # What the body of an answer says

A whole body in UTF-8 presents what its text does.  Other bytes cost no more than the strings that they stand in
(`readString_noCharacter`), so a value is lost to them only where such a string is looked at.  A body that is taken for a
text has to be whole, and not too long. -/
namespace CalcConsole

namespace Json

theorem joinPieces_noCharacter (qs : List Piece) : ∀ ps, joinPieces (ps ++ .char 'x' :: .half 0xdc00 :: qs) = none
  | [] => by
    rw [List.nil_append, joinPieces]
    cases qs with
    | nil => rfl
    | cons q qs => cases q <;> rfl
  | .char c :: ps => by rw [List.cons_append, joinPieces, joinPieces_noCharacter qs ps, Option.map_none]
  | [.half u] => rfl
  | .half u :: .char c :: ps => rfl
  | .half u :: .half v :: ps => by
    rw [List.cons_append, List.cons_append, joinPieces, joinPieces_noCharacter qs ps, Option.map_none, ite_self]

theorem readPieces_noCharacter (rest : List Char) :
    readPieces (noCharacter ++ rest) = (readPieces rest).map fun r => (.char 'x' :: .half 0xdc00 :: r.1, r.2) := by
  have hunit : unit? 'd' 'c' '0' '0' = some 0xdc00 := rfl
  have hhalf : Piece.ofUnit 0xdc00 = .half 0xdc00 := rfl
  simp [noCharacter, readPieces, hunit, hhalf, Function.comp_def]

theorem readPieces_behind (rest : List Char) : ∀ cs : List Char,
    readPieces (cs.flatMap escapedChar ++ (noCharacter ++ rest)) =
      (readPieces rest).map fun r => (cs.map .char ++ .char 'x' :: .half 0xdc00 :: r.1, r.2)
  | [] => readPieces_noCharacter rest
  | c :: cs => by
    rw [List.flatMap_cons, List.append_assoc, readPieces_escapedChar, readPieces_behind rest cs, Option.map_map]
    rfl

/-- **A string with bytes that spell no character** has no text, whatever stands before and behind them. -/
theorem readString_noCharacter (cs rest : List Char) :
    ∀ r ∈ readString (cs.flatMap escapedChar ++ (noCharacter ++ rest)), r.1 = none := by
  intro r hr
  unfold readString at hr
  rw [readPieces_behind, Option.map_map] at hr
  obtain ⟨p, -, rfl⟩ := Option.map_eq_some_iff.mp hr
  exact congrArg (Option.map String.ofList) (joinPieces_noCharacter p.1 _)
theorem readBytes_toUTF8 (s : String) : readBytes s.toUTF8 = read s := congrArg read (Text.read_toUTF8 noCharacter s)

end Json

namespace Body

theorem document_toUTF8 (s : String) : document s.toUTF8 = Json.read s := by
  unfold document
  dsimp only
  rw [Json.readBytes_toUTF8, Bool.and_true]

/-- The body can be taken for a text. -/
structure Readable (b : Body) : Prop where
  whole : b.whole = true
  short : b.bytes.size ≤ maxText

theorem text_of_readable {b : Body} (h : b.Readable) : b.text = Text.lossy b.bytes := by
  unfold text
  rw [h.whole, decide_eq_true h.short]
  rfl

theorem text_of_unreadable {b : Body} (h : ¬ b.Readable) : b.text = "" := by
  unfold text
  rw [if_neg]
  rw [Bool.and_eq_true, decide_eq_true_eq]
  exact fun hb => h ⟨hb.1, hb.2⟩

end Body
end CalcConsole
