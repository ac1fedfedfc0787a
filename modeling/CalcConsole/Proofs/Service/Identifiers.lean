import CalcConsole.Proofs.Json.Objects
import CalcConsole.Proofs.Service.Entities
import CalcConsole.Proofs.Text.Digits
/-! # What an identifier may look like

`Denotes` and `Refers` list the values that stand for an identifier, and for one that may be missing.  The decoders try
their alternatives in order, and accept just these values (`decode_eq_ok_iff`, `decodeNullable_eq_ok_iff`).  An
expression whose agent is any other value does not decode at all (`agent_iff`). -/
namespace CalcConsole

open Json (Member under)

theorem Json.toInt64?_eq_some_iff {v : Json} {n : Int} : v.toInt64? = some n ↔
    v = .number (.whole n) ∧ -(signedBound : Int) ≤ n ∧ n < signedBound := by
  unfold toInt64?
  split
  · next m =>
    by_cases hm : -(signedBound : Int) ≤ m ∧ m < signedBound
    · rw [if_pos hm]
      constructor
      · intro h
        cases h
        exact ⟨rfl, hm⟩
      · rintro ⟨h, -⟩
        cases h
        rfl
    · rw [if_neg hm]
      refine iff_of_false (Option.some_ne_none n).symm ?_
      rintro ⟨h, hn⟩
      cases h
      exact hm hn
  · next h =>
    refine iff_of_false (Option.some_ne_none n).symm ?_
    rintro ⟨rfl, -⟩
    exact h n rfl

namespace Identifier

/-! ## Identifiers -/

/-- What stands for an identifier: an integer of 64 bits, by its decimal text, or a string. -/
inductive Denotes : Json → Identifier → Prop
  | integer {n : Int} (low : -(signedBound : Int) ≤ n) (high : n < signedBound) :
    Denotes (.number (.whole n)) ⟨toString n⟩
  | string (s : String) : Denotes (.text s) ⟨s⟩

theorem ofJson?_eq_some_iff {v : Json} {i : Identifier} : ofJson? v = some i ↔ Denotes v i := by
  unfold ofJson?
  split
  · next s =>
    constructor
    · intro h
      cases h
      exact .string s
    · rintro (_ | _)
      rfl
  · next hstring =>
    rw [Option.map_eq_some_iff]
    constructor
    · rintro ⟨n, hn, rfl⟩
      obtain ⟨rfl, low, high⟩ := Json.toInt64?_eq_some_iff.mp hn
      rw [Text.ofList_intChars]
      exact .integer low high
    · intro h
      cases h with
      | integer low high =>
        exact ⟨_, Json.toInt64?_eq_some_iff.mpr ⟨rfl, low, high⟩, by rw [Text.ofList_intChars]⟩
      | string s => exact absurd rfl (hstring s)

theorem Denotes.storable {v : Json} {i : Identifier} (h : Denotes v i) (room : Nat) : v.storable room = true := by
  cases h <;> rfl

/-- **An identifier decodes** from an integer of 64 bits or a string, and from nothing else. -/
theorem decode_eq_ok_iff {room : Nat} {v : Json} {i : Identifier} : decode room v = .ok i ↔ Denotes v i := by
  unfold decode
  rw [← ofJson?_eq_some_iff]
  by_cases hv : v.storable room = true
  · rw [hv, Bool.not_true, if_neg Bool.false_ne_true]
    cases ofJson? v <;> simp
  · rw [Bool.not_eq_true] at hv
    rw [hv, Bool.not_false, if_pos rfl]
    refine iff_of_false (fun h => nomatch h) fun h => ?_
    rw [(ofJson?_eq_some_iff.mp h).storable room] at hv
    cases hv

/-! ## References -/

theorem Reference.scan_eq_some_iff {r r' : Reference} {ms : List Member} : scan r ms = some r' ↔
    Json.FilledBy (fun v n => v.toInt64? = some n) (under "Int32" ms) r.number r'.number ∧
    Json.FilledBy (fun v b => v = .bool b) (under "Valid" ms) r.valid r'.valid := by
  induction ms generalizing r with
  | nil =>
    obtain ⟨number, valid⟩ := r
    obtain ⟨number', valid'⟩ := r'
    simp [scan, under, Json.FilledBy, eq_comm]
  | cons m ms ih =>
    obtain ⟨k, v⟩ := m
    unfold scan
    by_cases hnumber : k = some "Int32"
    · subst hnumber
      rw [if_pos rfl, Json.under_cons_self, Json.under_cons_of_ne (by simp), Json.filledBy_cons]
      cases hr : r.number with
      | some n => simp
      | none =>
        cases hv : v.toInt64? with
        | none => simp
        | some n => simp [ih]
    · rw [if_neg hnumber, Json.under_cons_of_ne hnumber]
      by_cases hvalid : k = some "Valid"
      · subst hvalid
        rw [if_pos rfl, Json.under_cons_self, Json.filledBy_cons]
        cases hr : r.valid with
        | some b => simp
        | none =>
          cases v with
          | bool b => simp [ih]
          | _ => simp
      · rw [if_neg hvalid, Json.under_cons_of_ne hvalid]
        exact ih

/-- **A reference as an object** has each of its two parts once; whatever else it has makes no difference. -/
theorem Reference.ofJson?_eq_some_iff {v : Json} {n : Int} {b : Bool} : ofJson? v = some (n, b) ↔
    ∃ ms, v = .object ms ∧ under "Int32" ms = [.number (.whole n)] ∧ (-(signedBound : Int) ≤ n ∧ n < signedBound) ∧
      under "Valid" ms = [.bool b] := by
  have hscan : ∀ ms, scan ⟨none, none⟩ ms = some ⟨some n, some b⟩ ↔
      under "Int32" ms = [.number (.whole n)] ∧ (-(signedBound : Int) ≤ n ∧ n < signedBound) ∧
        under "Valid" ms = [.bool b] := by
    intro ms
    rw [Reference.scan_eq_some_iff, Json.filledBy_some_iff, Json.filledBy_some_iff]
    simp only [Json.toInt64?_eq_some_iff]
    constructor
    · rintro ⟨⟨_, hnumber, rfl, hn⟩, _, hvalid, rfl⟩
      exact ⟨hnumber, hn, hvalid⟩
    · rintro ⟨hnumber, hn, hvalid⟩
      exact ⟨⟨_, hnumber, rfl, hn⟩, _, hvalid, rfl⟩
  constructor
  · intro h
    unfold ofJson? at h
    split at h
    · next ms =>
      split at h
      · next hms =>
        cases h
        exact ⟨ms, rfl, (hscan ms).mp hms⟩
      · cases h
    · cases h
  · rintro ⟨ms, rfl, h⟩
    rw [ofJson?, (hscan ms).mpr h]

/-- What stands for an identifier that may be missing: `null`, an identifier, or a number beside the mark whether it is
valid. -/
inductive Refers : Json → Option Identifier → Prop
  | null : Refers .null none
  | plain {v : Json} {i : Identifier} (h : Denotes v i) : Refers v (some i)
  | pair {ms : List Member} {n : Int} {b : Bool} (number : under "Int32" ms = [.number (.whole n)])
    (low : -(signedBound : Int) ≤ n) (high : n < signedBound) (valid : under "Valid" ms = [.bool b]) :
    Refers (.object ms) (if b then some ⟨toString n⟩ else none)

theorem refers_iff {v : Json} {o : Option Identifier} : Refers v o ↔ v = .null ∧ o = none ∨
    (∃ n b, Reference.ofJson? v = some (n, b) ∧ o = if b then some ⟨toString n⟩ else none) ∨
    ∃ i, Denotes v i ∧ o = some i := by
  constructor
  · rintro (_ | h | ⟨number, low, high, valid⟩)
    · exact .inl ⟨rfl, rfl⟩
    · exact .inr (.inr ⟨_, h, rfl⟩)
    · exact .inr (.inl ⟨_, _, Reference.ofJson?_eq_some_iff.mpr ⟨_, rfl, number, ⟨low, high⟩, valid⟩, rfl⟩)
  · rintro (⟨rfl, rfl⟩ | ⟨n, b, h, rfl⟩ | ⟨i, h, rfl⟩)
    · exact .null
    · obtain ⟨ms, rfl, number, ⟨low, high⟩, valid⟩ := Reference.ofJson?_eq_some_iff.mp h
      exact .pair number low high valid
    · exact .plain h

theorem decodeReference_eq_ok_iff {room : Nat} {v : Json} {o : Option Identifier} (hv : v ≠ .null) :
    decodeReference room v = .ok o ↔ v.storable room = true ∧ Refers v o := by
  rw [refers_iff, or_iff_right fun h => hv h.1]
  unfold decodeReference
  by_cases hroom : v.storable room = true
  · rw [hroom, Bool.not_true, if_neg Bool.false_ne_true, and_iff_right rfl]
    cases hpair : Reference.ofJson? v with
    | some p =>
      -- an object stands for no identifier
      obtain ⟨n, b⟩ := p
      obtain ⟨ms, rfl, -⟩ := Reference.ofJson?_eq_some_iff.mp hpair
      have hplain : ∀ i, ¬ Denotes (.object ms) i := fun i h => nomatch h
      cases b <;> simp [hplain, Text.ofList_intChars, eq_comm]
    | none =>
      cases hplain : ofJson? v with
      | some i =>
        have hi : ∀ j, Denotes v j ↔ i = j := by
          intro j
          rw [← ofJson?_eq_some_iff, hplain, Option.some_inj]
        simp [hi, eq_comm]
      | none =>
        have hi : ∀ j, ¬ Denotes v j := by
          intro j hj
          rw [ofJson?_eq_some_iff.mpr hj] at hplain
          cases hplain
        simp [hi]
  · rw [Bool.not_eq_true] at hroom
    simp [hroom]

/-- **A reference decodes** from the values that stand for one and can be kept, and from nothing else. -/
theorem decodeNullable_eq_ok_iff {room : Nat} {v : Json} {o : Option Identifier} :
    decodeNullable room v = .ok o ↔ v.storable room = true ∧ Refers v o := by
  unfold decodeNullable
  split
  · rw [refers_iff]
    constructor
    · intro h
      cases h
      exact ⟨rfl, .inl ⟨rfl, rfl⟩⟩
    · rintro ⟨-, ⟨-, rfl⟩ | ⟨n, b, h, -⟩ | ⟨i, h, -⟩⟩
      · rfl
      · cases h
      · cases h
  · next hv => exact decodeReference_eq_ok_iff fun h => hv h

end Identifier

/-! ## The agent of an expression -/

namespace Expression

open Identifier (Denotes Refers)

theorem decode_eq_ok_iff {room : Nat} {v : Json} {e : Expression} : decode room v = .ok e ↔
    ∃ s, (shape (room - 1)).slots v = .ok s ∧ ofSlots (shape (room - 1)) s = .ok e := Json.bind_eq_ok

theorem ofSlots_set_agent (room : Nat) (s : Json.Slots Field.Value) (o : Option Identifier) :
    ofSlots (shape room) (s.set .agentId o) = (fun e => { e with agentId := o }) <$> ofSlots (shape room) s := by
  have hothers : ∀ f ≠ Field.agentId, s.set .agentId o f = s f := fun f hf => s.set_of_ne o hf
  unfold ofSlots Json.Shape.need
  simp [hothers]

theorem field?_agent (room : Nat) : (shape room).field? "agent_id" = some .agentId := (named_shape room).found .agentId

theorem given_agent (room : Nat) (ms : List Member) : (shape room).given .agentId ms = under "agent_id" ms :=
  Json.Shape.given_eq_under ((named_shape room).field?_iff rfl) ms

theorem decode_eq_ok_iff_of_agent {room : Nat} {v w a : Json}
    (h : ∀ s, (shape (room - 1)).slots w = .ok s ↔
      ∃ t o, (shape (room - 1)).slots v = .ok t ∧ Identifier.decodeNullable (room - 1) a = .ok o ∧
        s = t.set .agentId o) {e : Expression} :
    decode room w = .ok e ↔ a.storable (room - 1) = true ∧
      ∃ o e₀, Refers a o ∧ decode room v = .ok e₀ ∧ e = { e₀ with agentId := o } := by
  rw [decode_eq_ok_iff]
  simp only [h, Identifier.decodeNullable_eq_ok_iff, decode_eq_ok_iff]
  constructor
  · rintro ⟨_, ⟨t, o, ht, ⟨hroom, ho⟩, rfl⟩, he⟩
    rw [ofSlots_set_agent, Json.map_eq_ok] at he
    obtain ⟨e₀, he₀, rfl⟩ := he
    exact ⟨hroom, o, e₀, ho, ⟨t, ht, he₀⟩, rfl⟩
  · rintro ⟨hroom, o, e₀, ho, ⟨t, ht, he₀⟩, rfl⟩
    refine ⟨_, ⟨t, o, ht, ⟨hroom, ho⟩, rfl⟩, ?_⟩
    rw [ofSlots_set_agent, Json.map_eq_ok]
    exact ⟨e₀, he₀, rfl⟩

theorem decode_object_agent_iff {room : Nat} {before behind : List Member} {v : Json} {e : Expression} :
    decode room (.object (before ++ (some "agent_id", v) :: behind)) = .ok e ↔
      (∀ m ∈ before ++ behind, m.1 ≠ some "agent_id") ∧ v.storable (room - 1) = true ∧
        ∃ o e₀, Refers v o ∧ decode room (.object (before ++ behind)) = .ok e₀ ∧ e = { e₀ with agentId := o } := by
  have hslots : ∀ s, (shape (room - 1)).slots (.object (before ++ (some "agent_id", v) :: behind)) = .ok s ↔ _ :=
    fun _ => Json.Shape.slots_field_iff (field?_agent (room - 1))
  have hempty : ∀ t, (shape (room - 1)).slots (.object (before ++ behind)) = .ok t →
      (t .agentId = none ↔ ∀ m ∈ before ++ behind, m.1 ≠ some "agent_id") := by
    intro t ht
    rw [Json.Shape.slot_eq_none_iff ht, given_agent, Json.under_eq_nil_iff]
  by_cases hothers : ∀ m ∈ before ++ behind, m.1 ≠ some "agent_id"
  · rw [and_iff_right hothers]
    refine decode_eq_ok_iff_of_agent fun s => ?_
    rw [hslots]
    exact exists_congr fun t => exists_congr fun o => and_congr_right fun ht =>
      and_iff_right ((hempty t ht).mpr hothers)
  · refine iff_of_false (fun h => ?_) fun h => hothers h.1
    obtain ⟨s, hs, -⟩ := decode_eq_ok_iff.mp h
    obtain ⟨t, -, ht, hnone, -⟩ := (hslots s).mp hs
    exact hothers ((hempty t ht).mp hnone)

theorem decode_array_agent_iff {room : Nat} {items : List Json} (hlen : items.length = 10) {v : Json}
    {e : Expression} : decode room (.array (items ++ [v])) = .ok e ↔ v.storable (room - 1) = true ∧
      ∃ o e₀, Refers v o ∧ decode room (.array items) = .ok e₀ ∧ e = { e₀ with agentId := o } := by
  have hfields : (shape (room - 1)).fields = (shape (room - 1)).fields.dropLast ++ [.agentId] := rfl
  exact decode_eq_ok_iff_of_agent fun _ => Json.Shape.slots_concat_iff hfields rfl hlen

/-- **Which values name an agent.**  An identifier decodes from an integer of 64 bits or a string and from nothing else.
An expression decodes with a value for its agent just if the value stands for an agent or for none and the rest of the
expression decodes, as an object or as an array; then the agent is what the value stands for. -/
theorem agent_iff (room : Nat) :
    (∀ v i, Identifier.decode room v = .ok i ↔ Denotes v i) ∧
    (∀ before behind v e, decode room (.object (before ++ (some "agent_id", v) :: behind)) = .ok e ↔
      (∀ m ∈ before ++ behind, m.1 ≠ some "agent_id") ∧ v.storable (room - 1) = true ∧
        ∃ o e₀, Refers v o ∧ decode room (.object (before ++ behind)) = .ok e₀ ∧ e = { e₀ with agentId := o }) ∧
    ∀ items v e, items.length = 10 → (decode room (.array (items ++ [v])) = .ok e ↔ v.storable (room - 1) = true ∧
      ∃ o e₀, Refers v o ∧ decode room (.array items) = .ok e₀ ∧ e = { e₀ with agentId := o }) :=
  ⟨fun _ _ => Identifier.decode_eq_ok_iff, fun _ _ _ _ => decode_object_agent_iff,
    fun _ _ _ hlen => decode_array_agent_iff hlen⟩

/-! ### Agents of one expression -/

def seven (others : List (String × Json)) : Json :=
  .struct (("Int32", .number (.whole 7)) :: ("Valid", .bool true) :: others)

def unassigned : Expression := { Entity.four with agentId := none }

def unassignedItems : List Json :=
  [.text "7", .text "2+2", .text "result", .bool true, .number (.whole 4), .text "2024-03-01T10:00:00.5Z", .null, .null,
    .null, .null]

def unassignedMembers : List Member :=
  [(some "id", .text "7"), (some "data", .text "2+2"), (some "status", .text "result"), (some "is_ready", .bool true),
    (some "result", .number (.whole 4)), (some "created_at", .text "2024-03-01T10:00:00.5Z")]

theorem decode_unassignedItems : decode Json.topRoom (.array unassignedItems) = .ok unassigned :=
  Entity.eq_ok_of_toOption (by decide +kernel)

theorem decode_unassignedMembers : decode Json.topRoom (.object unassignedMembers) = .ok unassigned :=
  Entity.eq_ok_of_toOption (by decide +kernel)

theorem refers_seven : Refers (seven [("note", .null)]) (some ⟨"7"⟩) := by
  have hpair : Refers (seven [("note", .null)]) (if true then some ⟨toString (7 : Int)⟩ else none) :=
    .pair rfl (by decide) (by decide) rfl
  exact hpair

theorem agent_iff_seven : unassignedItems.length = 10 ∧
    decode Json.topRoom (.array (unassignedItems ++ [seven [("note", .null)]])) =
      .ok { unassigned with agentId := some ⟨"7"⟩ } := by
  obtain ⟨-, -, hitems⟩ := agent_iff Json.topRoom
  exact ⟨rfl, (hitems _ _ _ rfl).mpr ⟨rfl, _, _, refers_seven, decode_unassignedItems, rfl⟩⟩

/-- An array of a number and a mark stands for no agent, and neither does a pair with a member that cannot be kept. -/
theorem no_agent_of_array : decode Json.topRoom (.object unassignedMembers) = .ok unassigned ∧
    (∀ e, decode Json.topRoom
      (.object (unassignedMembers ++ [(some "agent_id", .array [.number (.whole 7), .bool true])])) ≠ .ok e) ∧
    ∀ e, decode Json.topRoom (.object (unassignedMembers ++ [(some "agent_id", seven [("note", .number .beyond)])])) ≠
      .ok e := by
  refine ⟨decode_unassignedMembers, fun e h => ?_, fun e h => ?_⟩
  · obtain ⟨-, -, _, _, hrefers, -⟩ := decode_object_agent_iff.mp h
    cases hrefers with
    | plain h => cases h
  · obtain ⟨-, hstorable, -⟩ := decode_object_agent_iff.mp h
    exact absurd hstorable (by decide)

end Expression
end CalcConsole
