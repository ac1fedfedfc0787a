import Mathlib.Logic.Relation
import CalcConsole.Proofs.Service.Identifiers
/-! # Old and new spellings

Different builds of the service spell the same expression, operation or agent in different ways: with its members in
another order, an identifier under another name or as a number, a reference as a pair, a default that is left out.
`Rewrite` has one constructor for each such difference, and whatever is reached through any of them decodes to the same
value. -/
namespace CalcConsole
namespace Entity

open Json (Member Slots)

/-! ## The fields of the three -/

@[reducible] def Field : Entity → Type
  | expression => Expression.Field
  | operation => Operation.Field
  | agent => Agent.Field

@[reducible] def FieldValue : (t : Entity) → t.Field → Type
  | expression => Expression.Field.Value
  | operation => Operation.Field.Value
  | agent => Agent.Field.Value

instance (t : Entity) : DecidableEq t.Field :=
  match t with
  | expression => inferInstanceAs (DecidableEq Expression.Field)
  | operation => inferInstanceAs (DecidableEq Operation.Field)
  | agent => inferInstanceAs (DecidableEq Agent.Field)

def shape (room : Nat) : (t : Entity) → Json.Shape t.Field t.FieldValue
  | expression => Expression.shape room
  | operation => Operation.shape room
  | agent => Agent.shape room

def ofSlots (room : Nat) : (t : Entity) → Slots t.FieldValue → Except Fault t.Value
  | expression, s => Expression.ofSlots (Expression.shape room) s
  | operation, s => Operation.ofSlots (Operation.shape room) s
  | agent, s => Agent.ofSlots (Agent.shape room) s

def idField : (t : Entity) → t.Field
  | expression => .id
  | operation => .id
  | agent => .id

def otherId : Entity → String
  | expression => "expression_id"
  | operation => "operation_id"
  | agent => "agent_id"

def keys : Entity → List String
  | expression => ["id", "expression_id", "data", "status", "is_ready", "result", "created_at", "updated_at",
      "parse_date", "parse_data", "user_id", "agent_id"]
  | operation => ["id", "operation_id", "operation_type", "execution_time", "user_id"]
  | agent => ["id", "agent_id", "status", "number_of_parallel_calculations", "number_of_active_calculations",
      "last_ping", "created_at"]

def optionalKeys : Entity → List String
  | expression => ["updated_at", "parse_date", "parse_data", "user_id", "agent_id"]
  | operation => ["user_id"]
  | agent => []

/-! ## Rewriting an object -/

def digits (n : Int) : Json := .text (String.ofList (Text.intChars n))

/-- A reference as a pair of a number and the mark whether it is valid. -/
def pair (n : Int) (valid : Bool) : Json := .struct [("Int32", .number (.whole n)), ("Valid", .bool valid)]

/-- The members that say no more than if they were left out. -/
inductive Omissible : Entity → String → Json → Prop
  | null {t : Entity} {k : String} (h : k ∈ t.optionalKeys) : Omissible t k .null
  | wholeResult : Omissible expression "result" (.number (.whole 0))
  | realResult : Omissible expression "result" (.number (.real (.zero false)))
  | idle : Omissible agent "number_of_active_calculations" (.number (.whole 0))

/-- One difference between two objects.  `permute` brings any member to the front, where the others change it. -/
inductive Rewrite : Entity → List Member → List Member → Prop
  | permute {t : Entity} {ms ms' : List Member} (h : ms.Perm ms') : Rewrite t ms ms'
  | add {t : Entity} {ms : List Member} {k : String} {v : Json} (unknown : k ∉ t.keys) (wellFormed : v.intact = true) :
    Rewrite t ms ((some k, v) :: ms)
  | rename {t : Entity} {ms : List Member} {v : Json} : Rewrite t ((some "id", v) :: ms) ((some t.otherId, v) :: ms)
  | renameBack {t : Entity} {ms : List Member} {v : Json} :
    Rewrite t ((some t.otherId, v) :: ms) ((some "id", v) :: ms)
  | spell {t : Entity} {ms : List Member} {k : String} {n : Int} (h : k ∈ ["id", t.otherId, "user_id"]) :
    Rewrite t ((some k, .number (.whole n)) :: ms) ((some k, digits n) :: ms)
  | spellAgent {ms : List Member} {n : Int} :
    Rewrite expression ((some "agent_id", .number (.whole n)) :: ms) ((some "agent_id", digits n) :: ms)
  | pairAgent {ms : List Member} {n : Int} :
    Rewrite expression ((some "agent_id", .number (.whole n)) :: ms) ((some "agent_id", pair n true) :: ms)
  | pairNoAgent {ms : List Member} {n : Int} (low : -(signedBound : Int) ≤ n) (high : n < signedBound) :
    Rewrite expression ((some "agent_id", .null) :: ms) ((some "agent_id", pair n false) :: ms)
  | leaveOut {t : Entity} {ms : List Member} {k : String} {v : Json} (h : Omissible t k v) :
    Rewrite t ((some k, v) :: ms) ms

/-! ## What a rewriting keeps -/

variable {t : Entity} {room : Nat}

theorem decode_object_eq_ok_iff {ms : List Member} {x : t.Value} : t.decode room (.object ms) = .ok x ↔
    ∃ s, (t.shape (room - 1)).takeAll (some .empty) ms = some s ∧ t.ofSlots (room - 1) s = .ok x := by
  have hdecode : t.decode room (.object ms) =
      (t.shape (room - 1)).slots (.object ms) >>= t.ofSlots (room - 1) := by
    cases t <;> rfl
  rw [hdecode, Json.bind_eq_ok]
  exact exists_congr fun s => and_congr_left' Json.Shape.slots_object_eq_ok_iff

theorem field?_id : (t.shape room).field? "id" = some t.idField := by
  cases t <;> rfl

theorem field?_otherId : (t.shape room).field? t.otherId = some t.idField := by
  cases t <;> rfl

theorem id_ne_otherId : "id" ≠ t.otherId := by
  cases t <;> decide

theorem key_mem_keys (f : t.Field) : (t.shape room).key f ∈ t.keys := by
  cases t <;> cases f <;> simp [shape, Expression.shape, Operation.shape, Agent.shape, Expression.Field.key,
    Operation.Field.key, Agent.Field.key, keys]

theorem alias_mem_keys {f : t.Field} {k : String} (h : (t.shape room).alias? f = some k) : k ∈ t.keys := by
  have hother : k = t.otherId := by
    cases t <;> cases f <;> first | exact (Option.some.inj h).symm | cases h
  rw [hother]
  cases t <;> decide

theorem field?_unknown {k : String} (h : k ∉ t.keys) : (t.shape room).field? k = none := by
  unfold Json.Shape.field?
  rw [List.find?_eq_none]
  intro f _ hf
  rw [Bool.or_eq_true, decide_eq_true_eq, decide_eq_true_eq] at hf
  rcases hf with rfl | hf
  · exact h (key_mem_keys f)
  · exact h (alias_mem_keys hf)

theorem decode_of_standsFor {m m' : Member} {ms : List Member} {x : t.Value}
    (h : (t.shape (room - 1)).StandsFor m' m) (hx : t.decode room (.object (m :: ms)) = .ok x) :
    t.decode room (.object (m' :: ms)) = .ok x := by
  obtain ⟨s, hs, hx⟩ := decode_object_eq_ok_iff.mp hx
  exact decode_object_eq_ok_iff.mpr ⟨s, Json.Shape.takeAll_of_standsFor h hs, hx⟩

/-! ### Identifiers and references -/

theorem decode_digits {n : Int} {i : Identifier} (h : Identifier.decode room (.number (.whole n)) = .ok i) :
    Identifier.decode room (digits n) = .ok i := by
  cases Identifier.decode_eq_ok_iff.mp h
  rw [digits, Text.ofList_intChars]
  exact Identifier.decode_eq_ok_iff.mpr (.string _)

theorem decodeOption_digits {n : Int} {o : Option Identifier}
    (h : Json.decodeOption (Identifier.decode room) (.number (.whole n)) = .ok o) :
    Json.decodeOption (Identifier.decode room) (digits n) = .ok o := by
  obtain ⟨i, hi, rfl⟩ := Json.map_eq_ok.mp h
  exact Json.map_eq_ok.mpr ⟨i, decode_digits hi, rfl⟩

theorem of_decodeNullable_whole {n : Int} {o : Option Identifier}
    (h : Identifier.decodeNullable room (.number (.whole n)) = .ok o) :
    (-(signedBound : Int) ≤ n ∧ n < signedBound) ∧ o = some ⟨toString n⟩ := by
  obtain ⟨-, hrefers⟩ := Identifier.decodeNullable_eq_ok_iff.mp h
  cases hrefers with
  | plain hplain =>
    cases hplain with
    | integer low high => exact ⟨⟨low, high⟩, rfl⟩

theorem decodeNullable_digits (n : Int) : Identifier.decodeNullable room (digits n) = .ok (some ⟨toString n⟩) := by
  rw [digits, Text.ofList_intChars]
  exact Identifier.decodeNullable_eq_ok_iff.mpr ⟨rfl, .plain (.string _)⟩

theorem decodeNullable_pair (hroom : 1 < room) {n : Int} (hn : -(signedBound : Int) ≤ n ∧ n < signedBound)
    (valid : Bool) : Identifier.decodeNullable room (pair n valid) =
      .ok (if valid then some ⟨toString n⟩ else none) := by
  have hstorable : (pair n valid).storable room = true := by
    unfold pair Json.struct
    rw [List.map_cons, List.map_cons, List.map_nil, Json.storable, decide_eq_true hroom]
    rfl
  exact Identifier.decodeNullable_eq_ok_iff.mpr ⟨hstorable, .pair rfl hn.1 hn.2 rfl⟩

/-! ### Members that are left out -/

/-- Whether a value for a field makes no difference to a record that has none for it. -/
def Spare (room : Nat) (t : Entity) (f : t.Field) (x : t.FieldValue f) : Prop :=
  ∀ s : Slots t.FieldValue, s f = none → t.ofSlots room (s.set f x) = t.ofSlots room s

theorem spare_of_optional {k : String} (h : k ∈ t.optionalKeys) :
    ∃ f, (t.shape room).field? k = some f ∧ ∀ x, (t.shape room).decode f .null = .ok x → Spare room t f x := by
  cases t with
  | expression =>
    obtain ⟨f, hf, rfl⟩ : ∃ f ∈ [Expression.Field.updatedAt, .parseDate, .parseData, .userId, .agentId], f.key = k := by
      revert k
      decide
    refine ⟨f, (Expression.named_shape room).found f, fun x hx s hs => ?_⟩
    simp only [List.mem_cons, List.not_mem_nil, or_false] at hf
    rcases hf with rfl | rfl | rfl | rfl | rfl <;> cases hx <;>
      simp [ofSlots, Expression.ofSlots, Json.Shape.need, Slots.set, hs]
  | operation =>
    cases List.mem_singleton.mp h
    refine ⟨Operation.Field.userId, rfl, fun x hx s hs => ?_⟩
    cases hx
    simp [ofSlots, Operation.ofSlots, Json.Shape.need, Slots.set, hs]
  | agent => cases h

theorem decodeReal_zero : Json.decodeReal (.number (.whole 0)) = .ok (.zero false) :=
  eq_ok_of_toOption (by decide +kernel)

theorem spare_of_omissible {k : String} {v : Json} (h : Omissible t k v) :
    ∃ f, (t.shape room).field? k = some f ∧ ∀ x, (t.shape room).decode f v = .ok x → Spare room t f x := by
  have hresult : Spare room expression Expression.Field.result (.zero false) := by
    intro s hs
    simp [ofSlots, Expression.ofSlots, Json.Shape.need, Slots.set, hs]
  cases h with
  | null h => exact spare_of_optional h
  | wholeResult =>
    refine ⟨Expression.Field.result, rfl, fun x hx => ?_⟩
    dsimp only [shape, Expression.shape, Expression.Field.decode] at hx
    rw [decodeReal_zero] at hx
    cases hx
    exact hresult
  | realResult =>
    refine ⟨Expression.Field.result, rfl, fun x hx => ?_⟩
    cases hx
    exact hresult
  | idle =>
    refine ⟨Agent.Field.active, rfl, fun x hx s hs => ?_⟩
    cases hx
    simp [ofSlots, Agent.ofSlots, Json.Shape.need, Slots.set, hs]

theorem decode_of_omissible {k : String} {v : Json} {ms : List Member} {x : t.Value} (h : Omissible t k v)
    (hx : t.decode room (.object ((some k, v) :: ms)) = .ok x) : t.decode room (.object ms) = .ok x := by
  obtain ⟨s, hs, hx⟩ := decode_object_eq_ok_iff.mp hx
  obtain ⟨f, hk, hspare⟩ := spare_of_omissible h
  obtain ⟨s', y, hs', hempty, hy, rfl⟩ := (Json.Shape.takeAll_field_cons_iff hk).mp hs
  rw [hspare y hy s' hempty] at hx
  exact decode_object_eq_ok_iff.mpr ⟨s', hs', hx⟩

/-! ## Any rewritings -/

theorem standsFor_spelled {k : String} (h : k ∈ ["id", t.otherId, "user_id"]) (n : Int) :
    (t.shape room).StandsFor (some k, digits n) (some k, .number (.whole n)) := by
  simp only [List.mem_cons, List.not_mem_nil, or_false] at h
  have hid : ∀ x, (t.shape room).decode t.idField (.number (.whole n)) = .ok x →
      (t.shape room).decode t.idField (digits n) = .ok x := by
    intro x hx
    cases t <;> exact decode_digits (show Identifier.decode room _ = _ from hx)
  rcases h with rfl | rfl | rfl
  · exact Json.Shape.standsFor_of_field field?_id field?_id hid
  · exact Json.Shape.standsFor_of_field field?_otherId field?_otherId hid
  · cases t with
    | expression =>
      exact Json.Shape.standsFor_of_field (f := Expression.Field.userId) rfl rfl fun _ hx => decodeOption_digits hx
    | operation =>
      exact Json.Shape.standsFor_of_field (f := Operation.Field.userId) rfl rfl fun _ hx => decodeOption_digits hx
    | agent => exact Json.Shape.standsFor_of_unknown rfl _ rfl

/-- **One rewriting keeps the value.** -/
theorem Rewrite.decode {ms ms' : List Member} (h : Rewrite t ms ms') (hroom : 2 < room) {x : t.Value}
    (hx : t.decode room (.object ms) = .ok x) : t.decode room (.object ms') = .ok x := by
  have hagent : ∀ {v v' : Json}, (∀ o, Identifier.decodeNullable (room - 1) v = .ok o →
      Identifier.decodeNullable (room - 1) v' = .ok o) →
      (expression.shape (room - 1)).StandsFor (some "agent_id", v') (some "agent_id", v) := by
    intro v v' hv
    exact Json.Shape.standsFor_of_field (f := Expression.Field.agentId) rfl rfl hv
  cases h with
  | permute h =>
    rw [decode_object_eq_ok_iff] at hx ⊢
    rw [← Json.Shape.takeAll_perm h]
    exact hx
  | add unknown wellFormed =>
    rw [decode_object_eq_ok_iff] at hx ⊢
    rw [Json.Shape.takeAll_cons, Json.Shape.take_of_unknown (field?_unknown unknown) wellFormed]
    exact hx
  | rename => exact decode_of_standsFor (Json.Shape.standsFor_of_field field?_id field?_otherId fun _ => id) hx
  | renameBack => exact decode_of_standsFor (Json.Shape.standsFor_of_field field?_otherId field?_id fun _ => id) hx
  | spell h => exact decode_of_standsFor (standsFor_spelled h _) hx
  | spellAgent =>
    refine decode_of_standsFor (hagent fun o ho => ?_) hx
    rw [(of_decodeNullable_whole ho).2]
    exact decodeNullable_digits _
  | pairAgent =>
    refine decode_of_standsFor (hagent fun o ho => ?_) hx
    obtain ⟨hn, rfl⟩ := of_decodeNullable_whole ho
    exact decodeNullable_pair (by omega) hn true
  | pairNoAgent low high =>
    refine decode_of_standsFor (hagent fun o ho => ?_) hx
    cases ho
    exact decodeNullable_pair (by omega) ⟨low, high⟩ false
  | leaveOut h => exact decode_of_omissible h hx

/-- **Every spelling decodes to the same value**, in a value that leaves room for a pair and as a text of its own; and
no object has its identifier under both names. -/
theorem decode_rewritten (t : Entity) :
    (∀ ms ms' room x, 2 < room → Relation.ReflTransGen (Rewrite t) ms ms' → t.decode room (.object ms) = .ok x →
      t.decode room (.object ms') = .ok x) ∧
    (∀ ms ms' s s' x, Json.read s = ⟨.object ms, true⟩ → Json.read s' = ⟨.object ms', true⟩ →
      Relation.ReflTransGen (Rewrite t) ms ms' → Json.ofText (t.decode Json.topRoom) s = .ok x →
      Json.ofText (t.decode Json.topRoom) s' = .ok x) ∧
    ∀ ms room v w x, (some "id", v) ∈ ms → (some t.otherId, w) ∈ ms → t.decode room (.object ms) ≠ .ok x := by
  have hvalues : ∀ ms ms' room x, 2 < room → Relation.ReflTransGen (Rewrite t) ms ms' →
      t.decode room (.object ms) = .ok x → t.decode room (.object ms') = .ok x := by
    intro ms ms' room x hroom h hx
    induction h with
    | refl => exact hx
    | tail _ h ih => exact h.decode hroom ih
  refine ⟨hvalues, ?_, ?_⟩
  · intro ms ms' s s' x hs hs' h hx
    have hvalue := Json.decoded_of_ofText hx
    rw [hs] at hvalue
    exact Json.ofText_of_read hs' (hvalues ms ms' Json.topRoom x (by decide) h hvalue)
  · intro ms room v w x hv hw hx
    obtain ⟨s, hs, -⟩ := decode_object_eq_ok_iff.mp hx
    exact Json.Shape.slots_ne_ok_of_twice field?_id field?_otherId id_ne_otherId hv hw s
      (Json.Shape.slots_object_eq_ok_iff.mpr hs)

/-! ### An expression of an old build -/

def unchanged : List Member :=
  [(some "data", .text "2+2"), (some "status", .text "result"), (some "is_ready", .bool true),
    (some "result", .number (.whole 4)), (some "created_at", .text "2024-03-01T10:00:00.5Z")]

def oldFour : List Member :=
  (some "expression_id", .number (.whole 7)) :: (some "agent_id", .number (.whole 3)) :: (some "updated_at", .null) ::
    unchanged

def newFour : List Member :=
  (some "note", .array [.null]) :: (some "agent_id", pair 3 true) :: (some "id", digits 7) :: unchanged

theorem rewrite_oldFour : Relation.ReflTransGen (Rewrite expression) oldFour newFour := by
  refine .head .renameBack (.head (.spell (by decide)) ?_)
  refine .head (.permute (.swap _ _ _)) (.head .pairAgent ?_)
  refine .head (.permute (.trans (.cons _ (.swap _ _ _)) (.swap _ _ _))) ?_
  exact .head (.leaveOut (.null (by decide))) (.single (.add (by decide) rfl))

theorem decode_newFour : Expression.decode Json.topRoom (.object oldFour) = .ok four ∧
    Expression.decode Json.topRoom (.object newFour) = .ok four ∧
    ∀ x, Expression.decode Json.topRoom (.object ((some "id", .text "7") :: oldFour)) ≠ .ok x := by
  have hold : Expression.decode Json.topRoom (.object oldFour) = .ok four := eq_ok_of_toOption (by decide +kernel)
  obtain ⟨hvalues, -, htwice⟩ := decode_rewritten expression
  exact ⟨hold, hvalues _ _ _ _ (by decide) rewrite_oldFour hold, fun x =>
    htwice _ _ _ _ x (.head _) (.tail _ (.head _))⟩

end Entity
end CalcConsole
