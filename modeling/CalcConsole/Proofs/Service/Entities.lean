import CalcConsole.Proofs.Json.Records
import CalcConsole.Service.Client
/-! # Entities

What the service lists: expressions, operations and agents.  Whatever text such a value was decoded from, it is decoded
again from the text that is written of it, alone or in a list. -/
namespace CalcConsole

open Json (Decoder ofText)

def Binary64.ReadsBack (x : Binary64) : Prop := Json.readNumber x.marked = some (.real x, [])

instance (x : Binary64) : Decidable x.ReadsBack := inferInstanceAs (Decidable (_ = _))

theorem Identifier.decode_json (room : Nat) (i : Identifier) : decode room i.json = .ok i := rfl

theorem Identifier.decodeNullable_ofOption (room : Nat) (o : Option Identifier) :
    decodeNullable room (.ofOption json o) = .ok o := by
  cases o <;> rfl

theorem Json.legible_ofOption {A : Type} {value : A → Json} (h : ∀ a, Legible (value a)) (o : Option A) :
    Legible (.ofOption value o) := by
  cases o with
  | none => trivial
  | some a => exact h a

theorem Json.legible_identifier : ∀ o, Legible (.ofOption Identifier.json o) := legible_ofOption fun _ => rfl

theorem Json.legible_nat {n : Nat} (h : n < unsignedBound) : Legible (.nat n) :=
  spellsNumber_of_readNumber (readNumber_natChars h)

/-! ## Expressions -/

theorem ExpressionStatus.decode_json (s : ExpressionStatus) : decode s.json = .ok s := by
  cases s <;> rfl

namespace Expression

variable (e : Expression)

def value : (f : Field) → f.Value
  | .id => e.id
  | .data => e.data
  | .status => e.status
  | .isReady => e.isReady
  | .result => e.result
  | .createdAt => e.createdAt
  | .updatedAt => e.updatedAt
  | .parseDate => e.parseDate
  | .parseData => e.parseData
  | .userId => e.userId
  | .agentId => e.agentId

def fieldJson : Field → Json
  | .id => e.id.json
  | .data => .text e.data
  | .status => e.status.json
  | .isReady => .bool e.isReady
  | .result => .real e.result
  | .createdAt => .text e.createdAt.render
  | .updatedAt => .ofOption (fun t => .text t.render) e.updatedAt
  | .parseDate => .ofOption (fun t => .text t.render) e.parseDate
  | .parseData => .ofOption .text e.parseData
  | .userId => .ofOption Identifier.json e.userId
  | .agentId => .ofOption Identifier.json e.agentId

theorem named_shape (room : Nat) : (shape room).Named where
  listed f := by cases f <;> simp [shape]
  nodup := by simp [shape]
  found f := by cases f <;> rfl

theorem decode_fieldJson (room : Nat) (f : Field) : (shape room).decode f (e.fieldJson f) = .ok (e.value f) := by
  have htime : ∀ o, Json.decodeOption Json.decodeTimestamp (.ofOption (fun t => .text t.render) o) = .ok o :=
    Json.decodeOption_ofOption Json.decodeTimestamp_render fun _ => Json.noConfusion
  have htext : ∀ o, Json.decodeOption Json.decodeString (.ofOption .text o) = .ok o :=
    Json.decodeOption_ofOption (fun _ => rfl) fun _ => Json.noConfusion
  cases f with
  | id => rfl
  | data => rfl
  | status => exact ExpressionStatus.decode_json e.status
  | isReady => rfl
  | result => rfl
  | createdAt =>
    dsimp only [shape, Field.decode, fieldJson, value]
    exact Json.decodeTimestamp_render e.createdAt
  | updatedAt => exact htime e.updatedAt
  | parseDate => exact htime e.parseDate
  | parseData => exact htext e.parseData
  | userId => exact Json.decodeOption_ofOption (Identifier.decode_json room) (fun _ => Json.noConfusion) e.userId
  | agentId => exact Identifier.decodeNullable_ofOption room e.agentId

theorem decode_json (room : Nat) : decode room e.json = .ok e := by
  have hjson : e.json = (shape (room - 1)).written e.fieldJson := rfl
  unfold decode
  rw [hjson, Json.Shape.slots_written (named_shape _) (e.decode_fieldJson _)]
  rfl

theorem legible_json (h : e.result.ReadsBack) : e.json.Legible := by
  have htime : ∀ o : Option Timestamp, Json.Legible (.ofOption (fun t => .text t.render) o) :=
    Json.legible_ofOption fun _ => rfl
  have htext : ∀ o : Option String, Json.Legible (.ofOption .text o) := Json.legible_ofOption fun _ => rfl
  refine (shape 0).legible_written e.fieldJson fun f => ?_
  cases f with
  | result => exact Json.spellsNumber_of_readNumber h
  | updatedAt => exact htime e.updatedAt
  | parseDate => exact htime e.parseDate
  | parseData => exact htext e.parseData
  | userId => exact Json.legible_identifier e.userId
  | agentId => exact Json.legible_identifier e.agentId
  | _ => trivial

end Expression

/-! ## Operations -/

namespace Operation

variable (o : Operation)

def value : (f : Field) → f.Value
  | .id => o.id
  | .operationType => o.operationType
  | .executionTime => o.executionTime
  | .userId => o.userId

def fieldJson : Field → Json
  | .id => o.id.json
  | .operationType => .text o.operationType
  | .executionTime => .nat o.executionTime
  | .userId => .ofOption Identifier.json o.userId

theorem named_shape (room : Nat) : (shape room).Named where
  listed f := by cases f <;> simp [shape]
  nodup := by simp [shape]
  found f := by cases f <;> rfl

variable {o}

theorem decode_json (h : o.executionTime < twoTo 64) (room : Nat) : decode room o.json = .ok o := by
  have hjson : o.json = (shape (room - 1)).written o.fieldJson := rfl
  have hfields : ∀ f, (shape (room - 1)).decode f (o.fieldJson f) = .ok (o.value f) := by
    intro f
    cases f with
    | id => rfl
    | operationType => rfl
    | executionTime =>
      dsimp only [shape, Field.decode, fieldJson, value]
      exact Json.decodeNat_nat h
    | userId => exact Json.decodeOption_ofOption (Identifier.decode_json _) (fun _ => Json.noConfusion) o.userId
  unfold decode
  rw [hjson, Json.Shape.slots_written (named_shape _) hfields]
  rfl

theorem legible_json (h : o.executionTime < twoTo 64) : o.json.Legible := by
  refine (shape 0).legible_written o.fieldJson fun f => ?_
  cases f with
  | executionTime => exact Json.legible_nat (unsignedBound_eq ▸ h)
  | userId => exact Json.legible_identifier o.userId
  | _ => trivial

theorem lt_of_decode {room : Nat} {v : Json} (h : decode room v = .ok o) : o.executionTime < twoTo 64 := by
  obtain ⟨s, hs, h⟩ := Json.bind_eq_ok.mp h
  unfold ofSlots at h
  obtain ⟨id, -, h⟩ := Json.bind_eq_ok.mp h
  obtain ⟨operationType, -, h⟩ := Json.bind_eq_ok.mp h
  obtain ⟨executionTime, hneed, h⟩ := Json.bind_eq_ok.mp h
  cases h
  obtain ⟨w, hw⟩ := Json.Shape.decoded_of_need hs hneed
  exact Json.lt_of_decodeNat hw

end Operation

/-! ## Agents -/

theorem AgentStatus.decode_json (s : AgentStatus) : decode s.json = .ok s := by
  cases s <;> rfl

namespace Agent

variable (a : Agent)

def value : (f : Field) → f.Value
  | .id => a.id
  | .status => a.status
  | .parallel => a.parallel
  | .active => a.active
  | .lastPing => a.lastPing
  | .createdAt => a.createdAt

def fieldJson : Field → Json
  | .id => a.id.json
  | .status => a.status.json
  | .parallel => .nat a.parallel
  | .active => .nat a.active
  | .lastPing => .text a.lastPing.render
  | .createdAt => .text a.createdAt.render

theorem named_shape (room : Nat) : (shape room).Named where
  listed f := by cases f <;> simp [shape]
  nodup := by simp [shape]
  found f := by cases f <;> rfl

variable {a}

theorem decode_json (hp : a.parallel < twoTo 32) (ha : a.active < twoTo 32) (room : Nat) :
    decode room a.json = .ok a := by
  have hjson : a.json = (shape (room - 1)).written a.fieldJson := rfl
  have hfields : ∀ f, (shape (room - 1)).decode f (a.fieldJson f) = .ok (a.value f) := by
    intro f
    cases f with
    | id => rfl
    | status => exact AgentStatus.decode_json a.status
    | parallel =>
      dsimp only [shape, Field.decode, fieldJson, value]
      exact Json.decodeNat_nat hp
    | active =>
      dsimp only [shape, Field.decode, fieldJson, value]
      exact Json.decodeNat_nat ha
    | lastPing =>
      dsimp only [shape, Field.decode, fieldJson, value]
      exact Json.decodeTimestamp_render a.lastPing
    | createdAt =>
      dsimp only [shape, Field.decode, fieldJson, value]
      exact Json.decodeTimestamp_render a.createdAt
  unfold decode
  rw [hjson, Json.Shape.slots_written (named_shape _) hfields]
  rfl

theorem legible_json (hp : a.parallel < twoTo 32) (ha : a.active < twoTo 32) : a.json.Legible := by
  have hbound : twoTo 32 ≤ unsignedBound := by decide
  refine (shape 0).legible_written a.fieldJson fun f => ?_
  cases f with
  | parallel => exact Json.legible_nat (Nat.lt_of_lt_of_le hp hbound)
  | active => exact Json.legible_nat (Nat.lt_of_lt_of_le ha hbound)
  | _ => trivial

/-- Counts that were decoded fit into 32 bits, and so does the count for an agent that gives none. -/
theorem lt_of_decode {room : Nat} {v : Json} (h : decode room v = .ok a) :
    a.parallel < twoTo 32 ∧ a.active < twoTo 32 := by
  unfold decode at h
  obtain ⟨s, hs, h⟩ := Json.bind_eq_ok.mp h
  unfold ofSlots at h
  obtain ⟨id, -, h⟩ := Json.bind_eq_ok.mp h
  obtain ⟨status, -, h⟩ := Json.bind_eq_ok.mp h
  obtain ⟨parallel, hneed, h⟩ := Json.bind_eq_ok.mp h
  obtain ⟨lastPing, -, h⟩ := Json.bind_eq_ok.mp h
  obtain ⟨createdAt, -, h⟩ := Json.bind_eq_ok.mp h
  cases h
  obtain ⟨w, hw⟩ := Json.Shape.decoded_of_need hs hneed
  refine ⟨Json.lt_of_decodeNat hw, ?_⟩
  dsimp only
  cases hactive : s .active with
  | none => exact twoTo_pos 32
  | some n =>
    obtain ⟨w, hw⟩ := Json.Shape.decoded_of_slots hs .active n hactive
    exact Json.lt_of_decodeNat hw

end Agent

/-! ## The three of them -/

inductive Entity where
  | expression | operation | agent

namespace Entity

@[reducible] def Value : Entity → Type
  | expression => Expression
  | operation => Operation
  | agent => Agent

def decode : (t : Entity) → (room : Nat) → Decoder t.Value
  | expression => Expression.decode
  | operation => Operation.decode
  | agent => Agent.decode

def json : (t : Entity) → t.Value → Json
  | expression => Expression.json
  | operation => Operation.json
  | agent => Agent.json

def decodeList (t : Entity) : Decoder (List t.Value) := Client.listOf t.decode

def listJson (t : Entity) (vs : List t.Value) : Json := .array (vs.map t.json)

/-- The values that decoding some text can give, alone or in a list. -/
inductive Decoded (t : Entity) : t.Value → Prop
  | alone {v : t.Value} (text : String) (h : ofText (t.decode Json.topRoom) text = .ok v) : Decoded t v
  | listed {v : t.Value} (text : String) (vs : List t.Value) (h : ofText t.decodeList text = .ok vs) (hv : v ∈ vs) :
    Decoded t v

def ReadsBack : (t : Entity) → t.Value → Prop
  | expression, e => e.result.ReadsBack
  | operation, _ | agent, _ => True

variable {t : Entity}

theorem Decoded.exists_json {v : t.Value} (h : t.Decoded v) : ∃ room w, t.decode room w = .ok v := by
  cases h with
  | alone text h => exact ⟨_, _, Json.decoded_of_ofText h⟩
  | listed text vs h hv =>
    have hlist := Json.decoded_of_ofText h
    unfold decodeList Client.listOf Json.decodeList at hlist
    split at hlist
    · obtain ⟨w, hw⟩ := Json.decoded_of_mem_items hlist hv
      exact ⟨_, w, hw⟩
    · cases hlist

theorem Decoded.decode_json {v : t.Value} (h : t.Decoded v) (room : Nat) : t.decode room (t.json v) = .ok v := by
  obtain ⟨room', w, hw⟩ := h.exists_json
  cases t with
  | expression => exact Expression.decode_json v room
  | operation => exact Operation.decode_json (Operation.lt_of_decode hw) room
  | agent =>
    obtain ⟨hp, ha⟩ := Agent.lt_of_decode hw
    exact Agent.decode_json hp ha room

theorem Decoded.legible_json {v : t.Value} (h : t.Decoded v) (hr : t.ReadsBack v) : (t.json v).Legible := by
  obtain ⟨room', w, hw⟩ := h.exists_json
  cases t with
  | expression => exact Expression.legible_json v hr
  | operation => exact Operation.legible_json (Operation.lt_of_decode hw)
  | agent =>
    obtain ⟨hp, ha⟩ := Agent.lt_of_decode hw
    exact Agent.legible_json hp ha

/-- **What was decoded is decoded again** from what is written of it, on one line or on many: every value alone, and any
list of them. -/
theorem decode_encode (t : Entity) (vs : List t.Value) (h : ∀ v ∈ vs, t.Decoded v ∧ t.ReadsBack v) :
    (∀ v ∈ vs, ofText (t.decode Json.topRoom) (t.json v).compact = .ok v ∧
      ofText (t.decode Json.topRoom) (t.json v).pretty = .ok v) ∧
    ofText t.decodeList (t.listJson vs).compact = .ok vs ∧ ofText t.decodeList (t.listJson vs).pretty = .ok vs := by
  have hlegible : (t.listJson vs).Legible := by
    unfold listJson
    rw [Json.Legible]
    exact Json.legibleItems_map fun v hv => (h v hv).1.legible_json (h v hv).2
  have hdecode : t.decodeList (t.listJson vs) = .ok vs := Json.decodeItems_map fun v hv => (h v hv).1.decode_json _
  refine ⟨fun v hv => ?_, Json.ofText_of_read (Json.read_compact hlegible) hdecode,
    Json.ofText_of_read (Json.read_pretty hlegible) hdecode⟩
  obtain ⟨hdecoded, hreads⟩ := h v hv
  have hv := hdecoded.legible_json hreads
  exact ⟨Json.ofText_of_read (Json.read_compact hv) (hdecoded.decode_json _),
    Json.ofText_of_read (Json.read_pretty hv) (hdecoded.decode_json _)⟩

/-! ### An expression and an operation -/

def morning : Timestamp := ⟨2024, 3, 1, 10, 0, 0, 500000000, by decide, by decide, by decide, by decide, by decide⟩

def four : Expression where
  id := ⟨"7"⟩
  data := "2+2"
  status := .result
  isReady := true
  result := ⟨false, twoTo 52, 1024, by decide, by decide, .inr (by decide)⟩
  createdAt := morning
  updatedAt := none
  parseDate := none
  parseData := none
  userId := none
  agentId := some ⟨"3"⟩

def addition : Operation := ⟨⟨"1"⟩, "+", 5, none⟩

theorem eq_ok_of_toOption {ε A : Type} {r : Except ε A} {a : A} (h : r.toOption = some a) : r = .ok a := by
  cases r with
  | error e => cases h
  | ok b => exact congrArg Except.ok (Option.some.inj h)

/-- The fields in another order, identifiers as numbers, and a clock that is an hour ahead. -/
theorem decoded_four : Decoded .expression four :=
  .alone ("\x7b\"is_ready\":true,\"expression_id\":7,\"data\":\"2+2\",\"status\":\"result\",\"result\":4," ++
    "\"created_at\":\"2024-03-01T11:00:00.5+01:00\",\"agent_id\":3\x7d") (eq_ok_of_toOption (by decide +kernel))

theorem decoded_addition : Decoded .operation addition :=
  .listed "[\x7b\"operation_id\": 1, \"operation_type\": \"+\", \"execution_time\": 5\x7d]" [addition]
    (eq_ok_of_toOption (by decide +kernel)) (List.mem_singleton_self _)

theorem decode_encode_four : Decoded .expression four ∧ four.result.ReadsBack ∧
    ofText (Expression.decode Json.topRoom) four.json.compact = .ok four ∧
    ofText (Operation.decode Json.topRoom) addition.json.compact = .ok addition := by
  have hreads : four.result.ReadsBack := by decide +kernel
  have hfour := decode_encode .expression [four] (List.forall_mem_singleton.mpr ⟨decoded_four, hreads⟩)
  have haddition := decode_encode .operation [addition] (List.forall_mem_singleton.mpr ⟨decoded_addition, trivial⟩)
  exact ⟨decoded_four, hreads, (hfour.1 _ (List.mem_singleton_self _)).1, (haddition.1 _ (List.mem_singleton_self _)).1⟩

end Entity
end CalcConsole
