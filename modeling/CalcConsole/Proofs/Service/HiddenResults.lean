import CalcConsole.Proofs.Service.Conversation
import CalcConsole.Proofs.Views.Fetching
/-! # Results that are not shown

The result of an expression counts only when the expression is marked as ready and has the status of one.  Until then
the service may send any number for it, or none.  Two answers that differ in nothing but such results `Rephrases` one
another: what is decoded from them is the same once the hidden results are left out (`veiled`). -/
namespace CalcConsole

/-! ## Expressions -/

namespace Expression

theorem hasResult_eq_false_iff (e : Expression) : e.hasResult = false ↔ e.isReady = false ∨ e.status ≠ .result := by
  unfold hasResult
  rw [Bool.and_eq_false_iff, beq_eq_false_iff_ne]

/-- The expression as far as it is shown, without a result that is not. -/
def veiled (e : Expression) : Expression := if e.hasResult then e else { e with result := .zero false }

theorem veiled_of_hasResult {e : Expression} (h : e.hasResult = true) : e.veiled = e := if_pos h

theorem veiled_of_hidden {e : Expression} (h : e.hasResult = false) : e.veiled = { e with result := .zero false } := by
  unfold veiled
  rw [h, if_neg Bool.false_ne_true]

/-- What does not look at the result is not changed by the veil. -/
theorem apply_veiled {A : Type} {f : Expression → A} (h : ∀ e x, f { e with result := x } = f e) (e : Expression) :
    f e.veiled = f e := by
  unfold veiled
  split
  · rfl
  · exact h e _

@[simp] theorem id_veiled (e : Expression) : e.veiled.id = e.id := apply_veiled (fun _ _ => rfl) e

@[simp] theorem data_veiled (e : Expression) : e.veiled.data = e.data := apply_veiled (fun _ _ => rfl) e

@[simp] theorem status_veiled (e : Expression) : e.veiled.status = e.status := apply_veiled (fun _ _ => rfl) e

@[simp] theorem isReady_veiled (e : Expression) : e.veiled.isReady = e.isReady := apply_veiled (fun _ _ => rfl) e

@[simp] theorem createdAt_veiled (e : Expression) : e.veiled.createdAt = e.createdAt := apply_veiled (fun _ _ => rfl) e

@[simp] theorem isConsistent_veiled (e : Expression) : e.veiled.isConsistent = e.isConsistent :=
  apply_veiled (fun _ _ => rfl) e

@[simp] theorem authoritativeResult_veiled (e : Expression) : e.veiled.authoritativeResult = e.authoritativeResult := by
  cases h : e.hasResult with
  | true => rw [veiled_of_hasResult h]
  | false =>
    have hveiled : e.veiled.hasResult = false := (apply_veiled (f := hasResult) (fun _ _ => rfl) e).trans h
    rw [authoritativeResult, authoritativeResult, hveiled, h]
    rfl

end Expression

/-! ## Texts of an expression -/

/-- A value without the member `result`, or without the fifth item of an array, which stands for it. -/
def Json.withoutResult : Json → Json
  | .object members => .object (members.filter fun m => m.1 != some "result")
  | .array items => .array (items.eraseIdx 4)
  | v => v

namespace Expression

variable {room : Nat} {v v' : Json} {e e' : Expression}

theorem gives_array_iff {f : Field} (hf : f ≠ .result) {w : Json} {items : List Json} :
    (shape room).Gives f w (.array items) ↔ (f, w) ∈ ((shape room).fields.eraseIdx 4).zip (items.eraseIdx 4) := by
  show (f, w) ∈ List.zip _ items ↔ _
  match items with
  | [] | [_] | [_, _] | [_, _, _] | [_, _, _, _] => rfl
  | a :: b :: c :: d :: r :: rest => simp [shape, hf]

theorem gives_object_iff {f : Field} (hf : f ≠ .result) {w : Json} {members : List (Option String × Json)} :
    (shape room).Gives f w (.object members) ↔
      (shape room).Gives f w (.object (members.filter fun m => m.1 != some "result")) := by
  refine exists_congr fun k => and_congr_right fun hk => ?_
  have hkey : (some k != some "result") = true := by
    rw [bne_iff_ne]
    rintro he
    cases he
    exact hf (Option.some.inj hk).symm
  rw [List.mem_filter]
  exact ⟨fun h => ⟨h, hkey⟩, And.left⟩

theorem gives_iff_of_withoutResult (hv : v'.withoutResult = v.withoutResult) {f : Field} (hf : f ≠ .result) (w : Json) :
    (shape room).Gives f w v' ↔ (shape room).Gives f w v := by
  cases v' with
  | object members' =>
    cases v with
    | object members => exact (gives_object_iff hf).trans (by rw [Json.object.inj hv, ← gives_object_iff hf])
    | _ => cases hv
  | array items' =>
    cases v with
    | array items => rw [gives_array_iff hf, gives_array_iff hf, Json.array.inj hv]
    | _ => cases hv
  | _ =>
    cases v <;> cases hv
    rfl

/-- **Values that differ in the result only** give expressions that do. -/
theorem eq_of_withoutResult (h : decode room v = .ok e) (h' : decode room v' = .ok e')
    (hv : v'.withoutResult = v.withoutResult) : e' = { e with result := e'.result } := by
  obtain ⟨s, hs, h⟩ := Json.bind_eq_ok.mp h
  obtain ⟨s', hs', h'⟩ := Json.bind_eq_ok.mp h'
  have hslots : ∀ f, f ≠ .result → s' f = s f := by
    intro f hf
    refine Option.ext fun x => ?_
    rw [Json.Shape.slots_eq_some_iff (named_shape _).nodup hs, Json.Shape.slots_eq_some_iff (named_shape _).nodup hs']
    exact exists_congr fun w => and_congr_left' (gives_iff_of_withoutResult hv hf w)
  have hneed : ∀ f, f ≠ .result → (shape (room - 1)).need s' f = (shape (room - 1)).need s f := by
    intro f hf
    unfold Json.Shape.need
    rw [hslots f hf]
  unfold ofSlots at h h'
  rw [hneed .id (by decide), hneed .data (by decide), hneed .status (by decide), hneed .isReady (by decide),
    hneed .createdAt (by decide), hslots .updatedAt (by decide), hslots .parseDate (by decide),
    hslots .parseData (by decide), hslots .userId (by decide), hslots .agentId (by decide)] at h'
  obtain ⟨id, hid, h⟩ := Json.bind_eq_ok.mp h
  obtain ⟨data, hdata, h⟩ := Json.bind_eq_ok.mp h
  obtain ⟨status, hstatus, h⟩ := Json.bind_eq_ok.mp h
  obtain ⟨isReady, hready, h⟩ := Json.bind_eq_ok.mp h
  obtain ⟨createdAt, hcreated, h⟩ := Json.bind_eq_ok.mp h
  rw [hid, hdata, hstatus, hready, hcreated] at h'
  cases h
  cases h'
  rfl

/-- Two values that both decode, and differ at most in a result that is not shown. -/
def Rephrases (room : Nat) (v v' : Json) : Prop :=
  ∃ e e', decode room v = .ok e ∧ decode room v' = .ok e' ∧
    (v' = v ∨ (e.isReady = false ∨ e.status ≠ .result) ∧ v'.withoutResult = v.withoutResult)

theorem Rephrases.veiled (h : Rephrases room v v') :
    ∃ e e', decode room v = .ok e ∧ decode room v' = .ok e' ∧ e'.veiled = e.veiled := by
  obtain ⟨e, e', he, he', rfl | ⟨hidden, hv⟩⟩ := h
  · exact ⟨e, e, he, he, rfl⟩
  · refine ⟨e, e', he, he', ?_⟩
    rw [← e.hasResult_eq_false_iff] at hidden
    have hsame := eq_of_withoutResult he he' hv
    have hidden' : e'.hasResult = false := by
      rw [hsame]
      exact hidden
    rw [veiled_of_hidden hidden, veiled_of_hidden hidden', hsame]

theorem decodeItems_rephrased {vs vs' : List Json} (h : List.Forall₂ (Rephrases room) vs vs') :
    ∃ es es', Json.decodeItems (decode room) vs = .ok es ∧ Json.decodeItems (decode room) vs' = .ok es' ∧
      es'.map veiled = es.map veiled := by
  induction h with
  | nil => exact ⟨[], [], rfl, rfl, rfl⟩
  | cons h _ ih =>
    obtain ⟨e, e', he, he', hveiled⟩ := h.veiled
    obtain ⟨es, es', hes, hes', hall⟩ := ih
    refine ⟨e :: es, e' :: es', ?_, ?_, by rw [List.map_cons, List.map_cons, hveiled, hall]⟩
    · exact Json.bind_eq_ok.mpr ⟨e, he, Json.bind_eq_ok.mpr ⟨es, hes, rfl⟩⟩
    · exact Json.bind_eq_ok.mpr ⟨e', he', Json.bind_eq_ok.mpr ⟨es', hes', rfl⟩⟩

end Expression

/-! ## Answers -/

/-- Two values with which the service answers an errand about expressions, alike but for results that are not shown. -/
inductive Errand.Rephrases : Errand → Json → Json → Prop
  | listed {vs vs' : List Json} (h : List.Forall₂ (Expression.Rephrases (Json.topRoom - 1)) vs vs') :
    Rephrases .listExpressions (.array vs) (.array vs')
  | created {v v' : Json} (text : String) (h : Expression.Rephrases Json.topRoom v v') :
    Rephrases (.createExpression text) v v'

/-- Two answers that are successes of the same status, with such values. -/
structure Reply.Rephrases (e : Errand) (r r' : Reply) : Prop where
  status : r'.status = r.status
  accepted : r.status < 400
  bodies : ∃ v v', r.body.document = ⟨v, true⟩ ∧ r'.body.document = ⟨v', true⟩ ∧ e.Rephrases v v'

/-- What becomes of the same request in two runs: the same, or answers that rephrase one another. -/
inductive Outcome.Rephrases (e : Errand) : Outcome → Outcome → Prop
  | same (o : Outcome) : Rephrases e o o
  | answered {r r' : Reply} (h : r.Rephrases e r') : Rephrases e (.answered r) (.answered r')

namespace Reply.Rephrases

variable {e : Errand} {r r' : Reply}

theorem readReply_eq_ok {A : Type} {decode : Json.Decoder A} {v : Json} {a : A} (hr : r.status < 400)
    (hv : r.body.document = ⟨v, true⟩) (h : decode v = .ok a) : Client.readReply decode r = .ok a :=
  Client.readReply_eq_ok_iff.mpr ⟨hr, Json.ofDocument_of_eq hv h⟩

theorem listed (h : r.Rephrases .listExpressions r') : ∃ es es',
    Client.readReply Client.decodeExpressions r = .ok es ∧ Client.readReply Client.decodeExpressions r' = .ok es' ∧
      es'.map Expression.veiled = es.map Expression.veiled := by
  obtain ⟨v, v', hv, hv', hvalues⟩ := h.bodies
  cases hvalues with
  | listed hitems =>
    obtain ⟨es, es', hes, hes', hveiled⟩ := Expression.decodeItems_rephrased hitems
    exact ⟨es, es', readReply_eq_ok h.accepted hv hes, readReply_eq_ok (h.status ▸ h.accepted) hv' hes', hveiled⟩

theorem created {text : String} (h : r.Rephrases (.createExpression text) r') : ∃ e e',
    Client.readReply (Expression.decode Json.topRoom) r = .ok e ∧
      Client.readReply (Expression.decode Json.topRoom) r' = .ok e' ∧ e'.veiled = e.veiled := by
  obtain ⟨v, v', hv, hv', hvalues⟩ := h.bodies
  cases hvalues with
  | created _ hvalue =>
    obtain ⟨e, e', he, he', hveiled⟩ := hvalue.veiled
    exact ⟨e, e', readReply_eq_ok h.accepted hv he, readReply_eq_ok (h.status ▸ h.accepted) hv' he', hveiled⟩

end Reply.Rephrases

end CalcConsole
