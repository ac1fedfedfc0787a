import CalcConsole.Proofs.Json.Objects
import CalcConsole.Proofs.Service.Rejections
import CalcConsole.Proofs.Text.Blank
/-! # What a rejection says

The service may name its reason in a body that is JSON, or write it there as plain text, or leave it to the head of its
answer.  `Says` tells which message each answer stands for.  Every errand that is rejected fails with just that message,
in the class of its status, and the log shows the same one (`failure_of_rejected`). -/
namespace CalcConsole

open Json (Keyed under)

/-! ## Records with one field -/

namespace Account

variable {T : Type} {name key : String} {decode : Json.Decoder T}

theorem field?_single {f : Only} {k : String} : (single name key T decode).field? k = some f ↔ k = key := by
  cases f
  by_cases hk : key = k
  · simp [Json.Shape.field?, single, hk]
  · simp [Json.Shape.field?, single, hk, Ne.symm hk]

theorem need_eq_ok_iff {s : Json.Slots fun _ : Only => T} {x : T} :
    (single name key T decode).need s .it = .ok x ↔ s .it = some x := by
  unfold Json.Shape.need
  cases s .it <;> simp

theorem slots_array_iff {items : List Json} {s : Json.Slots fun _ : Only => T} :
    (single name key T decode).slots (.array items) = .ok s ↔
      ∃ w x, items = [w] ∧ decode w = .ok x ∧ s = Json.Slots.empty.set .it x := by
  rw [Json.Shape.slots_eq_ok_iff]
  cases items with
  | nil => simp [Json.Shape.gather, Json.Shape.fill, single]
  | cons w ws =>
    cases hw : decode w with
    | error e => simp [Json.Shape.gather, Json.Shape.fill, single, hw]
    | ok x =>
      cases ws with
      | nil => simp [Json.Shape.gather, Json.Shape.fill, single, hw, eq_comm]
      | cons v vs => simp [Json.Shape.gather, Json.Shape.fill, single, hw]

/-- **A record with one field** is read from an object that gives it once, or from an array of nothing but its value. -/
theorem decodeSingle_eq_ok_iff {v : Json} {x : T} : decodeSingle (single name key T decode) v = .ok x ↔
    (∃ ms w, v = .object ms ∧ Keyed ms ∧ (single name key T decode).OthersIntact ms ∧ under key ms = [w] ∧
      decode w = .ok x) ∨
    ∃ w, v = .array [w] ∧ decode w = .ok x := by
  have hslots : decodeSingle (single name key T decode) v = .ok x ↔
      ∃ s, (single name key T decode).slots v = .ok s ∧ s .it = some x := by
    unfold decodeSingle
    simp only [Json.bind_eq_ok, need_eq_ok_iff]
  rw [hslots]
  cases v with
  | object ms =>
    have hgiven : (single name key T decode).given .it ms = under key ms :=
      Json.Shape.given_eq_under (fun _ => field?_single) ms
    simp only [Json.Shape.slots_object_iff]
    constructor
    · rintro ⟨s, ⟨hkeys, hothers, hfills⟩, hs⟩
      have hit := hfills .it
      rw [hs, Json.Shape.fills_some_iff, hgiven] at hit
      obtain ⟨w, hw, hx⟩ := hit
      exact .inl ⟨ms, w, rfl, hkeys, hothers, hw, hx⟩
    · rintro (⟨_, w, hv, hkeys, hothers, hw, hx⟩ | ⟨w, hv, -⟩)
      · cases hv
        refine ⟨fun _ => some x, ⟨hkeys, hothers, fun _ => ?_⟩, rfl⟩
        rw [Json.Shape.fills_some_iff, hgiven]
        exact ⟨w, hw, hx⟩
      · cases hv
  | array items =>
    simp only [slots_array_iff]
    constructor
    · rintro ⟨_, ⟨w, y, rfl, hw, rfl⟩, hx⟩
      rw [Json.Slots.set_self] at hx
      cases hx
      exact .inr ⟨w, rfl, hw⟩
    · rintro (⟨_, w, hv, -⟩ | ⟨w, hv, hx⟩)
      · cases hv
      · cases hv
        exact ⟨_, ⟨w, x, rfl, hx, rfl⟩, Json.Slots.set_self _ _ _⟩
  | _ => simp [Json.Shape.slots, Json.Shape.gather]

end Account

/-! ## Bodies -/

/-- A text that is JSON and names an error: an object with one member for it, which is a string, whatever else the object
holds, or an array of nothing but a string. -/
inductive Names (body : String) : String → Prop
  | member {ms : List Json.Member} {message : String} (read : Json.read body = ⟨.object ms, true⟩) (keyed : Keyed ms)
    (one : under "error" ms = [.text message]) : Names body message
  | item {message : String} (read : Json.read body = ⟨.array [.text message], true⟩) : Names body message

/-- What a rejection with a body and a reason says. -/
inductive Says (body reason : String) : String → Prop
  | named {message : String} (h : Names body message) : Says body reason message
  | plain {message : String} (unnamed : ∀ m, ¬ Names body m) (encloses : Text.Encloses body message)
    (nonempty : message ≠ "") : Says body reason message
  | blank (unnamed : ∀ m, ¬ Names body m) (encloses : Text.Encloses body "") : Says body reason reason

theorem Json.decodeString_eq_ok_iff {v : Json} {s : String} : decodeString v = .ok s ↔ v = .text s := by
  unfold decodeString
  split <;> simp_all [text]

theorem ofText_rejection_iff {body message : String} :
    Json.ofText Account.decodeRejection body = .ok message ↔ Names body message := by
  unfold Account.decodeRejection
  rw [Json.ofText_eq_ok_iff, Account.decodeSingle_eq_ok_iff]
  constructor
  · rintro ⟨hended, ⟨ms, w, hv, hkeys, -, hone, hw⟩ | ⟨w, hv, hw⟩⟩
    · rw [Json.decodeString_eq_ok_iff.mp hw] at hone
      exact .member (by rw [← hv, ← hended]) hkeys hone
    · rw [Json.decodeString_eq_ok_iff.mp hw] at hv
      exact .item (by rw [← hv, ← hended])
  · rintro (⟨hread, hkeys, hone⟩ | ⟨hread⟩)
    · rw [hread]
      exact ⟨rfl, .inl ⟨_, _, rfl, hkeys, Json.Shape.othersIntact_of_read _ hread, hone, rfl⟩⟩
    · rw [hread]
      exact ⟨rfl, .inr ⟨_, rfl, rfl⟩⟩

/-- **The message of a rejection** is what the rejection says. -/
theorem Client.rejectionMessage_eq_iff {body reason message : String} :
    rejectionMessage body reason = message ↔ Says body reason message := by
  have hnames : ∀ m, Json.ofText Account.decodeRejection body = .ok m ↔ Names body m := fun _ => ofText_rejection_iff
  unfold rejectionMessage
  cases hbody : Json.ofText Account.decodeRejection body with
  | ok m =>
    have hm : Names body m := (hnames m).mp hbody
    constructor
    · rintro rfl
      exact .named hm
    · rintro (⟨h⟩ | ⟨unnamed, -, -⟩ | ⟨unnamed, -⟩)
      · exact Except.ok.inj (hbody.symm.trans ((hnames message).mpr h))
      · exact absurd hm (unnamed m)
      · exact absurd hm (unnamed m)
  | error e =>
    have unnamed : ∀ m, ¬ Names body m := fun m hm => by
      rw [(hnames m).mpr hm] at hbody
      cases hbody
    dsimp only
    by_cases hblank : Text.trim body = ""
    · rw [if_pos hblank]
      constructor
      · rintro rfl
        exact .blank unnamed (Text.trim_eq_iff.mp hblank)
      · rintro (⟨h⟩ | ⟨-, encloses, nonempty⟩ | -)
        · exact absurd h (unnamed message)
        · exact absurd ((Text.trim_eq_iff.mpr encloses).symm.trans hblank) nonempty
        · rfl
    · rw [if_neg hblank]
      constructor
      · rintro rfl
        exact .plain unnamed (Text.trim_eq_iff.mp rfl) hblank
      · rintro (⟨h⟩ | ⟨-, encloses, -⟩ | ⟨-, encloses⟩)
        · exact absurd h (unnamed message)
        · exact Text.trim_eq_iff.mpr encloses
        · exact absurd (Text.trim_eq_iff.mpr encloses) hblank

/-! ## Classes -/

namespace ServiceError

/-- **The class of a rejection** is settled by its status: 401 and 403 are about the token, the others up to 499 about
what was sent, and all further ones about the service. -/
theorem class_ofStatus {status : Nat} (h : 400 ≤ status) (message : String) :
    (ofStatus status message = .auth status message ↔ status = 401 ∨ status = 403) ∧
    (ofStatus status message = .validation status message ↔ status < 500 ∧ status ≠ 401 ∧ status ≠ 403) ∧
    (ofStatus status message = .server status message ↔ 500 ≤ status) := by
  unfold ofStatus
  by_cases hauth : status = 401 ∨ status = 403
  · rw [if_pos hauth]
    simp only [reduceCtorEq, true_iff, false_iff]
    omega
  · rw [if_neg hauth]
    by_cases hsent : 400 ≤ status ∧ status ≤ 499
    · rw [if_pos hsent]
      simp only [reduceCtorEq, true_iff, false_iff]
      omega
    · rw [if_neg hsent]
      simp only [reduceCtorEq, true_iff, false_iff]
      omega

theorem message_ofStatus (status : Nat) (message : String) : (ofStatus status message).message = message := by
  unfold ofStatus
  split
  · rfl
  · split <;> rfl

end ServiceError

/-! ## Rejected errands -/

def Reply.refusal (r : Reply) : ServiceError :=
  .ofStatus r.status (Client.rejectionMessage r.body.text (Text.trim r.reason))

theorem Client.call_of_rejected {σ α : Type} {c : Client} {method path : String} {token : Option Token}
    {payload : Option Json} {k : Console σ} {r : Reply} (decode : Json.Decoder α)
    (h : (c.send method path token payload k.network).1 = .ok r) (hr : 400 ≤ r.status) :
    c.call method path token payload decode k = (.error r.refusal,
      ({ k with network := (c.send method path token payload k.network).2 } : Console σ).note
        (.requestRejected method path r.status r.refusal.message)) := by
  refine Prod.ext ?_ ?_
  · rw [fst_call, h]
    exact readReply_of_rejected decode hr
  · rw [snd_call, h, callEvent]
    dsimp only
    rw [if_neg (by omega)]
    rfl

namespace Errand

variable {σ : Type} {c : Client} {s : Session σ} {k : Console σ} {r : Reply}

def after (c : Client) (s : Session σ) (k : Console σ) : Errand → Console σ
  | listExpressions => (c.listExpressions s.token k).2
  | createExpression text => (c.createExpression s.token text k).2
  | listOperations => (c.listOperations s.token k).2
  | updateOperation operationType executionTime => (c.updateOperation s.token operationType executionTime k).2
  | listAgents => (c.listAgents s.token k).2
  | login credentials => (c.login credentials s k).2.2
  | register credentials => (c.register credentials s.token k).2

/-- **A rejected errand** fails with what the answer is, and leaves a line about it in the log. -/
theorem failure_of_rejected {e : Errand} (h : e.reply c s.token k.network = .ok r) (hr : 400 ≤ r.status) :
    e.failure c s k = some r.refusal ∧
    (e.after c s k).transcript = k.transcript ++
      [.event (.requestRejected e.method e.resource r.status r.refusal.message)] := by
  have hcall : ∀ {α : Type} (decode : Json.Decoder α), c.call e.method e.resource s.token e.payload? decode k = _ :=
    fun decode => Client.call_of_rejected decode h hr
  cases e with
  | listExpressions =>
    rw [failure, after, show c.listExpressions s.token k = _ from hcall _]
    exact ⟨rfl, rfl⟩
  | createExpression text =>
    rw [failure, after, show c.createExpression s.token text k = _ from hcall _]
    exact ⟨rfl, rfl⟩
  | listOperations =>
    rw [failure, after, show c.listOperations s.token k = _ from hcall _]
    exact ⟨rfl, rfl⟩
  | updateOperation operationType executionTime =>
    rw [failure, after, show c.updateOperation s.token operationType executionTime k = _ from hcall _]
    exact ⟨rfl, rfl⟩
  | listAgents =>
    rw [failure, after, show c.listAgents s.token k = _ from hcall _]
    exact ⟨rfl, rfl⟩
  | login credentials =>
    have hlogin := hcall Account.decodeLogin
    dsimp only [method, resource, payload?] at hlogin
    rw [failure, after, Client.login, hlogin]
    exact ⟨rfl, rfl⟩
  | register credentials =>
    have hregister := hcall (Account.decodeRegistration Json.topRoom)
    dsimp only [method, resource, payload?] at hregister
    rw [failure, after, Client.register, hregister]
    exact ⟨rfl, rfl⟩

end Errand
end CalcConsole
