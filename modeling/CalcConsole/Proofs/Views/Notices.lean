import CalcConsole.Proofs.Service.Answers
import CalcConsole.Proofs.Service.Messages
import CalcConsole.Proofs.Views.Barrier
import CalcConsole.Proofs.Views.Changes
import CalcConsole.Proofs.Views.Forms
/-! # What a user is told

A view that sends something tells the user how it went, and a failure in the words of the client: the same ones that the
log has.  So what the service says in a rejection reaches the user unchanged, whichever view has sent the request
(`rejection_is_told`), as long as the body can be taken for a text; the head of the answer speaks for one that cannot
(`overlong_rejection`). -/
namespace CalcConsole

variable {σ : Type}

inductive Submission where
  | change (w : ListView) (x : w.Change) (v : w.State)
  | form (v : AuthView)

namespace Submission

/-- The errand of a submission, if there is anything to send. -/
def errand? : Submission → Option Errand
  | change w x v => w.changeErrand? x v
  | form v => if v.canSubmit then some v.errand else none

def notice? (c : Client) (s : Session σ) (k : Console σ) : Submission → Option Notice
  | change w x v => (w.change x v c s.token k).1
  | form v => (v.submit c s k).1

/-- **A failure is told** in its own words. -/
theorem notice_of_failure {d : Submission} {e : Errand} {c : Client} {s : Session σ} {k : Console σ} {f : ServiceError}
    (he : d.errand? = some e) (hf : e.failure c s k = some f) : d.notice? c s k = some (.failure f.message) := by
  cases d with
  | change w x v =>
    cases w with
    | expressions =>
      obtain ⟨hcan, he⟩ := Option.ite_none_right_eq_some.mp he
      cases he
      have hcall := Errand.failure?_eq_some_iff.mp hf
      exact congrArg Prod.fst (ExpressionsView.submit_of_error (ExpressionsView.canSubmit_iff.mp hcan) hcall)
    | operations =>
      obtain ⟨row, hrow, rfl⟩ := Option.map_eq_some_iff.mp he
      have hcall := Errand.failure?_eq_some_iff.mp hf
      exact congrArg Prod.fst (OperationsView.save_of_error hrow hcall)
    | agents => exact x.elim
  | form v =>
    obtain ⟨hcan, he⟩ := Option.ite_none_right_eq_some.mp he
    cases he
    unfold AuthView.errand at hf
    show (v.submit c s k).1 = _
    cases hmode : v.mode with
    | login =>
      rw [hmode] at hf
      have hcall := Errand.failure?_eq_some_iff.mp hf
      rw [v.submit_login c s k hcan hmode]
      generalize c.login v.credentials s k = p at hcall ⊢
      obtain ⟨_, s', k'⟩ := p
      cases hcall
      rfl
    | registration =>
      rw [hmode] at hf
      have hcall := Errand.failure?_eq_some_iff.mp hf
      rw [v.submit_registration c s k hcan hmode]
      generalize c.register v.credentials s.token k = p at hcall ⊢
      obtain ⟨_, k'⟩ := p
      cases hcall
      rfl

end Submission

theorem says_empty (reason : String) : Says "" reason reason :=
  .blank (fun m hm => by cases hm with | member h | item h => cases h) (Text.trim_eq_iff.mp rfl)

/-- **A rejection is told as it is.**  An answer with a status from 400 on fails each of the seven errands, with its
status, in the class of that, and with the message that it stands for: what its body says, if that can be taken for a
text, or else its reason.  The log has the same message, and so has the notice of every view that has sent the errand. -/
theorem rejection_is_told {e : Errand} {c : Client} {s : Session σ} {k : Console σ} {r : Reply}
    (h : e.reply c s.token k.network = .ok r) (hr : 400 ≤ r.status) :
    ∃ f, e.failure c s k = some f ∧ f.status? = some r.status ∧
      (f = .auth r.status f.message ↔ r.status = 401 ∨ r.status = 403) ∧
      (f = .validation r.status f.message ↔ r.status < 500 ∧ r.status ≠ 401 ∧ r.status ≠ 403) ∧
      (f = .server r.status f.message ↔ 500 ≤ r.status) ∧
      (r.body.Readable → ∀ m, f.message = m ↔ Says (Text.lossy r.body.bytes) (Text.trim r.reason) m) ∧
      (¬ r.body.Readable → f.message = Text.trim r.reason) ∧
      (e.after c s k).transcript = k.transcript ++
        [.event (.requestRejected e.method e.resource r.status f.message)] ∧
      ∀ d : Submission, d.errand? = some e → d.notice? c s k = some (.failure f.message) := by
  obtain ⟨hfailure, hlog⟩ := Errand.failure_of_rejected h hr
  have hmessage : r.refusal.message = Client.rejectionMessage r.body.text (Text.trim r.reason) :=
    ServiceError.message_ofStatus _ _
  obtain ⟨hauth, hsent, hserver⟩ := ServiceError.class_ofStatus hr r.refusal.message
  have hclass : ServiceError.ofStatus r.status r.refusal.message = r.refusal := by
    rw [hmessage]
    rfl
  rw [hclass] at hauth hsent hserver
  refine ⟨r.refusal, hfailure, ServiceError.status?_ofStatus _ _, hauth, hsent, hserver, fun hreadable m => ?_,
    fun hunreadable => ?_, hlog, fun d hd => Submission.notice_of_failure hd hfailure⟩
  · rw [hmessage, Body.text_of_readable hreadable, Client.rejectionMessage_eq_iff]
  · rw [hmessage, Body.text_of_unreadable hunreadable, Client.rejectionMessage_eq_iff]
    exact says_empty _

/-! ### A login that is refused with spaces around the message -/

def filledIn : AuthView := ⟨.login, ⟨"ann@example.org", "hunter2"⟩⟩

def refusalBody : Json := .struct [("code", .nat 7), ("error", .text " no "), ("at", .array [.null])]

def refusing : Console (Option SessionState) := Errand.answering 401 refusalBody.compact

theorem names_refusalBody : Names refusalBody.compact " no " := by
  have hread : Json.read refusalBody.compact = ⟨refusalBody, true⟩ :=
    Json.read_compact ⟨rfl, Json.legible_nat (by decide), rfl, rfl, rfl, ⟨trivial, trivial⟩, trivial⟩
  exact .member hread (Json.keyed_struct _) rfl

theorem rejection_is_told_unauthorized :
    filledIn.errand.reply Errand.caller Errand.visitor.token refusing.network =
      .ok ⟨401, "", refusalBody.compact.toUTF8⟩ ∧
    (filledIn.submit Errand.caller Errand.visitor refusing).1 = some (.failure " no ") ∧
    filledIn.errand.failure Errand.caller Errand.visitor refusing = some (.auth 401 " no ") := by
  have hreply : filledIn.errand.reply Errand.caller Errand.visitor.token refusing.network =
      .ok ⟨401, "", refusalBody.compact.toUTF8⟩ := rfl
  obtain ⟨f, hfailure, -, hauth, -, -, hmeans, -, -, hnotice⟩ := rejection_is_told hreply (by decide)
  have hmessage : f.message = " no " := by
    rw [hmeans ⟨rfl, by decide⟩, Text.lossy_toUTF8]
    exact .named names_refusalBody
  refine ⟨hreply, ?_, ?_⟩
  · have htold := hnotice (.form filledIn) rfl
    rw [hmessage] at htold
    exact htold
  · rw [hfailure, hauth.mpr (.inl rfl), hmessage]

/-! ### A rejection with more to say than is read -/

def drone (length : Nat) : String := String.ofList (List.replicate length 'x')

theorem size_drone (length : Nat) : (drone length).toUTF8.size = length := by
  have hsize : ∀ n, (String.ofList (List.replicate n 'x')).utf8ByteSize = n := by
    intro n
    induction n with
    | zero => rfl
    | succ n ih =>
      rw [List.replicate_succ, String.ofList_cons, String.utf8ByteSize_append, ih, String.utf8ByteSize_singleton]
      exact Nat.add_comm 1 n
  exact hsize length

theorem unreadable_drone {length : Nat} (h : Body.maxText < length) : ¬ Body.Readable (drone length).toUTF8 := by
  intro hreadable
  have hshort := hreadable.short
  dsimp only at hshort
  rw [size_drone] at hshort
  omega

theorem says_drone {length : Nat} (h : 0 < length) (reason : String) :
    Says (drone length) reason (drone length) := by
  obtain ⟨n, rfl⟩ : ∃ n, length = n + 1 := ⟨length - 1, by omega⟩
  have hlist : (drone (n + 1)).toList = 'x' :: List.replicate n 'x' := String.toList_ofList
  have hended : (Json.read (drone (n + 1))).ended = false := by
    rw [Json.read, hlist, Json.readChars, Json.readValue]
    rfl
  have hbare : ∀ c ∈ (drone (n + 1)).toList, Text.isBlank c = false := by
    intro c hc
    rw [hlist, ← List.replicate_succ] at hc
    rw [List.eq_of_mem_replicate hc]
    decide
  refine .plain (fun m hm => ?_) ⟨[], [], ?_, fun c hc => (by cases hc), fun c hc => (by cases hc), ?_, ?_⟩ fun hempty => ?_
  · cases hm with
    | member read | item read =>
      rw [read] at hended
      cases hended
  · rw [List.nil_append, List.append_nil]
  · exact fun c hc => hbare c (List.mem_of_mem_head? hc)
  · exact fun c hc => hbare c (List.mem_of_getLast? hc)
  · rw [hempty] at hlist
    cases hlist

def replying (r : Reply) : Console (Option SessionState) := ⟨none, ⟨[.answered r], .refused, []⟩, []⟩

def failing (reason : String) (body : Body) : Reply := ⟨500, reason, body⟩

theorem failure_of_failing (reason : String) (body : Body) :
    Errand.listAgents.failure Errand.caller Errand.visitor (replying (failing reason body)) =
      some (.server 500 (Client.rejectionMessage body.text (Text.trim reason))) :=
  (Errand.failure_of_rejected (r := failing reason body) rfl (by decide : 400 ≤ 500)).1

/-- **A body that is too long is not told**, although it says something, and the reason is told without the blanks around
it. -/
theorem overlong_rejection :
    (Says (Text.lossy (drone (Body.maxText + 1)).toUTF8) "Over" (drone (Body.maxText + 1)) ∧
      drone (Body.maxText + 1) ≠ "Over" ∧
      Errand.listAgents.failure Errand.caller Errand.visitor
        (replying (failing "Over" (drone (Body.maxText + 1)).toUTF8)) = some (.server 500 "Over")) ∧
    Says (Text.lossy "".toUTF8) " Over " " Over " ∧
      Errand.listAgents.failure Errand.caller Errand.visitor (replying (failing " Over " "".toUTF8)) =
        some (.server 500 "Over") := by
  have hunreadable := unreadable_drone (Nat.lt_succ_self Body.maxText)
  have hsays := says_drone (Nat.succ_pos Body.maxText) "Over"
  have hsize := size_drone (Body.maxText + 1)
  refine ⟨⟨?_, fun hsame => ?_, ?_⟩, ?_, ?_⟩
  · rw [Text.lossy_toUTF8]
    exact hsays
  · rw [hsame] at hsize
    cases hsize
  · rw [failure_of_failing, Body.text_of_unreadable hunreadable]
    rfl
  · rw [Text.lossy_toUTF8]
    exact says_empty _
  · rw [failure_of_failing]
    rfl

end CalcConsole
