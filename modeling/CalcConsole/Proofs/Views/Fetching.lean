import CalcConsole.Proofs.Json.Parts
import CalcConsole.Proofs.Service.Entities
import CalcConsole.Proofs.Service.Errands
import CalcConsole.Proofs.Views.ListView
/-! # Fetching a list

A fetch takes over the whole list that the service sends, or nothing of it.  Every part of the answer decides: its
status, the form of its body, and each item to the last one.  As long as any of them is wrong the view has lost no more
than a ticket (`refresh_all_or_nothing`). -/
namespace CalcConsole

variable {σ : Type}

namespace ListView

def errand : ListView → Errand
  | .expressions => .listExpressions
  | .operations => .listOperations
  | .agents => .listAgents

def decodeItem : (w : ListView) → Json.Decoder w.Item
  | .expressions => Expression.decode (Json.topRoom - 1)
  | .operations => Operation.decode (Json.topRoom - 1)
  | .agents => Agent.decode (Json.topRoom - 1)

def ask : (w : ListView) → Client → Option Token → Console σ → Except ServiceError (List w.Item) × Console σ
  | .expressions, c, token, k => c.listExpressions token k
  | .operations, c, token, k => c.listOperations token k
  | .agents, c, token, k => c.listAgents token k

def refresh : (w : ListView) → w.State → Client → Option Token → Console σ →
    Except ServiceError Applied × w.State × Console σ
  | .expressions, v, c, token, k => v.refresh c token k
  | .operations, v, c, token, k => v.refresh c token k
  | .agents, v, c, token, k => v.refresh c token k

def begun (w : ListView) (v : w.State) : w.State :=
  w.setTickets v { w.tickets v with issued := (w.tickets v).issued + 1 }

/-- Whether the answer to the request for the list is a success that presents an array of these items and nothing
else. -/
def Brings (w : ListView) (c : Client) (token : Option Token) (n : Network) (items : List Json) : Prop :=
  ∃ r, w.errand.reply c token n = .ok r ∧ r.status < 400 ∧ r.body.document = ⟨.array items, true⟩

/-- Whether the item of a list has a status, and one that is not known. -/
def HasUnknownStatus : ListView → Json → Prop
  | .expressions, item => ∃ v name, (Expression.shape Json.topRoom).Gives .status v item ∧
      v.variantName? = some name ∧ name ∉ ExpressionStatus.all.map (·.1)
  | .operations, _ => False
  | .agents, item => ∃ v name, (Agent.shape Json.topRoom).Gives .status v item ∧
      v.variantName? = some name ∧ name ∉ AgentStatus.all.map (·.1)

variable (w : ListView) (v : w.State) (c : Client) (token : Option Token) (k : Console σ)

theorem ask_eq : w.ask c token k =
    c.call w.errand.method w.errand.resource token w.errand.payload? (Json.decodeList w.decodeItem) k := by
  cases w <;> rfl

/-- **A fetch** takes a ticket and comes back with the answer to it. -/
theorem refresh_eq : w.refresh v c token k =
    ((w.applyRefresh (w.begun v) ((w.tickets v).issued + 1) (w.ask c token k).1).1,
      (w.applyRefresh (w.begun v) ((w.tickets v).issued + 1) (w.ask c token k).1).2.1,
      (w.ask c token k).2.noteAll
        (w.applyRefresh (w.begun v) ((w.tickets v).issued + 1) (w.ask c token k).1).2.2) := by
  cases w with
  | expressions =>
    simp only [refresh, ExpressionsView.refresh, ask]
    generalize c.listExpressions token k = p
    rfl
  | operations =>
    simp only [refresh, OperationsView.refresh, ask]
    generalize c.listOperations token k = p
    rfl
  | agents =>
    simp only [refresh, AgentsView.refresh, ask]
    generalize c.listAgents token k = p
    rfl

theorem network_refresh : (w.refresh v c token k).2.2.network = w.errand.passed c token k.network := by
  rw [refresh_eq, Console.network_noteAll, ask_eq, Errand.network_call]

theorem refresh_of_error {e : ServiceError} (h : (w.ask c token k).1 = .error e) :
    (w.refresh v c token k).1 = .error e ∧ (w.refresh v c token k).2.1 = w.begun v := by
  rw [refresh_eq, h, applyRefresh_error]
  exact ⟨rfl, rfl⟩

theorem refresh_of_ok {l : List w.Item} (h : (w.ask c token k).1 = .ok l) :
    (w.refresh v c token k).1 = .ok .replaced ∧ w.shown (w.refresh v c token k).2.1 = l := by
  have hticket : (w.tickets v).issued + 1 = (w.tickets (w.begun v)).issued := by
    rw [begun, tickets_setTickets]
  obtain ⟨happlied, hshown, -⟩ := w.applyRefresh_latest (w.begun v) hticket l
  rw [refresh_eq, h]
  exact ⟨happlied, hshown⟩

theorem decodeItem_ne_ok {item : Json} (h : w.HasUnknownStatus item) (x : w.Item) : w.decodeItem item ≠ .ok x := by
  intro hx
  cases w with
  | expressions =>
    obtain ⟨v, name, hg, hname, hunknown⟩ := h
    obtain ⟨s, hs, -⟩ := Json.bind_eq_ok.mp hx
    -- which part is read for a field does not depend on the room
    have hg' : (Expression.shape (Json.topRoom - 1 - 1)).Gives .status v item := hg
    obtain ⟨y, hy⟩ := Json.Shape.decoded_of_gives hg' hs
    exact Json.decodeVariant_ne_ok hname hunknown y hy
  | operations => exact h
  | agents =>
    obtain ⟨v, name, hg, hname, hunknown⟩ := h
    obtain ⟨s, hs, -⟩ := Json.bind_eq_ok.mp hx
    have hg' : (Agent.shape (Json.topRoom - 1 - 1)).Gives .status v item := hg
    obtain ⟨y, hy⟩ := Json.Shape.decoded_of_gives hg' hs
    exact Json.decodeVariant_ne_ok hname hunknown y hy

theorem ask_eq_ok_iff {l : List w.Item} : (w.ask c token k).1 = .ok l ↔
    ∃ items, w.Brings c token k.network items ∧ List.Forall₂ (fun item x => w.decodeItem item = .ok x) items l := by
  rw [ask_eq, Client.call_eq_ok_iff]
  constructor
  · rintro ⟨r, hr, hstatus, h⟩
    obtain ⟨hended, h⟩ := Json.ofDocument_eq_ok_iff.mp h
    obtain ⟨items, hvalue, hitems⟩ := Json.decodeList_eq_ok h
    exact ⟨items, ⟨r, hr, hstatus, by rw [← hvalue, ← hended]⟩, Json.decodeItems_eq_ok_iff.mp hitems⟩
  · rintro ⟨items, ⟨r, hr, hstatus, hread⟩, hall⟩
    exact ⟨r, hr, hstatus, Json.ofDocument_of_eq hread (Json.decodeItems_eq_ok_iff.mpr hall)⟩

theorem brings_iff_of_text {r : Reply} {s : String} (hr : w.errand.reply c token k.network = .ok r)
    (hs : r.body = s.toUTF8) (items : List Json) :
    w.Brings c token k.network items ↔ r.status < 400 ∧ Json.read s = ⟨.array items, true⟩ := by
  rw [← Body.document_toUTF8, ← hs]
  constructor
  · rintro ⟨r', hr', h⟩
    cases hr.symm.trans hr'
    exact h
  · exact fun h => ⟨r, hr, h⟩

/-- **All or nothing.**  A fetch replaces the list just if a whole list is brought and each of its items decodes, and
then there is one entry for each item, in their order.  In every other case it fails, and the view is as it was but for
the ticket; so it is when one item has an unknown status, wherever that stands and whatever comes after it. -/
theorem refresh_all_or_nothing :
    ((w.refresh v c token k).1 = .ok .replaced ↔
      ∃ items, w.Brings c token k.network items ∧ ∀ item ∈ items, ∃ x, w.decodeItem item = .ok x) ∧
    (∀ items, w.Brings c token k.network items → (∀ item ∈ items, ∃ x, w.decodeItem item = .ok x) →
      List.Forall₂ (fun item x => w.decodeItem item = .ok x) items (w.shown (w.refresh v c token k).2.1)) ∧
    ((w.refresh v c token k).1 ≠ .ok .replaced →
      (∃ e, (w.refresh v c token k).1 = .error e) ∧ (w.refresh v c token k).2.1 = w.begun v) ∧
    (∀ r items, w.errand.reply c token k.network = .ok r → r.body.document.value = .array items →
      (∃ item ∈ items, w.HasUnknownStatus item) →
      (∃ e, (w.refresh v c token k).1 = .error e) ∧ (w.refresh v c token k).2.1 = w.begun v) ∧
    ∀ r s, w.errand.reply c token k.network = .ok r → r.body = s.toUTF8 → ∀ items,
      (w.Brings c token k.network items ↔ r.status < 400 ∧ Json.read s = ⟨.array items, true⟩) := by
  have hlist : ∀ items, w.Brings c token k.network items → (∀ item ∈ items, ∃ x, w.decodeItem item = .ok x) →
      ∃ l, (w.ask c token k).1 = .ok l ∧ List.Forall₂ (fun item x => w.decodeItem item = .ok x) items l := by
    intro items hbrings hall
    obtain ⟨l, hl⟩ := Json.exists_forall₂_iff.mpr hall
    exact ⟨l, (w.ask_eq_ok_iff c token k).mpr ⟨items, hbrings, hl⟩, hl⟩
  have hreplaced : (w.refresh v c token k).1 = .ok .replaced ↔
      ∃ items, w.Brings c token k.network items ∧ ∀ item ∈ items, ∃ x, w.decodeItem item = .ok x := by
    constructor
    · intro h
      cases ha : (w.ask c token k).1 with
      | error e => rw [(w.refresh_of_error v c token k ha).1] at h; cases h
      | ok l =>
        obtain ⟨items, hbrings, hl⟩ := (w.ask_eq_ok_iff c token k).mp ha
        exact ⟨items, hbrings, Json.exists_forall₂_iff.mp ⟨l, hl⟩⟩
    · rintro ⟨items, hbrings, hall⟩
      obtain ⟨l, hl, -⟩ := hlist items hbrings hall
      exact (w.refresh_of_ok v c token k hl).1
  have hkept : (w.refresh v c token k).1 ≠ .ok .replaced →
      (∃ e, (w.refresh v c token k).1 = .error e) ∧ (w.refresh v c token k).2.1 = w.begun v := by
    intro h
    cases ha : (w.ask c token k).1 with
    | error e => exact ⟨⟨e, (w.refresh_of_error v c token k ha).1⟩, (w.refresh_of_error v c token k ha).2⟩
    | ok l => exact absurd (w.refresh_of_ok v c token k ha).1 h
  refine ⟨hreplaced, fun items hbrings hall => ?_, hkept, ?_, fun r s hr hs => w.brings_iff_of_text c token k hr hs⟩
  · obtain ⟨l, hl, hitems⟩ := hlist items hbrings hall
    rw [(w.refresh_of_ok v c token k hl).2]
    exact hitems
  · rintro r items hr hvalue ⟨item, hitem, hunknown⟩
    refine hkept fun h => ?_
    obtain ⟨items', ⟨r', hr', -, hread⟩, hall⟩ := hreplaced.mp h
    -- there is one answer, so these are the same items
    cases hr.symm.trans hr'
    rw [hread] at hvalue
    cases hvalue
    obtain ⟨x, hx⟩ := hall item hitem
    exact w.decodeItem_ne_ok hunknown x hx

/-! ### A list whose last agent is lost -/

def reported (status : String) : Json :=
  .struct [
    ("agent_id", .text status),
    ("status", .text status),
    ("number_of_parallel_calculations", .nat 2),
    ("last_ping", .text "2024-03-01T10:00:00Z"),
    ("created_at", .text "2024-03-01T10:00:00Z")]

def roster (statuses : List String) : String := (Json.array (statuses.map reported)).compact

def answeringWith (body : Body) : Console Unit := ⟨(), ⟨[.answered ⟨200, "OK", body⟩], .refused, []⟩, []⟩

def reporting (statuses : List String) : Console Unit := answeringWith (roster statuses).toUTF8

def watcher : Client := ⟨"http://localhost", none⟩

def watched : AgentsView := ⟨[⟨⟨"1"⟩, .terminated, 2, 0, Entity.morning, Entity.morning⟩], ⟨4, 1⟩, [⟨"1"⟩], 7⟩

theorem read_roster (statuses : List String) :
    Json.read (roster statuses) = ⟨.array (statuses.map reported), true⟩ := by
  refine Json.read_compact ?_
  rw [Json.Legible]
  exact Json.legibleItems_map fun _ _ =>
    ⟨rfl, rfl, rfl, rfl, rfl, Json.legible_nat (by decide), rfl, rfl, rfl, rfl, trivial⟩

theorem brings_roster (statuses : List String) :
    agents.Brings watcher none (reporting statuses).network (statuses.map reported) :=
  ⟨⟨200, "OK", (roster statuses).toUTF8⟩, rfl, (by decide : 200 < 400), by
    rw [Body.document_toUTF8, read_roster]⟩

theorem refresh_keeps_watched :
    ((agents.refresh watched watcher none (reporting ["running", "waiting"])).1 = .ok .replaced ∧
      (agents.shown (agents.refresh watched watcher none (reporting ["running", "waiting"])).2.1).length = 2) ∧
    (agents.refresh watched watcher none (reporting ["running", "waiting", "lost"])).2.1 =
      { watched with tickets := ⟨5, 1⟩ } := by
  have hwhole := refresh_all_or_nothing agents watched watcher none (reporting ["running", "waiting"])
  have hlost := refresh_all_or_nothing agents watched watcher none (reporting ["running", "waiting", "lost"])
  have hall : ∀ item ∈ ["running", "waiting"].map reported, ∃ x, agents.decodeItem item = .ok x := by
    have hsome : ∀ status ∈ ["running", "waiting"], (agents.decodeItem (reported status)).toOption.isSome = true := by
      decide +kernel
    rw [List.forall_mem_map]
    intro status hstatus
    obtain ⟨x, hx⟩ := Option.isSome_iff_exists.mp (hsome status hstatus)
    exact ⟨x, Entity.eq_ok_of_toOption hx⟩
  have hshown := hwhole.2.1 _ (brings_roster _) hall
  refine ⟨⟨hwhole.1.mpr ⟨_, brings_roster _, hall⟩, hshown.length_eq.symm⟩, ?_⟩
  have hunknown : agents.HasUnknownStatus (reported "lost") :=
    ⟨.text "lost", "lost", ⟨"status", rfl, .tail _ (.head _)⟩, rfl, by decide⟩
  have hlisted : reported "lost" ∈ ["running", "waiting", "lost"].map reported := List.mem_map_of_mem (by decide)
  obtain ⟨r, hreply, -, hread⟩ := brings_roster ["running", "waiting", "lost"]
  exact (hlost.2.2.2.1 r _ hreply (congrArg Json.Document.value hread) ⟨_, hlisted, hunknown⟩).2

/-! ### A list with a note that is no text -/

/-- One agent, and behind its members one that nobody asks for, with a byte that is no UTF-8. -/
def smudged : Body :=
  let front := "[\x7b\"agent_id\":\"7\",\"status\":\"running\",\"number_of_parallel_calculations\":2," ++
    "\"last_ping\":\"2024-03-01T10:00:00Z\",\"created_at\":\"2024-03-01T10:00:00Z\",\"note\":\""
  front.toUTF8 ++ ⟨#[0xff]⟩ ++ "\"\x7d]".toUTF8

theorem replaced_by_smudged :
    (∀ s : String, smudged ≠ s.toUTF8) ∧
    (agents.refresh watched watcher none (answeringWith smudged)).1 = .ok .replaced ∧
    (agents.shown (agents.refresh watched watcher none (answeringWith smudged)).2.1).map Agent.id = [⟨"7"⟩] := by
  have hreplaced : (agents.refresh watched watcher none (answeringWith smudged)).1.toOption = some .replaced := by
    decide +kernel
  -- a text reads the same, whatever would stand for other bytes
  have hmarks : Text.read ['a'] smudged.bytes ≠ Text.read ['b'] smudged.bytes := by decide +kernel
  refine ⟨?_, Entity.eq_ok_of_toOption hreplaced, by decide +kernel⟩
  rintro s hs
  rw [hs, Text.read_toUTF8, Text.read_toUTF8] at hmarks
  exact hmarks rfl

end ListView
end CalcConsole
