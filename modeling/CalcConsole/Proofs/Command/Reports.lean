import CalcConsole.Proofs.Command.Requests
import CalcConsole.Proofs.Views.Bare
/-! # What an action reports

An action about a list ends in one of two ways: it fails with a message, or it shows the list of a view.  `Upshot` is
that alone, whatever the format is, and `Action.report` finds it on a bare console.  What a run prints is its upshot, in
one piece behind all events, so that claims about the output need to look at the upshots only. -/
namespace CalcConsole

open Console (bare adding_note)

/-! ## Printing in pieces -/

section Pieces

variable {σ : Type} (s : Screen) (k : Console σ)

def printedLines (lines : List String) : List Printed := lines.map fun l => .out (l ++ "\n")

theorem printLines_eq (lines : List String) : ∀ k : Console σ, printLines k lines = k.recordAll (printedLines lines) := by
  induction lines with
  | nil =>
    intro k
    exact (congrArg (Console.mk k.store k.network) (List.append_nil k.transcript)).symm
  | cons l lines ih =>
    intro k
    refine (ih (k.printLine l)).trans ?_
    exact Console.recordAll_recordAll k [.out (l ++ "\n")] (printedLines lines)

def Notice.printed : Notice → Printed
  | .success message =>
    if s.format = .table then .out (s.paint .good "✓" ++ " " ++ message ++ "\n")
    else .err (s.paint .good "✓" ++ " " ++ message ++ "\n")
  | .failure message => .err (s.paint .bad "✗" ++ " " ++ message ++ "\n")

theorem printNotice_eq (n : Notice) : printNotice s n k = k.recordAll [n.printed s] := by
  cases n with
  | success message =>
    unfold printNotice Notice.printed
    dsimp only
    by_cases hf : s.format = .table
    · rw [if_pos hf, if_pos hf]
      rfl
    · rw [if_neg hf, if_neg hf]
      rfl
  | failure message => rfl

def Listing.printed (items : List Json) (lines : List String) : List Printed :=
  match s.format with
  | .json => [.out ((Json.array items).pretty ++ "\n")]
  | .table => printedLines lines

theorem Listing.print_eq (items : List Json) (lines : List String) :
    Listing.print s items lines k = k.recordAll (Listing.printed s items lines) := by
  unfold Listing.print Listing.printed
  cases s.format with
  | json => rfl
  | table => exact printLines_eq lines k

end Pieces

/-! ## Lists in print -/

namespace ListView

def itemJson : (w : ListView) → w.Item → Json
  | .expressions, e => (ExpressionRow.ofExpression e).json
  | .operations, o => o.json
  | .agents, a => (AgentRow.ofAgent a).json

def lines (s : Screen) : (w : ListView) → List w.Item → List String
  | .expressions, es => Listing.expressionsLines s (es.map .ofExpression)
  | .operations, os => Listing.operationsLines s (os.map .ofOperation)
  | .agents, as => Listing.agentsLines s (as.map .ofAgent)

def listing (s : Screen) (w : ListView) (items : List w.Item) : List Printed :=
  Listing.printed s (items.map w.itemJson) (w.lines s items)

variable {σ : Type} (s : Screen) (k : Console σ)

theorem print_expressions (v : ExpressionsView) :
    Listing.expressions s v.rows k = k.recordAll (expressions.listing s (expressions.shown v)) := by
  unfold Listing.expressions listing
  rw [Listing.print_eq, ExpressionsView.rows, List.map_map]
  rfl

theorem print_agents (v : AgentsView) : Listing.agents s v.rows k = k.recordAll (agents.listing s (agents.shown v)) := by
  unfold Listing.agents listing
  rw [Listing.print_eq, AgentsView.rows, List.map_map]
  rfl

theorem print_operations (v : OperationsView) :
    Listing.operations s v.rows k = k.recordAll (operations.listing s (operations.shown v)) := by
  have hlines : Listing.operationsLines s v.rows = operations.lines s (operations.shown v) := by
    show _ = Listing.operationsLines s ((v.rows.map (·.operation)).map .ofOperation)
    unfold Listing.operationsLines
    rw [List.isEmpty_map, List.isEmpty_map, List.map_map, List.map_map]
    rfl
  unfold Listing.operations listing
  rw [Listing.print_eq, hlines]
  show _ = k.recordAll (Listing.printed s ((v.rows.map (·.operation)).map Operation.json) _)
  rw [List.map_map]
  rfl

end ListView

/-! ## Upshots -/

/-- What an action about a list comes to. -/
inductive Upshot where
  /-- A message and no list; the hint is that of a user who has to log in. -/
  | failed (message : String) (hint : Bool)
  /-- The list of a view, under the header of all views or under a message. -/
  | listed (w : ListView) (message? : Option String) (view : w.State)

namespace Upshot

def exit : Upshot → Exit
  | .failed .. => .failure
  | .listed .. => .success

def hintLine (s : Screen) : String :=
  "  " ++ s.paint .faint "Hint:" ++ " log in with `daec login --email <EMAIL> --password <PASSWORD>`"

/-- What stands above a list: a message, or the header that only a table has. -/
def heading (s : Screen) (v : Visit) : Option String → List Printed
  | some message => [(Notice.success message).printed s]
  | none => if s.format = .table then printedLines [v.header s, ""] else []

def printed (s : Screen) (v : Visit) : Upshot → List Printed
  | .failed message hint => (Notice.failure message).printed s :: if hint then [.err (hintLine s ++ "\n")] else []
  | .listed w message? view => heading s v message? ++ w.listing s (w.shown view)

def ofNotice (w : ListView) (view : w.State) : Notice → Upshot
  | .success message => .listed w (some message) view
  | .failure message => .failed message false

variable (s : Screen) (v : Visit) (k : Console Disk)

theorem reportFailure_eq (e : ServiceError) :
    Visit.reportFailure s e k = (.ok .failure, k.recordAll ((failed e.message e.isAuth).printed s v)) := by
  have hnotice : printNotice s.asTable (.failure e.message) k = k.recordAll [(Notice.failure e.message).printed s] := rfl
  unfold Visit.reportFailure printed
  rw [hnotice]
  cases e.isAuth with
  | false => rfl
  | true => exact congrArg (Prod.mk _) (Console.recordAll_recordAll k [_] [.err (hintLine s ++ "\n")])

theorem headed_eq : v.headed s k = k.recordAll (heading s v none) := by
  unfold Visit.headed heading
  split
  · exact printLines_eq _ k
  · exact (congrArg (Console.mk k.store k.network) (List.append_nil k.transcript)).symm

end Upshot

/-! ## Reports -/

section Reports

variable (clearInput : ClearInput) (c : Client) (token : Option Token)

def ListView.report (w : ListView) (q : Console Unit) : Upshot × Console Unit :=
  match w.refresh (w.fresh clearInput) c token q with
  | (.error e, _, q) => (.failed e.message e.isAuth, q)
  | (.ok _, view, q) => (.listed w none view, q)

def ExpressionsView.submission (view : ExpressionsView) (q : Console Unit) : Upshot × Console Unit :=
  match view.submit c token q with
  | (none, _, q) => (.failed "Enter an expression to calculate" false, q)
  | (some n, view, q) => (.ofNotice .expressions view n, q)

def ExpressionsView.report (text : String) (q : Console Unit) : Upshot × Console Unit :=
  match (new clearInput).refresh c token q with
  | (.error e, view, q) => submission c token { view with input := text } (q.note (.submittingWithoutList e.message))
  | (.ok _, view, q) => submission c token { view with input := text } q

def OperationsView.report (operationType : String) (cost : Nat) (q : Console Unit) : Upshot × Console Unit :=
  match new.refresh c token q with
  | (.error e, _, q) => (.failed e.message e.isAuth, q)
  | (.ok _, view, q) =>
    match view.edit operationType cost with
    | (false, view) => (.failed (Visit.unknownType operationType view.rows) false, q)
    | (true, view) =>
      match view.save c token operationType q with
      | (none, view, q) =>
        let message := operationType ++ " already takes " ++ toString cost ++ "s, nothing to save"
        (.ofNotice .operations view (.success message), q)
      | (some n, view, q) => (.ofNotice .operations view n, q)

def ViewName.list? : ViewName → Option ListView
  | .expressions => some .expressions
  | .operations => some .operations
  | .agents => some .agents
  | .login => none

/-- The list that an action is about, if it is about one, at the active view. -/
def Action.list? (active : ViewName) : Action → Option ListView
  | .«open» _ => active.list?
  | .listExpressions | .submit _ => some .expressions
  | .listOperations | .setCost .. => some .operations
  | .listAgents => some .agents
  | .login _ | .register _ | .logout | .status => none

def Action.report (w : ListView) (n : Network) : Action → Upshot × Console Unit
  | .submit text => ExpressionsView.report clearInput c token text (bare n)
  | .setCost operationType cost => OperationsView.report c token operationType cost (bare n)
  | _ => w.report clearInput c token (bare n)

end Reports

/-! ## Actions in their place -/

namespace Visit

variable (s : Screen) (v : Visit) (k : Console Disk)

/-- A report on the console of a visit: what has happened to it, and then what is printed. -/
def told (r : Upshot × Console Unit) : Result × Console Disk :=
  (.ok r.1.exit, (k.adding r.2).recordAll (r.1.printed s v))

variable (q : Console Unit)

theorem show_adding (w : ListView) :
    (match w.refresh (w.fresh v.config.clearInput) v.client v.session.token (k.adding q) with
      | (.error e, _, k) => reportFailure s e k
      | (.ok _, view, k) => (.ok .success, (v.headed s k).recordAll (w.listing s (w.shown view)))) =
    v.told s k (w.report v.config.clearInput v.client v.session.token q) := by
  unfold ListView.report told
  rw [w.refresh_adding]
  generalize w.refresh (w.fresh v.config.clearInput) v.client v.session.token q = p
  obtain ⟨r, view, q₁⟩ := p
  cases r with
  | error e => exact Upshot.reportFailure_eq s v _ e
  | ok a =>
    dsimp only
    rw [Upshot.headed_eq, Console.recordAll_recordAll]
    rfl

theorem showExpressions_adding : v.showExpressions s (k.adding q) =
    v.told s k (ListView.expressions.report v.config.clearInput v.client v.session.token q) := by
  have hsame : ListView.expressions.refresh (ListView.expressions.fresh v.config.clearInput) v.client v.session.token
    (k.adding q) = (ExpressionsView.new v.config.clearInput).refresh v.client v.session.token (k.adding q) := rfl
  rw [← show_adding, hsame]
  unfold showExpressions
  generalize (ExpressionsView.new v.config.clearInput).refresh v.client v.session.token (k.adding q) = p
  obtain ⟨_ | _, view, k₁⟩ := p
  · rfl
  · exact congrArg (Prod.mk _) (ListView.print_expressions s _ view)

theorem showOperations_adding : v.showOperations s (k.adding q) =
    v.told s k (ListView.operations.report v.config.clearInput v.client v.session.token q) := by
  have hsame : ListView.operations.refresh (ListView.operations.fresh v.config.clearInput) v.client v.session.token
    (k.adding q) = OperationsView.new.refresh v.client v.session.token (k.adding q) := rfl
  rw [← show_adding, hsame]
  unfold showOperations
  generalize OperationsView.new.refresh v.client v.session.token (k.adding q) = p
  obtain ⟨_ | _, view, k₁⟩ := p
  · rfl
  · exact congrArg (Prod.mk _) (ListView.print_operations s _ view)

theorem showAgents_adding : v.showAgents s (k.adding q) =
    v.told s k (ListView.agents.report v.config.clearInput v.client v.session.token q) := by
  have hsame : ListView.agents.refresh (ListView.agents.fresh v.config.clearInput) v.client v.session.token
    (k.adding q) = AgentsView.new.refresh v.client v.session.token (k.adding q) := rfl
  rw [← show_adding, hsame]
  unfold showAgents
  generalize AgentsView.new.refresh v.client v.session.token (k.adding q) = p
  obtain ⟨_ | _, view, k₁⟩ := p
  · rfl
  · exact congrArg (Prod.mk _) (ListView.print_agents s _ view)

theorem told_ofNotice {w : ListView} {view : w.State} {listing : Console Disk → Console Disk}
    (hl : ∀ k, listing k = k.recordAll (w.listing s (w.shown view))) (n : Notice) :
    afterNotice s n listing (k.adding q) = v.told s k (.ofNotice w view n, q) := by
  unfold afterNotice told
  rw [printNotice_eq]
  cases n with
  | failure message => rfl
  | success message =>
    dsimp only
    rw [hl, Console.recordAll_recordAll]
    rfl

theorem submission_adding (view : ExpressionsView) :
    (match view.submit v.client v.session.token (k.adding q) with
      | (none, _, k) => ((.ok .failure, printNotice s (.failure "Enter an expression to calculate") k) :
          Result × Console Disk)
      | (some n, view, k) => afterNotice s n (Listing.expressions s view.rows) k) =
    v.told s k (view.submission v.client v.session.token q) := by
  unfold ExpressionsView.submission
  rw [ExpressionsView.submit_adding]
  generalize view.submit v.client v.session.token q = p
  obtain ⟨n, view', q'⟩ := p
  cases n with
  | none => exact congrArg (Prod.mk _) (printNotice_eq s _ _)
  | some n => exact told_ofNotice s v k q' (fun k => ListView.print_expressions s k view') n

theorem submit_adding (text : String) : v.submit s text (k.adding q) =
    v.told s k (ExpressionsView.report v.config.clearInput v.client v.session.token text q) := by
  have hrefresh : (ExpressionsView.new v.config.clearInput).refresh v.client v.session.token (k.adding q) = _ :=
    ListView.expressions.refresh_adding v.client v.session.token k q (.new v.config.clearInput)
  have hsame : ListView.expressions.refresh (ExpressionsView.new v.config.clearInput) v.client v.session.token q =
    (ExpressionsView.new v.config.clearInput).refresh v.client v.session.token q := rfl
  unfold submit ExpressionsView.report
  rw [hrefresh, hsame]
  generalize (ExpressionsView.new v.config.clearInput).refresh v.client v.session.token q = p
  obtain ⟨r, view, q₁⟩ := p
  cases r with
  | error e =>
    dsimp only
    rw [adding_note]
    exact v.submission_adding s k _ _
  | ok a => exact v.submission_adding s k q₁ _

theorem setCost_adding (operationType : String) (cost : Nat) : v.setCost s operationType cost (k.adding q) =
    v.told s k (OperationsView.report v.client v.session.token operationType cost q) := by
  have hrefresh : OperationsView.new.refresh v.client v.session.token (k.adding q) = _ :=
    ListView.operations.refresh_adding v.client v.session.token k q .new
  have hsame : ListView.operations.refresh OperationsView.new v.client v.session.token q =
    OperationsView.new.refresh v.client v.session.token q := rfl
  unfold setCost OperationsView.report
  rw [hrefresh, hsame]
  generalize OperationsView.new.refresh v.client v.session.token q = p
  obtain ⟨r, view, q₁⟩ := p
  cases r with
  | error e => exact Upshot.reportFailure_eq s v _ e
  | ok a =>
    dsimp only
    generalize view.edit operationType cost = edited
    obtain ⟨known, view₁⟩ := edited
    cases known with
    | false => exact congrArg (Prod.mk _) (printNotice_eq s _ _)
    | true =>
      dsimp only
      rw [OperationsView.save_adding]
      generalize view₁.save v.client v.session.token operationType q₁ = p
      obtain ⟨n, view₂, q₂⟩ := p
      have htold := told_ofNotice s v k q₂ fun k => ListView.print_operations s k view₂
      cases n with
      | none => exact htold _
      | some n => exact htold n

end Visit

/-- **An action in its place** prints its report. -/
theorem Action.act_eq_told {s : Screen} {v : Visit} {a : Action} {w : ListView}
    (h : a.list? v.router.active = some w) (k : Console Disk) :
    a.act s v k = v.told s k (a.report v.config.clearInput v.client v.session.token w k.network) := by
  have hexpressions := v.showExpressions_adding s k (bare k.network)
  have hoperations := v.showOperations_adding s k (bare k.network)
  have hagents := v.showAgents_adding s k (bare k.network)
  rw [k.adding_bare] at hexpressions hoperations hagents
  cases a with
  | «open» view =>
    show v.showActive s k = _
    unfold list? at h
    unfold Visit.showActive
    cases hactive : v.router.active with
    | expressions =>
      rw [hactive] at h
      cases h
      exact hexpressions
    | operations =>
      rw [hactive] at h
      cases h
      exact hoperations
    | agents =>
      rw [hactive] at h
      cases h
      exact hagents
    | login =>
      rw [hactive] at h
      cases h
  | listExpressions =>
    cases h
    exact hexpressions
  | submit text =>
    cases h
    have hsubmit := v.submit_adding s k (bare k.network) text
    rw [k.adding_bare] at hsubmit
    exact hsubmit
  | listOperations =>
    cases h
    exact hoperations
  | setCost operationType cost =>
    cases h
    have hset := v.setCost_adding s k (bare k.network) operationType cost
    rw [k.adding_bare] at hset
    exact hset
  | listAgents =>
    cases h
    exact hagents
  | login c => cases h
  | register c => cases h
  | logout => cases h
  | status => cases h

/-! ## Runs -/

theorem Console.noteAll_noteAll {σ : Type} (k : Console σ) (es es' : List Event) :
    (k.noteAll es).noteAll es' = k.noteAll (es ++ es') := List.foldl_append.symm

theorem Session.open_eq {σ : Type} (storage : Storage σ) (d : σ) : ∃ es : List Event, ∀ k : Console σ, k.store = d →
    Session.«open» storage k = (⟨storage.opens d, storage⟩, k.noteAll es) := by
  unfold Session.«open» Storage.opens
  rcases hload : storage.load d with ⟨e | state, events⟩
  · refine ⟨events ++ [.emptySession e.message], fun k hk => ?_⟩
    rw [hk, hload, ← Console.noteAll_noteAll]
    rfl
  · refine ⟨events, fun k hk => ?_⟩
    rw [hk, hload]
    rfl

namespace Visit

/-- **A visit starts** in what its file opens as, and only logs until then. -/
theorem start_eq (s : Surroundings) (c : Config) (d : Disk) (storage : Storage Disk)
    (hstorage : storage = Storage.file s.place (SessionFile.path s.home c.sessionFolder c.sessionName)) :
    ∃ es : List Event, ∀ k : Console Disk, k.store = d → start s c k =
      (⟨c, Client.make c.baseUrl c.timeoutMs, ⟨storage.opens d, storage⟩, ⟨(storage.opens d).view⟩⟩,
        k.noteAll es) := by
  obtain ⟨es, hopen⟩ := Session.open_eq storage d
  refine ⟨.openingSession (SessionFile.path s.home c.sessionFolder c.sessionName) ::
    (es ++ [.restoredView (storage.opens d).view]), fun k hk => ?_⟩
  unfold start
  dsimp only
  rw [← hstorage, hopen (k.note _) hk]
  exact congrArg (Prod.mk _) (Console.noteAll_noteAll (k.note _) es [_])

/-- **Going to a view** saves it, and only logs. -/
theorem goTo_eq (v : Visit) (view : ViewName) : ∃ es : List Event, ∀ k : Console Disk, v.goTo view k =
    match v.session.storage.save (v.session.state.apply (.setView view)) k.store with
    | (.error e, d) => (.error (.recordView e), { k with store := d })
    | (.ok (), d) => (.ok ⟨v.config, v.client, ⟨v.session.state.apply (.setView view), v.session.storage⟩, ⟨view⟩⟩,
        { k with store := d }.noteAll es) := by
  refine ⟨if v.router.active = view then [] else [.navigated v.router.active view], fun k => ?_⟩
  unfold goTo Router.navigate
  rcases hsave : v.session.storage.save (v.session.state.apply (.setView view)) k.store with ⟨_ | _, d⟩
  · rw [Session.change_of_save hsave]
  · rw [Session.change_of_save hsave]
    by_cases hactive : v.router.active = view
    · dsimp only
      rw [if_pos hactive, if_pos hactive]
      rfl
    · dsimp only
      rw [if_neg hactive, if_neg hactive]
      rfl

end Visit

namespace Invocation

variable (i : Invocation) (d : Disk)

/-- The view that is active when an action takes place. -/
def active (a : Action) : ViewName := a.destination?.getD (i.opened d).view

/-- What becomes of the page that an action turns to. -/
def turned (a : Action) : Except SessionError Unit × Disk :=
  match a.destination? with
  | none => (.ok (), d)
  | some view => (Storage.file i.surroundings.place (i.path d)).save { i.opened d with page := some view } d

/-- What a run of an action about the list of `w` comes to. -/
def report (n : Network) (w : ListView) (a : Action) : Upshot × Console Unit :=
  a.report (i.config d).clearInput (i.client d) (i.opened d).token w n

variable {i d} {format : Format} {a : Action} {w : ListView}

/-- A run of an action only logs until it acts, and what it logs does not depend on the network. -/
theorem run_eq_run (hspelled : Arguments.request i.surroundings.lookup i.words = .run format (.visit a)) :
    ∃ (v : Visit) (es : List Event), v.config = i.config d ∧ v.client = i.client d ∧
      v.session = ⟨i.opened d, Storage.file i.surroundings.place (i.path d)⟩ ∧ v.router.active = (i.opened d).view ∧
      ∀ n : Network, i.run d n = i.finish d (a.run ⟨false, format⟩ v ⟨d, n, es.map .event⟩) := by
  obtain ⟨es, hstart⟩ := Visit.start_eq i.surroundings (i.config d) d (Storage.file i.surroundings.place (i.path d)) rfl
  have hopened : (Storage.file i.surroundings.place (i.path d)).opens d = i.opened d := rfl
  rw [hopened] at hstart
  refine ⟨⟨i.config d, i.client d, ⟨i.opened d, Storage.file i.surroundings.place (i.path d)⟩, ⟨(i.opened d).view⟩⟩,
    Program.warningEvents (Config.load i.surroundings d).2 ++ es, rfl, rfl, rfl, by dsimp only, fun n => ?_⟩
  have hloaded : i.run d n = i.finish d ((Command.visit a).run i.surroundings ⟨false, format⟩ (i.config d)
      ((⟨d, n, []⟩ : Console Disk).noteAll (Program.warningEvents (Config.load i.surroundings d).2))) := by
    unfold run finish config Program.run
    rw [hspelled]
  rw [hloaded]
  generalize Program.warningEvents (Config.load i.surroundings d).2 = warnings
  have htranscript : ((⟨d, n, []⟩ : Console Disk).noteAll warnings).noteAll es = ⟨d, n, (warnings ++ es).map .event⟩ := by
    rw [Console.noteAll_noteAll, Console.noteAll_eq]
    rfl
  unfold Command.run
  dsimp only
  rw [hstart _ (Console.store_noteAll _ _), htranscript]
  rfl

/-- **A run of an action about a list** turns to its page and prints its report, or ends because the page could not be
saved.  All that comes before the report is logged, and does not depend on the network. -/
theorem run_eq_told (hspelled : Arguments.request i.surroundings.lookup i.words = .run format (.visit a))
    (hlist : a.list? (i.active d a) = some w) : ∃ (v : Visit) (es : List Event), ∀ n : Network, i.run d n = i.finish d
      (match i.turned d a with
        | (.error e, d') => (.error (.recordView e), ⟨d', n, es.map .event⟩)
        | (.ok (), d') => v.told ⟨false, format⟩ ⟨d', n, es.map .event⟩ (i.report d n w a)) := by
  obtain ⟨v, es, hconfig, hclient, hsession, hactive, hrun⟩ := run_eq_run (d := d) hspelled
  -- where the action takes place, it prints its report
  have hact : ∀ (v : Visit) (k : Console Disk), v.config = i.config d → v.client = i.client d →
      v.session.token = (i.opened d).token → v.router.active = i.active d a →
      a.act ⟨false, format⟩ v k = v.told ⟨false, format⟩ k (i.report d k.network w a) := by
    intro v k hconfig hclient htoken hactive
    rw [Action.act_eq_told (w := w) (by rw [hactive]; exact hlist), hconfig, hclient, htoken]
    rfl
  unfold Action.run at hrun
  unfold turned
  cases hpage : a.destination? with
  | none =>
    rw [hpage] at hrun
    refine ⟨v, es, fun n => (hrun n).trans (congrArg (i.finish d) ?_)⟩
    refine hact v _ hconfig hclient (by rw [hsession]; rfl) ?_
    rw [active, hpage, Option.getD_none, hactive]
  | some view =>
    obtain ⟨es', hgo⟩ := v.goTo_eq view
    rw [hpage] at hrun
    dsimp only at hrun ⊢
    rw [hsession] at hgo
    dsimp only [SessionState.apply] at hgo
    rcases hsave : (Storage.file i.surroundings.place (i.path d)).save { i.opened d with page := some view } d with
      ⟨e | _, d'⟩
    · refine ⟨v, es, fun n => (hrun n).trans ?_⟩
      rw [hgo ⟨d, n, es.map .event⟩, hsave]
    · refine ⟨⟨v.config, v.client, ⟨{ i.opened d with page := some view },
        Storage.file i.surroundings.place (i.path d)⟩, ⟨view⟩⟩, es ++ es', fun n => (hrun n).trans ?_⟩
      have htranscript : (⟨d', n, es.map .event⟩ : Console Disk).noteAll es' = ⟨d', n, (es ++ es').map .event⟩ := by
        rw [Console.noteAll_eq, List.map_append]
        rfl
      rw [hgo ⟨d, n, es.map .event⟩, hsave]
      dsimp only
      rw [htranscript]
      refine congrArg (i.finish d) (hact _ _ hconfig hclient (by rw [Session.token]) ?_)
      rw [active, hpage, Option.getD_some]

end Invocation

end CalcConsole
