import CalcConsole.Proofs.Command.Sessions
import CalcConsole.Proofs.Service.Conversation
/-! # The requests of a run

A run asks the service for a list, changes something, or does both, and each further request depends on the answers to
those before it.  `Action.errands` says of every action what it sends, from the outcomes alone; the views, the visits and
the runs send just that, and no request is repeated. -/
namespace CalcConsole

open Errand (requests followed)

/-! ## The errands of an action -/

namespace Action

def listing : ViewName → List Errand
  | .expressions => [.listExpressions]
  | .operations => [.listOperations]
  | .agents => [.listAgents]
  | .login => []

/-- What a new cost asks for after the list has come: nothing, unless the first operation of its type has another. -/
def revision (operationType : String) (cost : Nat) (first second : Outcome) : List Errand :=
  match (first.value? Client.decodeOperations).bind (·.find? (·.operationType == operationType)) with
  | some o =>
    if o.executionTime = cost then []
    else followed (.updateOperation operationType cost) .listOperations second
  | none => []

/-- What an action sends at the active view, with the outcomes of the first request and the second. -/
def errands (active : ViewName) (first second : Outcome) : Action → List Errand
  | .«open» _ => listing active
  | .listExpressions => [.listExpressions]
  | .submit text =>
    .listExpressions :: if text = "" then [] else followed (.createExpression text) .listExpressions second
  | .listOperations => [.listOperations]
  | .setCost operationType cost => .listOperations :: revision operationType cost first second
  | .listAgents | .status => [.listAgents]
  | .login c => if c.email = "" ∨ c.password = "" then [] else [.login c]
  | .register c => if c.email = "" ∨ c.password = "" then [] else [.register c]
  | .logout => []

end Action

/-! ## Views -/

/-- An edited row is dirty unless the cost is the one from before. -/
theorem OperationRow.filter_isDirty (o : Operation) (cost : Nat) :
    (some (OperationRow.mk o cost)).filter isDirty = if o.executionTime = cost then none else some ⟨o, cost⟩ := by
  by_cases h : o.executionTime = cost
  · rw [if_pos h, Option.filter_some, isDirty, h, if_neg (by simp)]
  · rw [if_neg h, Option.filter_some, isDirty, if_pos (bne_iff_ne.mpr (Ne.symm h))]

namespace OperationsView

theorem find?_editRows (operationType : String) (value : Nat) : ∀ rows : List OperationRow,
    (editRows operationType value rows).find? (hasType operationType) =
      (rows.find? (hasType operationType)).map ({ · with edited := value })
  | [] => rfl
  | r :: rs => by
    unfold editRows
    by_cases hr : hasType operationType r = true
    · have hr' : hasType operationType { r with edited := value } = true := hr
      rw [if_pos hr, List.find?_cons_of_pos hr, List.find?_cons_of_pos hr']
      rfl
    · rw [if_neg hr, List.find?_cons_of_neg hr, List.find?_cons_of_neg hr]
      exact find?_editRows operationType value rs

/-- **An edit** of operations that were just fetched: the row that it sets, if there is one. -/
theorem row?_edit {v : OperationsView} {operations : List Operation} (h : v.rows = operations.map .ofOperation)
    (operationType : String) (value : Nat) :
    (v.edit operationType value).1 = (operations.find? (·.operationType == operationType)).isSome ∧
    (v.edit operationType value).2.row? operationType =
      (operations.find? (·.operationType == operationType)).map (⟨·, value⟩) := by
  have hrow : v.rows.find? (hasType operationType) =
      (operations.find? (·.operationType == operationType)).map .ofOperation := by
    rw [h, List.find?_map]
    rfl
  unfold edit row?
  dsimp only
  rw [find?_editRows, hrow, Option.isSome_map, Option.map_map]
  exact ⟨rfl, rfl⟩

end OperationsView

section Views

variable {σ : Type} {c : Client} {token : Option Token} (h : c.Sends token) (k : Console σ)
include h

theorem ExpressionsView.network_refresh (v : ExpressionsView) :
    (v.refresh c token k).2.2.network = k.network.sendAll (requests c token [.listExpressions]) :=
  (Console.network_noteAll _ _).trans (h.network_call .listExpressions _ k)

theorem AgentsView.network_refresh (v : AgentsView) :
    (v.refresh c token k).2.2.network = k.network.sendAll (requests c token [.listAgents]) :=
  (Console.network_noteAll _ _).trans (h.network_call .listAgents _ k)

theorem OperationsView.network_refresh (v : OperationsView) :
    (v.refresh c token k).2.2.network = k.network.sendAll (requests c token [.listOperations]) :=
  (Console.network_noteAll _ _).trans (h.network_call .listOperations _ k)

/-- **A submission** sends the line, if there is one, and fetches the list after a success. -/
theorem ExpressionsView.network_submit (v : ExpressionsView) : (v.submit c token k).2.2.network =
    k.network.sendAll (requests c token
      (if v.input = "" then [] else followed (.createExpression v.input) .listExpressions k.network.next)) := by
  by_cases hinput : v.input = ""
  · rw [if_pos hinput, submit_empty hinput]
    rfl
  rw [if_neg hinput]
  have hcall : (c.createExpression token v.input k).2.network =
      k.network.sendAll (requests c token [.createExpression v.input]) := h.network_call (.createExpression v.input) _ k
  have hvalue : (c.createExpression token v.input k).1.toOption.isSome =
      k.network.next.fulfils (.createExpression v.input) :=
    h.isSome_call (.createExpression v.input) k fun _ => rfl
  refine Client.network_followed hcall hvalue (fun e he => ?_) fun created hcreated => ?_
  · rw [submit_of_error hinput he]
  · rw [submit_of_ok hinput hcreated _ rfl, Console.network_noteFailure]
    exact network_refresh h _ { v with input := "" }

namespace OperationsView

/-- **A save** sends the cost of the first row of its type, if that is dirty, and fetches the list after a success. -/
theorem network_save (v : OperationsView) (operationType : String) : (v.save c token operationType k).2.2.network =
    k.network.sendAll (requests c token
      (match (v.row? operationType).filter OperationRow.isDirty with
        | none => []
        | some row => followed (.updateOperation operationType row.edited) .listOperations k.network.next)) := by
  cases hrow : (v.row? operationType).filter OperationRow.isDirty with
  | none =>
    rw [save_nothing hrow]
    rfl
  | some row =>
    have hcall : (c.updateOperation token operationType row.edited k).2.network =
        k.network.sendAll (requests c token [.updateOperation operationType row.edited]) :=
      h.network_call (.updateOperation operationType row.edited) _ k
    have hvalue : (c.updateOperation token operationType row.edited k).1.toOption.isSome =
        k.network.next.fulfils (.updateOperation operationType row.edited) :=
      h.isSome_call (.updateOperation operationType row.edited) k fun _ => rfl
    refine Client.network_followed hcall hvalue (fun e he => ?_) fun updated hupdated => ?_
    · rw [save_of_error hrow he]
    · rw [save_of_ok hrow hupdated _ rfl, Console.network_noteFailure]
      exact network_refresh h _ v

/-- **The first list** is what its outcome brings, each operation in a row of its own; without one the fetch fails. -/
theorem refresh_new :
    match k.network.next.value? Client.decodeOperations with
    | some operations => (new.refresh c token k).1 = .ok .replaced ∧
        (new.refresh c token k).2.1.rows = operations.map .ofOperation
    | none => ∃ e, (new.refresh c token k).1 = .error e := by
  have hvalue : (c.listOperations token k).1.toOption = k.network.next.value? Client.decodeOperations :=
    h.toOption_call .listOperations _ k
  unfold refresh
  generalize c.listOperations token k = p at hvalue ⊢
  obtain ⟨r, k₁⟩ := p
  rw [← hvalue]
  cases r with
  | error e => exact ⟨e, rfl⟩
  | ok operations => exact ⟨rfl, rfl⟩

end OperationsView

end Views

/-! ## Visits -/

section Visits

theorem Listing.network_print {σ : Type} (s : Screen) (items : List Json) (lines : List String) (k : Console σ) :
    (Listing.print s items lines k).network = k.network := by
  unfold Listing.print
  cases s.format with
  | json => rfl
  | table => exact network_printLines lines k

namespace Visit

variable (s : Screen) {v : Visit} (k : Console Disk)

theorem network_reportFailure (e : ServiceError) : (reportFailure s e k).2.network = k.network := by
  unfold reportFailure
  dsimp only
  split
  · exact network_printNotice s.asTable _ k
  · exact network_printNotice s.asTable _ k

theorem network_headed : (v.headed s k).network = k.network := by
  unfold headed
  split
  · exact network_printLines _ k
  · rfl

theorem network_afterNotice (n : Notice) {listing : Console Disk → Console Disk}
    (hl : ∀ k, (listing k).network = k.network) : (afterNotice s n listing k).2.network = k.network := by
  unfold afterNotice
  dsimp only
  split
  · exact network_printNotice s n k
  · exact (hl _).trans (network_printNotice s n k)

variable (h : v.client.Sends v.session.token)
include h

theorem network_showExpressions : (v.showExpressions s k).2.network =
    k.network.sendAll (requests v.client v.session.token [.listExpressions]) := by
  have hr := ExpressionsView.network_refresh h k (.new v.config.clearInput)
  unfold showExpressions
  generalize (ExpressionsView.new v.config.clearInput).refresh v.client v.session.token k = p at hr ⊢
  obtain ⟨r, view, k₁⟩ := p
  cases r with
  | error e => exact (network_reportFailure s k₁ e).trans hr
  | ok a => exact (Listing.network_print s _ _ _).trans ((network_headed s k₁).trans hr)

theorem network_showOperations : (v.showOperations s k).2.network =
    k.network.sendAll (requests v.client v.session.token [.listOperations]) := by
  have hr := OperationsView.network_refresh h k .new
  unfold showOperations
  generalize OperationsView.new.refresh v.client v.session.token k = p at hr ⊢
  obtain ⟨r, view, k₁⟩ := p
  cases r with
  | error e => exact (network_reportFailure s k₁ e).trans hr
  | ok a => exact (Listing.network_print s _ _ _).trans ((network_headed s k₁).trans hr)

theorem network_showAgents : (v.showAgents s k).2.network =
    k.network.sendAll (requests v.client v.session.token [.listAgents]) := by
  have hr := AgentsView.network_refresh h k .new
  unfold showAgents
  generalize AgentsView.new.refresh v.client v.session.token k = p at hr ⊢
  obtain ⟨r, view, k₁⟩ := p
  cases r with
  | error e => exact (network_reportFailure s k₁ e).trans hr
  | ok a => exact (Listing.network_print s _ _ _).trans ((network_headed s k₁).trans hr)

theorem network_showActive : (v.showActive s k).2.network =
    k.network.sendAll (requests v.client v.session.token (Action.listing v.router.active)) := by
  unfold showActive
  cases v.router.active with
  | expressions => exact network_showExpressions s k h
  | operations => exact network_showOperations s k h
  | agents => exact network_showAgents s k h
  | login => exact (network_printLines _ _).trans (network_printLines _ k)

theorem network_submission (view : ExpressionsView) :
    (match view.submit v.client v.session.token k with
      | (none, _, k) => ((.ok .failure, printNotice s (.failure "Enter an expression to calculate") k) :
          Result × Console Disk)
      | (some n, view, k) => afterNotice s n (Listing.expressions s view.rows) k).2.network =
    k.network.sendAll (requests v.client v.session.token
      (if view.input = "" then [] else followed (.createExpression view.input) .listExpressions k.network.next)) := by
  have hs := ExpressionsView.network_submit h k view
  generalize view.submit v.client v.session.token k = p at hs ⊢
  obtain ⟨n, view', k₁⟩ := p
  cases n with
  | none => exact (network_printNotice s _ k₁).trans hs
  | some n => exact (network_afterNotice s k₁ n fun _ => Listing.network_print s _ _ _).trans hs

theorem network_submit (text : String) : (v.submit s text k).2.network =
    k.network.sendAll (requests v.client v.session.token (.listExpressions ::
      if text = "" then [] else followed (.createExpression text) .listExpressions (k.network.outcome 1))) := by
  have hr := ExpressionsView.network_refresh h k (.new v.config.clearInput)
  unfold submit
  generalize (ExpressionsView.new v.config.clearInput).refresh v.client v.session.token k = p at hr ⊢
  obtain ⟨r, view, k₁⟩ := p
  dsimp only at hr
  obtain ⟨hnext, hall⟩ := Errand.past_first hr
  rw [← hall, ← hnext]
  cases r with
  | error e => exact network_submission s _ h { view with input := text }
  | ok a => exact network_submission s _ h { view with input := text }

theorem network_setCost (operationType : String) (cost : Nat) : (v.setCost s operationType cost k).2.network =
    k.network.sendAll (requests v.client v.session.token
      (.listOperations :: Action.revision operationType cost k.network.next (k.network.outcome 1))) := by
  have hr := OperationsView.network_refresh h k .new
  have hlist := OperationsView.refresh_new h k
  unfold setCost Action.revision
  generalize OperationsView.new.refresh v.client v.session.token k = p at hr hlist ⊢
  obtain ⟨r, view, k₁⟩ := p
  dsimp only at hr hlist
  obtain ⟨hnext, hall⟩ := Errand.past_first hr
  rw [← hall, ← hnext]
  cases hvalue : k.network.next.value? Client.decodeOperations with
  | none =>
    rw [hvalue] at hlist
    obtain ⟨e, rfl⟩ := hlist
    exact network_reportFailure s k₁ e
  | some operations =>
    rw [hvalue] at hlist
    obtain ⟨rfl, hrows⟩ := hlist
    obtain ⟨hknown, hrow⟩ := OperationsView.row?_edit hrows operationType cost
    have hsave := OperationsView.network_save h k₁ (view.edit operationType cost).2 operationType
    rw [hrow] at hsave
    dsimp only [Option.bind_some]
    generalize view.edit operationType cost = q at hknown hsave ⊢
    obtain ⟨known, view'⟩ := q
    cases hfound : operations.find? (·.operationType == operationType) with
    | none =>
      rw [hfound] at hknown
      cases hknown
      exact network_printNotice s _ k₁
    | some o =>
      rw [hfound] at hknown hsave
      cases hknown
      have hsaved : (view'.save v.client v.session.token operationType k₁).2.2.network =
          k₁.network.sendAll (requests v.client v.session.token (if o.executionTime = cost then []
            else followed (.updateOperation operationType cost) .listOperations k₁.network.next)) := by
        rw [hsave, Option.map_some, OperationRow.filter_isDirty]
        by_cases hcost : o.executionTime = cost
        · rw [if_pos hcost, if_pos hcost]
        · rw [if_neg hcost, if_neg hcost]
      dsimp only
      generalize view'.save v.client v.session.token operationType k₁ = t at hsaved ⊢
      obtain ⟨notice, view'', k₂⟩ := t
      have hquiet : ∀ n, (afterNotice s n (Listing.operations s view''.rows) k₂).2.network = k₂.network :=
        fun n => network_afterNotice s k₂ n fun _ => Listing.network_print s _ _ _
      cases notice with
      | none => exact (hquiet _).trans hsaved
      | some n => exact (hquiet n).trans hsaved

end Visit

/-! ### Accounts -/

def AuthMode.errand (c : Credentials) : AuthMode → Errand
  | .login => .login c
  | .registration => .register c

theorem Credentials.isComplete_eq_false_iff (c : Credentials) : c.isComplete = false ↔ c.email = "" ∨ c.password = "" := by
  unfold isComplete
  rw [Bool.and_eq_false_iff, Bool.not_eq_false', Bool.not_eq_false', String.isEmpty_iff, String.isEmpty_iff]

theorem AuthView.network_submit {σ : Type} {c : Client} {s : Session σ} (h : c.Sends s.token) (k : Console σ)
    (v : AuthView) : (v.submit c s k).2.2.2.network = k.network.sendAll (requests c s.token
      (if v.credentials.email = "" ∨ v.credentials.password = "" then [] else [v.mode.errand v.credentials])) := by
  have hcan : (!v.canSubmit) = true ↔ v.credentials.email = "" ∨ v.credentials.password = "" := by
    rw [← Credentials.isComplete_eq_false_iff, Bool.not_eq_true']
    rfl
  obtain ⟨mode, credentials⟩ := v
  unfold submit
  by_cases hempty : credentials.email = "" ∨ credentials.password = ""
  · rw [if_pos hempty, if_pos (hcan.mpr hempty)]
    rfl
  rw [if_neg hempty, if_neg (mt hcan.mp hempty)]
  cases mode with
  | login =>
    have hcall := (c.network_login credentials s k).trans (h.network_call (.login credentials) _ k)
    dsimp only
    generalize c.login credentials s k = p at hcall ⊢
    obtain ⟨_ | _, s', k'⟩ := p <;> exact hcall
  | registration =>
    have hcall := (c.network_register credentials s.token k).trans (h.network_call (.register credentials) _ k)
    dsimp only
    generalize c.register credentials s.token k = p at hcall ⊢
    obtain ⟨_ | _, k'⟩ := p <;> exact hcall

namespace Visit

variable (s : Screen) {v : Visit} (k : Console Disk)

theorem network_logout : (v.logout s k).2.network = k.network := by
  have hchange : (v.session.change .clearToken k).2.2.network = k.network := rfl
  unfold logout
  generalize v.session.change .clearToken k = p at hchange ⊢
  obtain ⟨_ | _, session, k'⟩ := p
  · exact hchange
  · dsimp only
    split
    · exact (network_printNotice s.asTable _ k').trans hchange
    · exact hchange

variable (h : v.client.Sends v.session.token)
include h

theorem network_account (mode : AuthMode) (c : Credentials) : (v.account s mode c k).2.network =
    k.network.sendAll (requests v.client v.session.token
      (if c.email = "" ∨ c.password = "" then [] else [mode.errand c])) := by
  have hs := AuthView.network_submit h k ⟨mode, c⟩
  have hform : ((AuthView.new.switchMode mode).setEmail c.email).setPassword c.password = ⟨mode, c⟩ := rfl
  unfold account
  rw [hform]
  dsimp only
  generalize AuthView.submit ⟨mode, c⟩ v.client v.session k = p at hs ⊢
  obtain ⟨n, form, session, k₁⟩ := p
  cases n with
  | none => exact (network_printNotice s.asTable _ k₁).trans hs
  | some n =>
    refine (network_afterNotice s.asTable k₁ n fun k => ?_).trans hs
    split <;> rfl

theorem network_status : (v.status s k).2.network =
    k.network.sendAll (requests v.client v.session.token [.listAgents]) := by
  unfold status
  dsimp only
  generalize title s "daec Status" ++ _ = lines
  have hcall := h.network_call .listAgents Client.decodeAgents (printLines k lines)
  rw [network_printLines] at hcall
  have hlist : (v.client.listAgents v.session.token (printLines k lines)).2.network = _ := hcall
  generalize v.client.listAgents v.session.token (printLines k lines) = p at hlist ⊢
  obtain ⟨_ | _, k₁⟩ := p <;> exact hlist

end Visit

/-- **An action** sends its errands, and nothing else. -/
theorem Action.network_act (s : Screen) {v : Visit} (k : Console Disk) (h : v.client.Sends v.session.token) (a : Action) :
    (a.act s v k).2.network = k.network.sendAll (requests v.client v.session.token
      (a.errands v.router.active (k.network.outcome 0) (k.network.outcome 1))) := by
  cases a with
  | «open» view => exact Visit.network_showActive s k h
  | listExpressions => exact Visit.network_showExpressions s k h
  | submit text => exact Visit.network_submit s k h text
  | listOperations => exact Visit.network_showOperations s k h
  | setCost operationType cost =>
    rw [← Network.next_eq_outcome]
    exact Visit.network_setCost s k h operationType cost
  | listAgents => exact Visit.network_showAgents s k h
  | login c => exact Visit.network_account s k h .login c
  | register c => exact Visit.network_account s k h .registration c
  | logout => exact Visit.network_logout s k
  | status => exact Visit.network_status s k h

end Visits

/-! ## Runs -/

/-- What a command sends in a session with the state `s`. -/
def Command.errands (s : SessionState) (first second : Outcome) : Command → List Errand
  | .visit a => a.errands (a.destination?.getD s.view) first second
  | .config _ => []

theorem ConfigAction.network_run (s : Surroundings) (screen : Screen) (c : Config) (a : ConfigAction)
    (k : Console Disk) : (a.run s screen c k).2.network = k.network := by
  have hsettle : ∀ changed line, (settle screen changed line k).2.network = k.network := by
    intro changed line
    obtain ⟨_ | _, d⟩ := changed <;> rfl
  cases a with
  | present =>
    unfold run
    cases c.effective with
    | error e => rfl
    | ok text => exact network_printLines _ k
  | _ => exact hsettle _ _

/-- **An action in its place** sends its errands where it goes to. -/
theorem Action.network_run (s : Screen) {v : Visit} {k : Console Disk} (h : v.client.Sends v.session.token) (a : Action)
    (hsave : ∀ view, ∃ d, v.session.storage.save (v.session.state.apply (.setView view)) k.store = (.ok (), d)) :
    (a.run s v k).2.network = k.network.sendAll (requests v.client v.session.token
      (a.errands (a.destination?.getD v.router.active) (k.network.outcome 0) (k.network.outcome 1))) := by
  unfold run
  cases a.destination? with
  | none => exact network_act s k h a
  | some view =>
    obtain ⟨d, hd⟩ := hsave view
    obtain ⟨v', k', hgo, hclient, hsession, hactive, -, hnetwork⟩ := Visit.goTo_ok hd
    -- the token is the one from before
    have htoken : v'.session.token = v.session.token := by rw [hsession]; rfl
    dsimp only
    rw [hgo]
    dsimp only
    rw [network_act s k' (by rw [hclient, htoken]; exact h) a, hclient, htoken, hactive, hnetwork]
    rfl

namespace Invocation

variable (i : Invocation) (d : Disk)

/-- What the file of the session opens as. -/
def opened : SessionState := (Storage.file i.surroundings.place (i.path d)).opens d

def client : Client := Client.make (i.config d).baseUrl (i.config d).timeoutMs

/-- The run carries out a command with the address of a service, a file that can be written, and a token, if there is
one, that fits into a header. -/
structure Equipped (format : Format) (command : Command) : Prop where
  spelled : Arguments.request i.surroundings.lookup i.words = .run format command
  address : (Url.read? (i.config d).baseUrl).isSome
  writable : ∀ s, (Storage.saveFile i.surroundings.place (i.path d) s d).1 = .ok ()
  header : (i.opened d).token.all (fun t => isHeaderValue t.bearer) = true

variable {i d} {n : Network} {format : Format} {command : Command}

theorem network_eq_sendAll (h : i.Equipped d format command) : (i.run d n).2.network =
    n.sendAll (requests (i.client d) (i.opened d).token
      (command.errands (i.opened d) (n.outcome 0) (n.outcome 1))) := by
  obtain ⟨k, hstore, hnetwork, hrun⟩ := run_eq (d := d) (n := n) h.spelled
  rw [hrun]
  unfold finish Command.run Command.errands
  cases command with
  | config a => exact (ConfigAction.network_run _ _ _ a k).trans hnetwork
  | visit a =>
    obtain ⟨v, k₁, hstart, hclient, hsession, hactive, hstore₁, hnetwork₁⟩ :=
      Visit.start_opens i.surroundings (i.config d) k (Storage.file i.surroundings.place (i.path d)) rfl
    have hstate : v.session.state = i.opened d := by rw [opened, hsession, hstore]
    have htoken : v.session.token = (i.opened d).token := congrArg SessionState.token hstate
    have hview : v.router.active = (i.opened d).view := hactive.trans (congrArg SessionState.view hstate)
    have hsends : v.client.Sends v.session.token := by
      rw [hclient, htoken]
      exact Client.sends_make h.address h.header _
    have hsave : ∀ view, ∃ d', v.session.storage.save (v.session.state.apply (.setView view)) k₁.store = (.ok (), d') := by
      intro view
      rw [hsession, hstore₁, hstore]
      exact ⟨_, Storage.save_file (h.writable _)⟩
    dsimp only
    rw [hstart]
    dsimp only
    rw [a.network_run _ hsends hsave, hclient, htoken, hview, hnetwork₁, hnetwork]
    rfl

/-- **The requests of a run**: its errands, each once and in their order, and each takes one outcome of the script. -/
theorem requests_of_run (h : i.Equipped d format command) (hn : n.Listens) : (i.run d n).2.network =
    n.after (requests (i.client d) (i.opened d).token
      (command.errands (i.opened d) (n.outcome 0) (n.outcome 1))) := by
  rw [network_eq_sendAll h, hn.sendAll_eq_after]

/-! ### A new cost -/

def setPlus : Invocation := atHome ["operations", "set", "+", "5"]

def answered (body : String) : Outcome := .answered ⟨200, "OK", body.toUTF8⟩

def plus (cost : String) : String :=
  "\x7b\"id\": 1, \"operation_type\": \"+\", \"execution_time\": " ++ cost ++ "\x7d"

/-- A service that takes the new cost of an addition, and is gone when the list is fetched again. -/
def taking : Network := ⟨[answered ("[" ++ plus "3" ++ "]"), answered (plus "5")], .dropped, []⟩

theorem equipped_setPlus : setPlus.Equipped .empty .table (.visit (.setCost "+" 5)) :=
  ⟨by decide +kernel, by decide +kernel, fun _ => rfl, by decide +kernel⟩

theorem requests_of_setPlus : setPlus.Equipped .empty .table (.visit (.setCost "+" 5)) ∧ taking.Listens ∧
    (setPlus.run .empty taking).2.network.received.map (fun r => (r.method, r.path, r.body)) =
      [("GET", "/v1/operations", ""),
        ("PATCH", "/v1/operations", "\x7b\"operation_type\":\"+\",\"execution_time\":5\x7d"),
        ("GET", "/v1/operations", "")] := by
  have hlistens : taking.Listens := ⟨by simp [taking, answered], by simp [taking]⟩
  refine ⟨equipped_setPlus, hlistens, ?_⟩
  rw [requests_of_run equipped_setPlus hlistens]
  decide +kernel

end Invocation
end CalcConsole
