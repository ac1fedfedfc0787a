import Mathlib.Data.List.Forall2
import CalcConsole.Command.Run
import CalcConsole.Proofs.Disk.Twins
import CalcConsole.Proofs.Views.Fetching
/-! # Two runs side by side

A `Likeness` says which tokens, stores and requests of two runs are alike, and that what is alike stays so when it is
sent, saved and loaded.  Then all that a visit does goes side by side: the same texts are printed and the same events
logged, the same answers are taken, and the requests are alike one by one. -/
namespace CalcConsole

/-- What two runs in the session at `path` may differ in without being told apart. -/
structure Likeness (cwd : Place) (path : String) where
  token : Option Token → Option Token → Prop
  store : Disk → Disk → Prop
  request : Request → Request → Prop
  token_refl : ∀ t, token t t
  isSome_token : ∀ {t t'}, token t t' → t'.isSome = t.isSome
  sent : ∀ (c : Client) (method resource : String) {t t' : Option Token} (payload : Option Json), token t t' →
    Matched request (c.request method resource t payload) (c.request method resource t' payload)
  saved : ∀ (page : Option ViewName) {t t' : Option Token} {d d' : Disk}, token t t' → store d d' →
    (Storage.saveFile cwd path ⟨page, t'⟩ d').1 = (Storage.saveFile cwd path ⟨page, t⟩ d).1 ∧
      store (Storage.saveFile cwd path ⟨page, t⟩ d).2 (Storage.saveFile cwd path ⟨page, t'⟩ d').2
  loaded : ∀ {d d' : Disk}, store d d' →
    Matched (fun s s' => s'.page = s.page ∧ token s.token s'.token) (Storage.loadFile cwd path d).1
        (Storage.loadFile cwd path d').1 ∧
      (Storage.loadFile cwd path d').2 = (Storage.loadFile cwd path d).2

namespace Likeness

variable {cwd : Place} {path : String} (L : Likeness cwd path)

structure Consoles (k k' : Console Disk) : Prop where
  store : L.store k.store k'.store
  script : k'.network.script = k.network.script
  afterwards : k'.network.afterwards = k.network.afterwards
  received : List.Forall₂ L.request k.network.received k'.network.received
  transcript : k'.transcript = k.transcript

inductive Agree {α : Type} : α × Console Disk → α × Console Disk → Prop
  | intro (a : α) {k k' : Console Disk} (h : L.Consoles k k') : Agree (a, k) (a, k')

inductive Turn {α β : Type} : α × β × Console Disk → α × β × Console Disk → Prop
  | intro (a : α) (b : β) {k k' : Console Disk} (h : L.Consoles k k') : Turn (a, b, k) (a, b, k')

inductive Sessions : Session Disk → Session Disk → Prop
  | intro (page : Option ViewName) {t t' : Option Token} (h : L.token t t') :
    Sessions ⟨⟨page, t⟩, Storage.file cwd path⟩ ⟨⟨page, t'⟩, Storage.file cwd path⟩

inductive Step {α : Type} : α × Session Disk × Console Disk → α × Session Disk × Console Disk → Prop
  | intro (a : α) {s s' : Session Disk} {k k' : Console Disk} (hs : L.Sessions s s') (h : L.Consoles k k') :
    Step (a, s, k) (a, s', k')

inductive Visits : Visit → Visit → Prop
  | intro (config : Config) (client : Client) (router : Router) {s s' : Session Disk} (h : L.Sessions s s') :
    Visits ⟨config, client, s, router⟩ ⟨config, client, s', router⟩

variable {L} {k k' : Console Disk}

namespace Consoles

variable (h : L.Consoles k k')
include h

theorem record (p : Printed) : L.Consoles (k.record p) (k'.record p) :=
  ⟨h.store, h.script, h.afterwards, h.received, congrArg (· ++ [p]) h.transcript⟩

theorem note (e : Event) : L.Consoles (k.note e) (k'.note e) := h.record _

theorem printLine (s : String) : L.Consoles (k.printLine s) (k'.printLine s) := h.record _

theorem printAside (s : String) : L.Consoles (k.printAside s) (k'.printAside s) := h.record _

omit h in
theorem noteAll (es : List Event) : ∀ {k k' : Console Disk}, L.Consoles k k' →
    L.Consoles (k.noteAll es) (k'.noteAll es) := by
  induction es with
  | nil => exact id
  | cons e es ih => exact fun h => ih (h.note e)

omit h in
theorem printLines (lines : List String) : ∀ {k k' : Console Disk}, L.Consoles k k' →
    L.Consoles (printLines k lines) (CalcConsole.printLines k' lines) := by
  induction lines with
  | nil => exact id
  | cons s lines ih => exact fun h => ih (h.printLine s)

theorem printNotice (s : Screen) (n : Notice) : L.Consoles (printNotice s n k) (CalcConsole.printNotice s n k') := by
  unfold CalcConsole.printNotice
  cases n with
  | success message =>
    dsimp only
    split
    · exact h.printLine _
    · exact h.printAside _
  | failure message => exact h.printAside _

theorem listing (s : Screen) (items : List Json) (lines : List String) :
    L.Consoles (Listing.print s items lines k) (Listing.print s items lines k') := by
  unfold Listing.print
  cases s.format with
  | json => exact h.printLine _
  | table => exact h.printLines lines

/-- **A request that is alike** gets the same answer. -/
theorem send {r r' : Request} (hr : L.request r r') : (k'.network.send r').1 = (k.network.send r).1 ∧
    L.Consoles { k with network := (k.network.send r).2 } { k' with network := (k'.network.send r').2 } := by
  have hnext : k'.network.next = k.network.next := by
    unfold Network.next
    rw [h.script, h.afterwards]
  have hscript := congrArg List.tail h.script
  have hreceived := List.rel_append h.received (.cons hr .nil)
  unfold Network.send
  rw [hnext]
  cases k.network.next with
  | refused => exact ⟨rfl, h.store, hscript, h.afterwards, h.received, h.transcript⟩
  | answered reply => exact ⟨rfl, h.store, hscript, h.afterwards, hreceived, h.transcript⟩
  | dropped => exact ⟨rfl, h.store, hscript, h.afterwards, hreceived, h.transcript⟩

end Consoles

/-! ## Calls and views -/

/-- **A call** whose requests are alike comes to the same. -/
theorem call_of_matched {α : Type} {c : Client} {method resource : String} {t t' : Option Token}
    {payload payload' : Option Json} (h : L.Consoles k k')
    (hr : Matched L.request (c.request method resource t payload) (c.request method resource t' payload'))
    (decode : Json.Decoder α) :
    L.Agree (c.call method resource t payload decode k) (c.call method resource t' payload' decode k') := by
  unfold Client.call Client.send
  generalize c.request method resource t payload = r, c.request method resource t' payload' = r' at hr
  cases hr with
  | error e => exact .intro _ (h.note _)
  | @ok r r' hr =>
    obtain ⟨houtcome, hconsoles⟩ := h.send hr
    dsimp only
    generalize k.network.send r = p, k'.network.send r' = p' at houtcome hconsoles
    obtain ⟨o, n⟩ := p
    obtain ⟨o', n'⟩ := p'
    dsimp only at houtcome hconsoles
    subst houtcome
    cases o' with
    | answered reply => exact .intro _ (hconsoles.note _)
    | dropped => exact .intro _ (hconsoles.note _)
    | refused => exact .intro _ (hconsoles.note _)

section Views

variable {t t' : Option Token} (ht : L.token t t') (c : Client) (h : L.Consoles k k')
include ht h

theorem call {α : Type} (method resource : String) (payload : Option Json) (decode : Json.Decoder α) :
    L.Agree (c.call method resource t payload decode k) (c.call method resource t' payload decode k') :=
  call_of_matched h (L.sent c method resource payload ht) decode

theorem refresh (w : ListView) (v : w.State) : L.Turn (w.refresh v c t k) (w.refresh v c t' k') := by
  have hask : L.Agree (w.ask c t k) (w.ask c t' k') := by
    rw [w.ask_eq, w.ask_eq]
    exact call ht c h _ _ _ _
  rw [w.refresh_eq, w.refresh_eq]
  generalize w.ask c t k = p, w.ask c t' k' = p' at hask ⊢
  cases hask with
  | intro a h => exact .intro _ _ (h.noteAll _)

theorem refresh_expressions (v : ExpressionsView) : L.Turn (v.refresh c t k) (v.refresh c t' k') :=
  refresh ht c h .expressions v

theorem refresh_operations (v : OperationsView) : L.Turn (v.refresh c t k) (v.refresh c t' k') :=
  refresh ht c h .operations v

theorem refresh_agents (v : AgentsView) : L.Turn (v.refresh c t k) (v.refresh c t' k') := refresh ht c h .agents v

theorem submit_expression (v : ExpressionsView) : L.Turn (v.submit c t k) (v.submit c t' k') := by
  have hcall : L.Agree (c.createExpression t v.input k) (c.createExpression t' v.input k') := call ht c h _ _ _ _
  unfold ExpressionsView.submit
  split
  · exact .intro _ _ h
  · generalize c.createExpression t v.input k = p, c.createExpression t' v.input k' = p' at hcall ⊢
    cases hcall with
    | @intro a k₁ k₁' h₁ =>
      cases a with
      | error e => exact .intro _ _ h₁
      | ok created =>
        have hrefresh := refresh_expressions ht c (h₁.note (.expressionAccepted created.id)) { v with input := "" }
        dsimp only
        generalize ExpressionsView.refresh _ c t (k₁.note (.expressionAccepted created.id)) = q,
          ExpressionsView.refresh _ c t' (k₁'.note (.expressionAccepted created.id)) = q' at hrefresh ⊢
        cases hrefresh with
        | intro r view h₂ =>
          cases r with
          | error e => exact .intro _ _ (h₂.note _)
          | ok a => exact .intro _ _ h₂

theorem save_operation (v : OperationsView) (operationType : String) :
    L.Turn (v.save c t operationType k) (v.save c t' operationType k') := by
  unfold OperationsView.save
  cases (v.row? operationType).filter OperationRow.isDirty with
  | none => exact .intro _ _ h
  | some row =>
    have hcall : L.Agree (c.updateOperation t operationType row.edited k)
      (c.updateOperation t' operationType row.edited k') := call ht c h _ _ _ _
    dsimp only
    generalize c.updateOperation t operationType row.edited k = p,
      c.updateOperation t' operationType row.edited k' = p' at hcall ⊢
    cases hcall with
    | @intro a k₁ k₁' h₁ =>
      cases a with
      | error e => exact .intro _ _ h₁
      | ok updated =>
        have hrefresh := refresh_operations ht c
          (h₁.note (.operationUpdated updated.operationType updated.executionTime)) v
        dsimp only
        generalize v.refresh c t (k₁.note (.operationUpdated updated.operationType updated.executionTime)) = q,
          v.refresh c t' (k₁'.note (.operationUpdated updated.operationType updated.executionTime)) = q'
          at hrefresh ⊢
        cases hrefresh with
        | intro r view h₂ =>
          cases r with
          | error e => exact .intro _ _ (h₂.note _)
          | ok a => exact .intro _ _ h₂

end Views

/-! ## Sessions -/

theorem apply_alike (page : Option ViewName) {t t' : Option Token} (ht : L.token t t') (c : SessionState.Change) :
    ∃ page₁ t₁ t₁', L.token t₁ t₁' ∧ SessionState.apply ⟨page, t⟩ c = ⟨page₁, t₁⟩ ∧
      SessionState.apply ⟨page, t'⟩ c = ⟨page₁, t₁'⟩ := by
  cases c with
  | setView v => exact ⟨_, _, _, ht, rfl, rfl⟩
  | setToken t => exact ⟨_, _, _, L.token_refl (some t), rfl, rfl⟩
  | clearToken => exact ⟨_, _, _, L.token_refl none, rfl, rfl⟩
  | clear => exact ⟨_, _, _, L.token_refl none, rfl, rfl⟩

theorem change_file {s s₁ : SessionState} {c : SessionState.Change} (h : s.apply c = s₁) (k : Console Disk) :
    Session.change ⟨s, Storage.file cwd path⟩ c k = ((Storage.saveFile cwd path s₁ k.store).1,
      ⟨s₁, Storage.file cwd path⟩, { k with store := (Storage.saveFile cwd path s₁ k.store).2 }) := by
  unfold Session.change Storage.file
  dsimp only
  rw [h]

theorem change {s s' : Session Disk} (hs : L.Sessions s s') (h : L.Consoles k k') (c : SessionState.Change) :
    L.Step (s.change c k) (s'.change c k') := by
  cases hs with
  | @intro page t t' ht =>
    obtain ⟨page₁, t₁, t₁', ht₁, hstate, hstate'⟩ := apply_alike page ht c
    obtain ⟨hresult, hstore⟩ := L.saved page₁ ht₁ h.store
    rw [change_file hstate, change_file hstate', hresult]
    exact .intro _ (.intro page₁ ht₁) ⟨hstore, h.script, h.afterwards, h.received, h.transcript⟩

theorem open_session (h : L.Consoles k k') :
    L.Sessions (Session.«open» (Storage.file cwd path) k).1 (Session.«open» (Storage.file cwd path) k').1 ∧
      L.Consoles (Session.«open» (Storage.file cwd path) k).2 (Session.«open» (Storage.file cwd path) k').2 := by
  obtain ⟨hstate, hevents⟩ := L.loaded h.store
  unfold Session.«open»
  dsimp only [Storage.file]
  generalize Storage.loadFile cwd path k.store = p, Storage.loadFile cwd path k'.store = p' at hstate hevents
  obtain ⟨r, events⟩ := p
  obtain ⟨r', events'⟩ := p'
  dsimp only at hstate hevents ⊢
  subst hevents
  cases hstate with
  | error e => exact ⟨.intro none (L.token_refl none), (h.noteAll _).note _⟩
  | @ok s s' hs =>
    obtain ⟨page, t⟩ := s
    obtain ⟨page', t'⟩ := s'
    obtain ⟨hpage, ht⟩ := hs
    dsimp only at hpage ht
    subst hpage
    exact ⟨.intro page' ht, h.noteAll _⟩

/-! ## Visits -/

variable {v v' : Visit}

theorem start {s s' : Surroundings} {c : Config} (hhome : s'.home = s.home) (hplace : s.place = cwd)
    (hplace' : s'.place = cwd) (hpath : SessionFile.path s.home c.sessionFolder c.sessionName = path)
    (h : L.Consoles k k') : L.Visits (Visit.start s c k).1 (Visit.start s' c k').1 ∧
      L.Consoles (Visit.start s c k).2 (Visit.start s' c k').2 := by
  unfold Visit.start
  rw [hhome, hplace, hplace', hpath]
  obtain ⟨hsessions, hconsoles⟩ := open_session (h.note (.openingSession path))
  dsimp only [Router.restore]
  generalize Session.«open» (Storage.file cwd path) (k.note (.openingSession path)) = p,
    Session.«open» (Storage.file cwd path) (k'.note (.openingSession path)) = p' at hsessions hconsoles ⊢
  obtain ⟨session, k₁⟩ := p
  obtain ⟨session', k₁'⟩ := p'
  dsimp only at hsessions hconsoles ⊢
  cases hsessions with
  | intro page ht => exact ⟨.intro _ _ _ (.intro page ht), hconsoles.note _⟩

theorem goTo (hv : L.Visits v v') (h : L.Consoles k k') (view : ViewName) :
    Matched L.Visits (v.goTo view k).1 (v'.goTo view k').1 ∧ L.Consoles (v.goTo view k).2 (v'.goTo view k').2 := by
  cases hv with
  | @intro config client router s s' hs =>
    have hchange := change hs h (.setView view)
    unfold Visit.goTo Router.navigate
    dsimp only
    generalize s.change (.setView view) k = p, s'.change (.setView view) k' = p' at hchange ⊢
    cases hchange with
    | intro a hs₁ h₁ =>
      cases a with
      | error e => exact ⟨.error _, h₁⟩
      | ok u =>
        refine ⟨.ok (.intro config client ⟨view⟩ hs₁), ?_⟩
        dsimp only
        split
        · exact h₁
        · exact h₁.note _

section Actions

variable (s : Screen)

theorem reportFailure (h : L.Consoles k k') (e : ServiceError) :
    L.Agree (Visit.reportFailure s e k) (Visit.reportFailure s e k') := by
  have hnotice := h.printNotice s.asTable (.failure e.message)
  unfold Visit.reportFailure
  refine .intro _ ?_
  split
  · exact hnotice.printAside _
  · exact hnotice

theorem afterNotice (h : L.Consoles k k') (n : Notice) {listing : Console Disk → Console Disk}
    (hl : ∀ {k k'}, L.Consoles k k' → L.Consoles (listing k) (listing k')) :
    L.Agree (Visit.afterNotice s n listing k) (Visit.afterNotice s n listing k') := by
  unfold Visit.afterNotice
  dsimp only
  split
  · exact .intro _ (h.printNotice s n)
  · exact .intro _ (hl (h.printNotice s n))

theorem submission {t t' : Option Token} (ht : L.token t t') (c : Client) (h : L.Consoles k k')
    (view : ExpressionsView) :
    L.Agree (match view.submit c t k with
      | (none, _, k) => ((.ok .failure, printNotice s (.failure "Enter an expression to calculate") k) :
          Result × Console Disk)
      | (some n, view, k) => Visit.afterNotice s n (Listing.expressions s view.rows) k)
    (match view.submit c t' k' with
      | (none, _, k) => ((.ok .failure, printNotice s (.failure "Enter an expression to calculate") k) :
          Result × Console Disk)
      | (some n, view, k) => Visit.afterNotice s n (Listing.expressions s view.rows) k) := by
  have hs := submit_expression ht c h view
  generalize view.submit c t k = p, view.submit c t' k' = p' at hs ⊢
  cases hs with
  | intro n view h₁ =>
    cases n with
    | none => exact .intro _ (h₁.printNotice s _)
    | some n => exact afterNotice s h₁ n fun h => h.listing s _ _

variable (hv : L.Visits v v')
include hv

theorem printHeader (h : L.Consoles k k') : L.Consoles (v.printHeader s k) (v'.printHeader s k') := by
  cases hv with
  | intro config client router hs => exact h.printLines _

theorem headed (h : L.Consoles k k') : L.Consoles (v.headed s k) (v'.headed s k') := by
  unfold Visit.headed
  split
  · exact printHeader s hv h
  · exact h

theorem showExpressions (h : L.Consoles k k') : L.Agree (v.showExpressions s k) (v'.showExpressions s k') := by
  have hheaded : ∀ {k k'}, L.Consoles k k' → L.Consoles (v.headed s k) (v'.headed s k') := headed s hv
  cases hv with
  | @intro config client router _ _ hs =>
    cases hs with
    | @intro page t t' ht =>
      have hr := refresh_expressions ht client h (ExpressionsView.new config.clearInput)
      unfold Visit.showExpressions
      dsimp only [Session.token]
      generalize (ExpressionsView.new config.clearInput).refresh client t k = p,
        (ExpressionsView.new config.clearInput).refresh client t' k' = p' at hr ⊢
      cases hr with
      | intro r view h₁ =>
        cases r with
        | error e => exact reportFailure s h₁ e
        | ok a => exact .intro _ ((hheaded h₁).listing s _ _)

theorem showOperations (h : L.Consoles k k') : L.Agree (v.showOperations s k) (v'.showOperations s k') := by
  have hheaded : ∀ {k k'}, L.Consoles k k' → L.Consoles (v.headed s k) (v'.headed s k') := headed s hv
  cases hv with
  | @intro config client router _ _ hs =>
    cases hs with
    | @intro page t t' ht =>
      have hr := refresh_operations ht client h OperationsView.new
      unfold Visit.showOperations
      dsimp only [Session.token]
      generalize OperationsView.new.refresh client t k = p,
        OperationsView.new.refresh client t' k' = p' at hr ⊢
      cases hr with
      | intro r view h₁ =>
        cases r with
        | error e => exact reportFailure s h₁ e
        | ok a => exact .intro _ ((hheaded h₁).listing s _ _)

theorem showAgents (h : L.Consoles k k') : L.Agree (v.showAgents s k) (v'.showAgents s k') := by
  have hheaded : ∀ {k k'}, L.Consoles k k' → L.Consoles (v.headed s k) (v'.headed s k') := headed s hv
  cases hv with
  | @intro config client router _ _ hs =>
    cases hs with
    | @intro page t t' ht =>
      have hr := refresh_agents ht client h AgentsView.new
      unfold Visit.showAgents
      dsimp only [Session.token]
      generalize AgentsView.new.refresh client t k = p,
        AgentsView.new.refresh client t' k' = p' at hr ⊢
      cases hr with
      | intro r view h₁ =>
        cases r with
        | error e => exact reportFailure s h₁ e
        | ok a => exact .intro _ ((hheaded h₁).listing s _ _)

theorem isAuthenticated_eq : v'.session.state.isAuthenticated = v.session.state.isAuthenticated := by
  cases hv with
  | intro config client router hs =>
    cases hs with
    | intro page ht => exact L.isSome_token ht

theorem router_eq : v'.router = v.router := by
  cases hv
  rfl

theorem showLogin (h : L.Consoles k k') : L.Agree (v.showLogin s k) (v'.showLogin s k') := by
  unfold Visit.showLogin
  rw [isAuthenticated_eq hv]
  exact .intro _ ((printHeader s hv h).printLines _)

theorem showActive (h : L.Consoles k k') : L.Agree (v.showActive s k) (v'.showActive s k') := by
  unfold Visit.showActive
  rw [router_eq hv]
  cases v.router.active with
  | expressions => exact showExpressions s hv h
  | operations => exact showOperations s hv h
  | agents => exact showAgents s hv h
  | login => exact showLogin s hv h

theorem submit (h : L.Consoles k k') (text : String) : L.Agree (v.submit s text k) (v'.submit s text k') := by
  cases hv with
  | @intro config client router _ _ hs =>
    cases hs with
    | @intro page t t' ht =>
      have hr := refresh_expressions ht client h (.new config.clearInput)
      unfold Visit.submit
      dsimp only [Session.token]
      generalize (ExpressionsView.new config.clearInput).refresh client t k = p,
        (ExpressionsView.new config.clearInput).refresh client t' k' = p' at hr ⊢
      cases hr with
      | intro r view h₁ =>
        cases r with
        | error e => exact submission s ht client (h₁.note _) _
        | ok a => exact submission s ht client h₁ _

theorem setCost (h : L.Consoles k k') (operationType : String) (cost : Nat) :
    L.Agree (v.setCost s operationType cost k) (v'.setCost s operationType cost k') := by
  cases hv with
  | intro config client router hs =>
    cases hs with
    | @intro page t t' ht =>
      have hr := refresh_operations ht client h .new
      unfold Visit.setCost
      dsimp only [Session.token]
      generalize OperationsView.new.refresh client t k = p, OperationsView.new.refresh client t' k' = p' at hr ⊢
      cases hr with
      | @intro r view k₁ k₁' h₁ =>
        cases r with
        | error e => exact reportFailure s h₁ e
        | ok a =>
          dsimp only
          generalize view.edit operationType cost = q
          obtain ⟨known, edited⟩ := q
          cases known with
          | false => exact .intro _ (h₁.printNotice s _)
          | true =>
            have hsave := save_operation ht client h₁ edited operationType
            dsimp only
            generalize edited.save client t operationType k₁ = w,
              edited.save client t' operationType k₁' = w' at hsave ⊢
            cases hsave with
            | intro n view h₂ =>
              cases n with
              | none => exact afterNotice s h₂ _ fun h => h.listing s _ _
              | some n => exact afterNotice s h₂ n fun h => h.listing s _ _

theorem logout (h : L.Consoles k k') : L.Agree (v.logout s k) (v'.logout s k') := by
  have hauthenticated := isAuthenticated_eq hv
  unfold Visit.logout
  rw [hauthenticated]
  generalize v.session.state.isAuthenticated = authenticated
  cases hv with
  | @intro config client router session session' hs =>
    have hchange := change hs h .clearToken
    dsimp only
    generalize session.change .clearToken k = p, session'.change .clearToken k' = p' at hchange ⊢
    cases hchange with
    | intro a hs₁ h₁ =>
      cases a with
      | error e => exact .intro _ h₁
      | ok u =>
        refine .intro _ ?_
        split
        · exact h₁.printNotice _ _
        · exact h₁.printLine _

theorem status (h : L.Consoles k k') : L.Agree (v.status s k) (v'.status s k') := by
  have hauthenticated := isAuthenticated_eq hv
  unfold Visit.status
  rw [hauthenticated]
  generalize v.session.state.isAuthenticated = authenticated
  cases hv with
  | @intro config client router _ _ hs =>
    cases hs with
    | @intro page t t' ht =>
      dsimp only [Session.token]
      have hlines : ∀ lines, L.Consoles (printLines k lines) (printLines k' lines) := fun lines => h.printLines lines
      generalize Visit.title s "daec Status" ++ _ = lines
      have hcall : L.Agree (client.listAgents t (printLines k lines)) (client.listAgents t' (printLines k' lines)) :=
        call ht client (hlines lines) _ _ _ _
      generalize client.listAgents t (printLines k lines) = p, client.listAgents t' (printLines k' lines) = p'
        at hcall ⊢
      cases hcall with
      | intro a h₁ =>
        cases a with
        | error e => exact .intro _ (h₁.printLine _)
        | ok agents => exact .intro _ (h₁.printLine _)

end Actions

/-! ## Accounts -/

/-- Credentials that may differ in the password, if they are sent alike. -/
structure SentAlike (L : Likeness cwd path) (c c' : Credentials) : Prop where
  email : c'.email = c.email
  complete : c'.isComplete = c.isComplete
  sent : ∀ (client : Client) (resource : String) {t t' : Option Token}, L.token t t' →
    Matched L.request (client.request "POST" resource t (some c.json))
      (client.request "POST" resource t' (some c'.json))

theorem SentAlike.refl (c : Credentials) : SentAlike L c c :=
  ⟨rfl, rfl, fun client resource _ _ ht => L.sent client "POST" resource _ ht⟩

section Accounts

variable {c c' : Credentials} (hc : SentAlike L c c') (client : Client)
include hc

theorem login {session session' : Session Disk} (hs : L.Sessions session session') (h : L.Consoles k k') :
    L.Step (client.login c session k) (client.login c' session' k') := by
  cases hs with
  | @intro page t t' ht =>
    have hcall := call_of_matched h (hc.sent client "/login" ht) Account.decodeLogin
    unfold Client.login
    dsimp only [Session.token]
    rw [hc.email]
    generalize client.call "POST" "/login" t (some c.json) Account.decodeLogin k = p,
      client.call "POST" "/login" t' (some c'.json) Account.decodeLogin k' = p' at hcall ⊢
    cases hcall with
    | @intro a k₁ k₁' h₁ =>
      cases a with
      | error e => exact .intro _ (.intro page ht) h₁
      | ok token =>
        have hchange := change (.intro page ht) h₁ (.setToken token)
        dsimp only
        generalize Session.change ⟨⟨page, t⟩, Storage.file cwd path⟩ (.setToken token) k₁ = q,
          Session.change ⟨⟨page, t'⟩, Storage.file cwd path⟩ (.setToken token) k₁' = q' at hchange ⊢
        cases hchange with
        | intro r hs₂ h₂ =>
          cases r with
          | error e => exact .intro _ hs₂ h₂
          | ok u => exact .intro _ hs₂ (h₂.note _)

theorem register {t t' : Option Token} (ht : L.token t t') (h : L.Consoles k k') :
    L.Agree (client.register c t k) (client.register c' t' k') := by
  have hcall := call_of_matched h (hc.sent client "/register" ht) (Account.decodeRegistration Json.topRoom)
  unfold Client.register
  rw [hc.email]
  generalize client.call "POST" "/register" t (some c.json) (Account.decodeRegistration Json.topRoom) k = p,
    client.call "POST" "/register" t' (some c'.json) (Account.decodeRegistration Json.topRoom) k' = p' at hcall ⊢
  cases hcall with
  | intro a h₁ =>
    cases a with
    | error e => exact .intro _ h₁
    | ok user => exact .intro _ (h₁.note _)

omit hc

theorem form_eq (mode : AuthMode) (c : Credentials) :
    ((AuthView.new.switchMode mode).setEmail c.email).setPassword c.password = ⟨mode, c⟩ := rfl

theorem account (hc : SentAlike L c c') (s : Screen) (mode : AuthMode) (hv : L.Visits v v') (h : L.Consoles k k') :
    L.Agree (v.account s mode c k) (v'.account s mode c' k') := by
  have hnext : ∀ form : AuthMode, ∀ {k k' : Console Disk}, L.Consoles k k' → L.Consoles
      (if form = .login ∧ mode = .registration then
        k.printLine ("  " ++ s.paint .faint "Next:" ++ " Log in with `daec login --email " ++ c.email ++ "`") else k)
      (if form = .login ∧ mode = .registration then
        k'.printLine ("  " ++ s.paint .faint "Next:" ++ " Log in with `daec login --email " ++ c.email ++ "`")
      else k') := by
    intro form k k' h
    split
    · exact h.printLine _
    · exact h
  unfold Visit.account AuthView.submit AuthView.canSubmit
  rw [form_eq, form_eq]
  dsimp only
  rw [hc.complete, hc.email]
  -- Whether a form can be submitted is all that is known of the password before it is sent.
  cases c.isComplete with
  | false => exact .intro _ (h.printNotice _ _)
  | true =>
    simp only [Bool.not_true, Bool.false_eq_true, if_false]
    cases hv with
    | @intro config client router session session' hs =>
      cases mode with
      | login =>
        have hlogin := login hc client hs h
        dsimp only
        generalize client.login c session k = p, client.login c' session' k' = p' at hlogin ⊢
        cases hlogin with
        | intro r hs₁ h₁ =>
          cases r with
          | error e => exact afterNotice s.asTable h₁ _ (hnext .login)
          | ok token => exact afterNotice s.asTable h₁ _ (hnext .login)
      | registration =>
        have hregister : L.Agree (client.register c session.token k) (client.register c' session'.token k') := by
          cases hs with
          | intro page ht => exact register hc client ht h
        dsimp only
        generalize client.register c session.token k = p, client.register c' session'.token k' = p' at hregister ⊢
        cases hregister with
        | intro r h₁ =>
          cases r with
          | error e => exact afterNotice s.asTable h₁ _ (hnext .registration)
          | ok user => exact afterNotice s.asTable h₁ _ (hnext .login)

end Accounts

/-! ## The whole visit -/

inductive Actions (L : Likeness cwd path) : Action → Action → Prop
  | same (a : Action) : Actions L a a
  | login {c c' : Credentials} (h : SentAlike L c c') : Actions L (.login c) (.login c')
  | register {c c' : Credentials} (h : SentAlike L c c') : Actions L (.register c) (.register c')

theorem act {a a' : Action} (ha : L.Actions a a') (s : Screen) (hv : L.Visits v v') (h : L.Consoles k k') :
    L.Agree (a.act s v k) (a'.act s v' k') := by
  cases ha with
  | login hc => exact account hc s .login hv h
  | register hc => exact account hc s .registration hv h
  | same =>
    cases a with
    | «open» view => exact showActive s hv h
    | listExpressions => exact showExpressions s hv h
    | submit text => exact submit s hv h text
    | listOperations => exact showOperations s hv h
    | setCost operationType cost => exact setCost s hv h operationType cost
    | listAgents => exact showAgents s hv h
    | login c => exact account (.refl c) s .login hv h
    | register c => exact account (.refl c) s .registration hv h
    | logout => exact logout s hv h
    | status => exact status s hv h

/-- **A visit** goes side by side with one that is alike, from the session to the last line. -/
theorem visit {a a' : Action} (ha : L.Actions a a') (screen : Screen) {s s' : Surroundings} {c : Config}
    (hhome : s'.home = s.home) (hplace : s.place = cwd) (hplace' : s'.place = cwd)
    (hpath : SessionFile.path s.home c.sessionFolder c.sessionName = path) (h : L.Consoles k k') :
    L.Agree (Command.run s screen c (.visit a) k) (Command.run s' screen c (.visit a') k') := by
  obtain ⟨hvisits, hconsoles⟩ := start hhome hplace hplace' hpath h
  have hdestination : a'.destination? = a.destination? := by cases ha <;> rfl
  unfold Command.run Action.run
  dsimp only
  generalize Visit.start s c k = p, Visit.start s' c k' = p' at hvisits hconsoles ⊢
  obtain ⟨v, k₁⟩ := p
  obtain ⟨v', k₁'⟩ := p'
  dsimp only at hvisits hconsoles ⊢
  rw [hdestination]
  cases a.destination? with
  | none => exact act ha screen hvisits hconsoles
  | some view =>
    obtain ⟨hgone, hconsoles₁⟩ := goTo hvisits hconsoles view
    dsimp only
    generalize v.goTo view k₁ = q, v'.goTo view k₁' = q' at hgone hconsoles₁ ⊢
    obtain ⟨r, k₂⟩ := q
    obtain ⟨r', k₂'⟩ := q'
    dsimp only at hgone hconsoles₁
    cases hgone with
    | error e => exact .intro _ hconsoles₁
    | ok hv => exact act ha screen hv hconsoles₁

end Likeness
end CalcConsole
