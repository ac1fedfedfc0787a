import CalcConsole.Command.Visit
import CalcConsole.Proofs.Service.Calls
import CalcConsole.Proofs.Views.Changes
/-! # What an action asks

Most actions only ask: they leave the store alone, and all that they send carries the token of the session.  `Asks` says
so of a part of a run, from the calls of the service up to the actions of a visit. -/
namespace CalcConsole

variable {σ : Type}

/-- From `k` to `k'` requests are sent with the token and texts are printed, and nothing else happens. -/
structure Asks (token : Option Token) (k k' : Console σ) : Prop where
  store : k'.store = k.store
  sent : ∃ rs, k'.network.received = k.network.received ++ rs ∧
    ∀ r ∈ rs, r.authorization = token.map fun t => sentHeader t.bearer

theorem network_printLines (lines : List String) : ∀ k : Console σ, (printLines k lines).network = k.network := by
  induction lines with
  | nil => exact fun _ => rfl
  | cons s lines ih => exact fun k => ih (k.printLine s)

theorem network_printNotice (s : Screen) (n : Notice) (k : Console σ) : (printNotice s n k).network = k.network := by
  unfold printNotice
  cases n with
  | success message => dsimp only; split <;> rfl
  | failure message => rfl

theorem store_printNotice (s : Screen) (n : Notice) (k : Console σ) : (printNotice s n k).store = k.store := by
  unfold printNotice
  cases n with
  | success message => dsimp only; split <;> rfl
  | failure message => rfl

namespace Asks

variable {token : Option Token} {k k' k'' : Console σ}

theorem quiet (hs : k'.store = k.store) (hn : k'.network = k.network) : Asks token k k' :=
  ⟨hs, [], by rw [hn, List.append_nil], fun r hr => by cases hr⟩

theorem refl (k : Console σ) : Asks token k k := quiet rfl rfl

theorem trans (h : Asks token k k') (h' : Asks token k' k'') : Asks token k k'' := by
  obtain ⟨rs, hrs, hauth⟩ := h.sent
  obtain ⟨rs', hrs', hauth'⟩ := h'.sent
  refine ⟨h'.store.trans h.store, rs ++ rs', by rw [hrs', hrs, List.append_assoc], ?_⟩
  intro r hr
  rcases List.mem_append.mp hr with hr | hr
  · exact hauth r hr
  · exact hauth' r hr

theorem note (h : Asks token k k') (e : Event) : Asks token k (k'.note e) := h.trans (quiet rfl rfl)

theorem noteAll (h : Asks token k k') (es : List Event) : Asks token k (k'.noteAll es) :=
  h.trans (quiet (by simp) (by simp))

theorem noteFailure {A : Type} (h : Asks token k k') (log : ServiceError → Event) (r : Except ServiceError A) :
    Asks token k (k'.noteFailure log r) := by
  cases r with
  | error e => exact h.note (log e)
  | ok a => exact h

theorem printLine (h : Asks token k k') (s : String) : Asks token k (k'.printLine s) := h.trans (quiet rfl rfl)

theorem printAside (h : Asks token k k') (s : String) : Asks token k (k'.printAside s) := h.trans (quiet rfl rfl)

theorem printLines (h : Asks token k k') (lines : List String) : Asks token k (printLines k' lines) :=
  h.trans (quiet (by simp) (network_printLines lines k'))

theorem printNotice (h : Asks token k k') (s : Screen) (n : Notice) : Asks token k (printNotice s n k') :=
  h.trans (quiet (store_printNotice s n k') (network_printNotice s n k'))

theorem listing (h : Asks token k k') (s : Screen) (items : List Json) (lines : List String) :
    Asks token k (Listing.print s items lines k') := by
  unfold Listing.print
  cases s.format with
  | json => exact h.printLine _
  | table => exact h.printLines lines

end Asks

/-! ## Calls and views -/

/-- **A call of the service** only asks. -/
theorem Client.asks_call {α : Type} (c : Client) (method path : String) (token : Option Token) (payload : Option Json)
    (decode : Json.Decoder α) (k : Console σ) : Asks token k (c.call method path token payload decode k).2 :=
  ⟨c.store_call method path token payload decode k, _, c.received_call method path token payload decode k,
    fun _ hr => (c.of_mem_sent method path token payload hr).2.1⟩

section Views

variable (c : Client) (token : Option Token) (k : Console σ)

theorem ExpressionsView.asks_refresh (v : ExpressionsView) : Asks token k (v.refresh c token k).2.2 :=
  (c.asks_call _ _ token none _ k).noteAll _

theorem OperationsView.asks_refresh (v : OperationsView) : Asks token k (v.refresh c token k).2.2 :=
  (c.asks_call _ _ token none _ k).noteAll _

theorem AgentsView.asks_refresh (v : AgentsView) : Asks token k (v.refresh c token k).2.2 :=
  (c.asks_call _ _ token none _ k).noteAll _

theorem ExpressionsView.asks_submit (v : ExpressionsView) : Asks token k (v.submit c token k).2.2 := by
  by_cases hinput : v.input = ""
  · rw [submit_empty hinput]
    exact .refl k
  have hcall : Asks token k (c.createExpression token v.input k).2 := c.asks_call _ _ token _ _ k
  cases hcreate : (c.createExpression token v.input k).1 with
  | error e =>
    rw [submit_of_error hinput hcreate]
    exact hcall
  | ok created =>
    rw [submit_of_ok hinput hcreate _ rfl]
    exact ((hcall.note _).trans (asks_refresh c token _ _)).noteFailure _ _

theorem OperationsView.asks_save (v : OperationsView) (operationType : String) :
    Asks token k (v.save c token operationType k).2.2 := by
  cases hrow : (v.row? operationType).filter OperationRow.isDirty with
  | none =>
    rw [save_nothing hrow]
    exact .refl k
  | some row =>
    have hcall : Asks token k (c.updateOperation token operationType row.edited k).2 := c.asks_call _ _ token _ _ k
    cases hupdate : (c.updateOperation token operationType row.edited k).1 with
    | error e =>
      rw [save_of_error hrow hupdate]
      exact hcall
    | ok updated =>
      rw [save_of_ok hrow hupdate _ rfl]
      exact ((hcall.note _).trans (asks_refresh c token _ _)).noteFailure _ _

end Views

/-! ## Visits -/

namespace Visit

variable (s : Screen) (v : Visit) {token : Option Token} {k k' : Console Disk}

theorem asks_reportFailure (h : Asks token k k') (e : ServiceError) : Asks token k (reportFailure s e k').2 := by
  have hnotice := h.printNotice s.asTable (.failure e.message)
  unfold reportFailure
  dsimp only
  by_cases ha : e.isAuth = true
  · rw [if_pos ha]
    exact hnotice.printAside _
  · rw [if_neg ha]
    exact hnotice

theorem asks_headed (h : Asks token k k') : Asks token k (v.headed s k') := by
  unfold headed
  by_cases hf : s.format = .table
  · rw [if_pos hf]
    exact h.printLines _
  · rw [if_neg hf]
    exact h

theorem asks_afterNotice (h : Asks token k k') (n : Notice) {listing : Console Disk → Console Disk}
    (hl : ∀ k', Asks token k k' → Asks token k (listing k')) : Asks token k (afterNotice s n listing k').2 := by
  unfold afterNotice
  dsimp only
  by_cases hn : n.isFailure = true
  · rw [if_pos hn]
    exact h.printNotice s n
  · rw [if_neg hn]
    exact hl _ (h.printNotice s n)

variable (k)

theorem asks_showExpressions : Asks v.session.token k (v.showExpressions s k).2 := by
  have hr := ExpressionsView.asks_refresh v.client v.session.token k (.new v.config.clearInput)
  unfold showExpressions
  generalize (ExpressionsView.new v.config.clearInput).refresh v.client v.session.token k = p at hr ⊢
  obtain ⟨r, view, k₁⟩ := p
  cases r with
  | error e => exact asks_reportFailure s hr e
  | ok a => exact (asks_headed s v hr).listing s _ _

theorem asks_showOperations : Asks v.session.token k (v.showOperations s k).2 := by
  have hr := OperationsView.asks_refresh v.client v.session.token k .new
  unfold showOperations
  generalize OperationsView.new.refresh v.client v.session.token k = p at hr ⊢
  obtain ⟨r, view, k₁⟩ := p
  cases r with
  | error e => exact asks_reportFailure s hr e
  | ok a => exact (asks_headed s v hr).listing s _ _

theorem asks_showAgents : Asks v.session.token k (v.showAgents s k).2 := by
  have hr := AgentsView.asks_refresh v.client v.session.token k .new
  unfold showAgents
  generalize AgentsView.new.refresh v.client v.session.token k = p at hr ⊢
  obtain ⟨r, view, k₁⟩ := p
  cases r with
  | error e => exact asks_reportFailure s hr e
  | ok a => exact (asks_headed s v hr).listing s _ _

theorem asks_showLogin : Asks v.session.token k (v.showLogin s k).2 :=
  ((Asks.refl k).printLines _).printLines _

theorem asks_showActive : Asks v.session.token k (v.showActive s k).2 := by
  unfold showActive
  cases v.router.active with
  | expressions => exact asks_showExpressions s v k
  | operations => exact asks_showOperations s v k
  | agents => exact asks_showAgents s v k
  | login => exact asks_showLogin s v k

theorem asks_submission {view : ExpressionsView} (h : Asks v.session.token k k') :
    Asks v.session.token k (match view.submit v.client v.session.token k' with
      | (none, _, k) => ((.ok .failure, printNotice s (.failure "Enter an expression to calculate") k) :
          Result × Console Disk)
      | (some n, view, k) => afterNotice s n (Listing.expressions s view.rows) k).2 := by
  have hs := h.trans (view.asks_submit v.client v.session.token k')
  generalize view.submit v.client v.session.token k' = p at hs ⊢
  obtain ⟨n, view', k₁⟩ := p
  cases n with
  | none =>
    dsimp only
    exact hs.printNotice s _
  | some n => exact asks_afterNotice s hs n fun k' h => h.listing s _ _

theorem asks_submit (text : String) : Asks v.session.token k (v.submit s text k).2 := by
  have hr := ExpressionsView.asks_refresh v.client v.session.token k (.new v.config.clearInput)
  unfold submit
  generalize (ExpressionsView.new v.config.clearInput).refresh v.client v.session.token k = p at hr ⊢
  obtain ⟨r, view, k₁⟩ := p
  cases r with
  | error e => exact asks_submission s v k (hr.note _)
  | ok a => exact asks_submission s v k hr

theorem asks_setCost (operationType : String) (cost : Nat) :
    Asks v.session.token k (v.setCost s operationType cost k).2 := by
  have hr := OperationsView.asks_refresh v.client v.session.token k .new
  unfold setCost
  generalize OperationsView.new.refresh v.client v.session.token k = p at hr ⊢
  obtain ⟨r, view, k₁⟩ := p
  cases r with
  | error e => exact asks_reportFailure s hr e
  | ok a =>
    dsimp only at hr ⊢
    generalize view.edit operationType cost = q
    obtain ⟨known, view'⟩ := q
    cases known with
    | false =>
      dsimp only
      exact hr.printNotice s _
    | true =>
      have hs := hr.trans (OperationsView.asks_save v.client v.session.token k₁ view' operationType)
      dsimp only
      generalize view'.save v.client v.session.token operationType k₁ = t at hs ⊢
      obtain ⟨n, view'', k₂⟩ := t
      cases n with
      | none => exact asks_afterNotice s hs _ fun k' h => h.listing s _ _
      | some n => exact asks_afterNotice s hs n fun k' h => h.listing s _ _

theorem asks_status : Asks v.session.token k (v.status s k).2 := by
  unfold status
  dsimp only
  generalize hlines : title s "daec Status" ++ _ = lines
  have hc : Asks v.session.token k (v.client.listAgents v.session.token (printLines k lines)).2 :=
    ((Asks.refl k).printLines lines).trans (v.client.asks_call _ _ _ none _ _)
  generalize v.client.listAgents v.session.token (printLines k lines) = p at hc ⊢
  obtain ⟨r, k₁⟩ := p
  cases r with
  | error e => exact hc.printLine _
  | ok agents => exact hc.printLine _

theorem asks_register (c : Credentials) : Asks v.session.token k (v.account s .registration c k).2 := by
  unfold account
  dsimp only
  generalize hform : ((AuthView.new.switchMode .registration).setEmail c.email).setPassword c.password = form
  have hmode : form.mode = .registration := by rw [← hform]; rfl
  have hnext : ∀ (form : AuthView) (k' : Console Disk), Asks v.session.token k k' → Asks v.session.token k
      (if form.mode = .login ∧ AuthMode.registration = .registration then
        k'.printLine ("  " ++ s.paint .faint "Next:" ++ " Log in with `daec login --email " ++ c.email ++ "`")
      else k') := by
    intro form k' h
    split
    · exact h.printLine _
    · exact h
  unfold AuthView.submit
  by_cases hcan : form.canSubmit = true
  · have hc := v.client.asks_call "POST" "/register" v.session.token (some form.credentials.json)
      (Account.decodeRegistration Json.topRoom) k
    rw [if_neg (by rw [hcan]; decide), hmode]
    dsimp only
    unfold Client.register
    generalize v.client.call "POST" "/register" v.session.token (some form.credentials.json)
      (Account.decodeRegistration Json.topRoom) k = p at hc ⊢
    obtain ⟨r, k₁⟩ := p
    cases r with
    | error e => exact asks_afterNotice s.asTable hc _ (hnext form)
    | ok user => exact asks_afterNotice s.asTable (hc.note _) _ (hnext { form with mode := .login })
  · rw [if_pos (by simpa using hcan)]
    dsimp only
    exact (Asks.refl k).printNotice _ _

end Visit
end CalcConsole
