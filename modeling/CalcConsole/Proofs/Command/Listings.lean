import CalcConsole.Proofs.Command.Reports
import CalcConsole.Proofs.Json.Written
import CalcConsole.Proofs.Views.Exchanges
/-! # Listings

Whatever the service answers, a run of an action about a list either prints the list of its view, or says on the other
output why it does not.  Where it prints JSON, nothing else is on the output (`json_output_is_the_list`).  The list is
the last one that the service has sent in this run, but for one case: a submission is accepted, and neither of the two
fetches around it has brought a list (`listing_is_last_fetched`). -/
namespace CalcConsole

/-! ## What a report follows -/

theorem ListView.lastBrought_eq_none_iff {w : ListView} {xs : List Exchange} :
    w.lastBrought xs = none ↔ ∀ x ∈ xs, w.brought? x = none := by
  unfold lastBrought
  simp only [List.findSome?_eq_none_iff, List.mem_reverse]

theorem ListView.isSome_lastBrought_append {w : ListView} {xs : List Exchange} (h : (w.lastBrought xs).isSome)
    (ys : List Exchange) : (w.lastBrought (xs ++ ys)).isSome := by
  unfold lastBrought at h ⊢
  rw [List.reverse_append, List.findSome?_append, Option.isSome_or, h, Bool.or_true]

/-- The exchanges of a submission that is accepted between two fetches that bring nothing. -/
inductive Unfetched : Action → List Exchange → Prop
  | submit (text : String) (r r' r'' : Except String Reply)
      (first : (⟨.listExpressions, r⟩ : Exchange).succeeds = false)
      (accepted : (⟨.createExpression text, r'⟩ : Exchange).succeeds = true)
      (second : (⟨.listExpressions, r''⟩ : Exchange).succeeds = false) :
    Unfetched (.submit text) [⟨.listExpressions, r⟩, ⟨.createExpression text, r'⟩, ⟨.listExpressions, r''⟩]

/-- What an action about the list of `w` comes to, by the exchanges from `n` on. -/
structure Tells (c : Client) (token : Option Token) (n : Network) (w : ListView) (a : Action)
    (r : Upshot × Console Unit) (xs : List Exchange) : Prop where
  converses : Converses c token n xs r.2.network
  logged : ∃ es : List Event, r.2.transcript = es.map .event
  upshot : (∃ message hint, r.1 = .failed message hint) ∨ ∃ message? view, r.1 = .listed w message? view ∧
    w.shown view = (w.lastBrought xs).getD [] ∧ ((w.lastBrought xs).isSome ∨ Unfetched a xs)

namespace Tells

variable {c : Client} {token : Option Token} {n : Network} {w : ListView} {a : Action} {xs : List Exchange}
  {view : w.State} {q : Console Unit}

theorem failed (h : w.Follows c token n xs view q) (message : String) (hint : Bool) :
    Tells c token n w a (.failed message hint, q) xs :=
  ⟨h.converses, h.logged, .inl ⟨message, hint, rfl⟩⟩

theorem listed (h : w.Follows c token n xs view q) (message? : Option String)
    (hbrought : (w.lastBrought xs).isSome ∨ Unfetched a xs) :
    Tells c token n w a (.listed w message? view, q) xs :=
  ⟨h.converses, h.logged, .inr ⟨message?, view, rfl, h.shown, hbrought⟩⟩

theorem ofNotice (h : w.Follows c token n xs view q) (notice : Notice)
    (hbrought : notice.isFailure = false → (w.lastBrought xs).isSome ∨ Unfetched a xs) :
    Tells c token n w a (.ofNotice w view notice, q) xs := by
  cases notice with
  | success message => exact listed h (some message) (hbrought rfl)
  | failure message => exact failed h message false

theorem of_listed {r : Upshot × Console Unit} (h : Tells c token n w a r xs) {message? : Option String}
    (hview : r.1 = .listed w message? view) :
    w.shown view = (w.lastBrought xs).getD [] ∧ ((w.lastBrought xs).isSome ∨ Unfetched a xs) := by
  rcases h.upshot with ⟨message, hint, hfailed⟩ | ⟨message?', view', hlisted, hshown, hbrought⟩
  · rw [hview] at hfailed
    cases hfailed
  · rw [hview] at hlisted
    cases hlisted
    exact ⟨hshown, hbrought⟩

variable (clearInput : ClearInput) (c token n w a)

theorem first_refresh : ∃ reply,
    w.Follows c token n [⟨w.errand, reply⟩] (w.refresh (w.fresh clearInput) c token (.bare n)).2.1
      (w.refresh (w.fresh clearInput) c token (.bare n)).2.2 ∧
    (w.refresh (w.fresh clearInput) c token (.bare n)).1.isOk = (w.lastBrought [⟨w.errand, reply⟩]).isSome := by
  obtain ⟨hfollows, hok⟩ := (ListView.Follows.fresh w clearInput c token n).refresh
  exact ⟨w.errand.reply c token n, hfollows, hok.trans (congrArg Option.isSome (w.lastBrought_singleton _).symm)⟩

theorem report : ∃ xs, Tells c token n w a (w.report clearInput c token (.bare n)) xs := by
  obtain ⟨reply, hfollows, hok⟩ := first_refresh c token n w clearInput
  refine ⟨[⟨w.errand, reply⟩], ?_⟩
  unfold ListView.report
  generalize w.refresh (w.fresh clearInput) c token (.bare n) = p at hfollows hok ⊢
  obtain ⟨r, view, q⟩ := p
  cases r with
  | error e => exact failed hfollows e.message e.isAuth
  | ok applied => exact listed hfollows none (.inl hok.symm)

/-- **A submission** after a first fetch: if neither that nor the second fetch brings a list, an empty one is shown. -/
theorem submitted {view : ExpressionsView} {reply : Except String Reply}
    (h : ListView.expressions.Follows c token n [⟨.listExpressions, reply⟩] view q) : ∃ xs,
    Tells c token n .expressions (.submit view.input) (view.submission c token q) xs := by
  obtain ⟨ys, hchanges, hfollows⟩ := ExpressionsView.follows_submit h
  unfold ExpressionsView.submission
  generalize view.submit c token q = p at hchanges hfollows ⊢
  obtain ⟨notice?, view', q'⟩ := p
  refine ⟨[⟨.listExpressions, reply⟩] ++ ys, ?_⟩
  dsimp only at hchanges
  cases hchanges with
  | idle => exact failed hfollows _ false
  | failed message reply' fails => exact ofNotice hfollows _ fun hs => (by cases hs)
  | made message reply' reply'' accepted =>
    refine ofNotice hfollows _ fun _ => ?_
    rcases hlast : ListView.expressions.lastBrought ([⟨.listExpressions, reply⟩] ++
      [⟨.createExpression view.input, reply'⟩, ⟨.listExpressions, reply''⟩]) with _ | items
    · rw [ListView.lastBrought_eq_none_iff] at hlast
      have hfails : ∀ r, ListView.expressions.brought? ⟨.listExpressions, r⟩ = none →
          (⟨.listExpressions, r⟩ : Exchange).succeeds = false := by
        intro r hr
        refine (ListView.expressions.isSome_brought? r).symm.trans ?_
        exact congrArg Option.isSome hr
      exact .inr (.submit view.input reply reply' reply'' (hfails reply (hlast _ (.head _))) accepted
        (hfails reply'' (hlast _ (.tail _ (.tail _ (.head _))))))
    · exact .inl (by rw [hlast]; rfl)

theorem submission (text : String) : ∃ xs,
    Tells c token n .expressions (.submit text) (ExpressionsView.report clearInput c token text (.bare n)) xs := by
  obtain ⟨reply, hfollows, -⟩ := first_refresh c token n .expressions clearInput
  have hsame : ListView.expressions.refresh (ListView.expressions.fresh clearInput) c token (.bare n) =
    (ExpressionsView.new clearInput).refresh c token (.bare n) := rfl
  rw [hsame] at hfollows
  unfold ExpressionsView.report
  generalize (ExpressionsView.new clearInput).refresh c token (.bare n) = p at hfollows ⊢
  obtain ⟨r, view, q⟩ := p
  have htyped := hfollows.view { view with input := text } rfl
  cases r with
  | error e => exact submitted c token n (htyped.note (.submittingWithoutList e.message))
  | ok applied => exact submitted c token n htyped

/-- **A new cost** shows a list that was brought: without one nothing is changed. -/
theorem revision (operationType : String) (cost : Nat) : ∃ xs, Tells c token n .operations (.setCost operationType cost)
    (OperationsView.report c token operationType cost (.bare n)) xs := by
  obtain ⟨reply, hfollows, hok⟩ := first_refresh c token n .operations .always
  have hsame : ListView.operations.refresh (ListView.operations.fresh .always) c token (.bare n) =
    OperationsView.new.refresh c token (.bare n) := rfl
  rw [hsame] at hfollows hok
  unfold OperationsView.report
  generalize OperationsView.new.refresh c token (.bare n) = p at hfollows hok ⊢
  obtain ⟨r, view, q⟩ := p
  cases r with
  | error e => exact ⟨_, failed hfollows e.message e.isAuth⟩
  | ok applied =>
    have hbrought : ∀ ys, (ListView.operations.lastBrought ([⟨.listOperations, reply⟩] ++ ys)).isSome :=
      ListView.isSome_lastBrought_append hok.symm
    have hedited := hfollows.view _ (ListView.operations.shown_touch view (operationType, cost))
    have htouched : ListView.operations.touch (operationType, cost) view = (view.edit operationType cost).2 := rfl
    rw [htouched] at hedited
    dsimp only
    generalize view.edit operationType cost = edited at hedited ⊢
    obtain ⟨known, view'⟩ := edited
    cases known with
    | false => exact ⟨_, failed hedited _ false⟩
    | true =>
      obtain ⟨saved, ys, hchanges, hsaved⟩ := OperationsView.follows_save hedited operationType
      dsimp only at hchanges hsaved ⊢
      generalize view'.save c token operationType q = p at hchanges hsaved ⊢
      obtain ⟨notice?, view'', q'⟩ := p
      refine ⟨[⟨.listOperations, reply⟩] ++ ys, ?_⟩
      cases notice? with
      | none => exact ofNotice hsaved _ fun _ => .inl (hbrought ys)
      | some notice => exact ofNotice hsaved notice fun _ => .inl (hbrought ys)

end Tells

/-- **Every action about a list** tells what its exchanges have brought. -/
theorem Action.report_tells {a : Action} {active : ViewName} {w : ListView} (h : a.list? active = some w)
    (clearInput : ClearInput) (c : Client) (token : Option Token) (n : Network) :
    ∃ xs, Tells c token n w a (a.report clearInput c token w n) xs := by
  cases a with
  | submit text =>
    cases h
    exact Tells.submission c token n clearInput text
  | setCost operationType cost =>
    cases h
    exact Tells.revision c token n operationType cost
  | _ => exact Tells.report c token n w _ clearInput

/-! ## What is printed -/

namespace Transcript

theorem out_append (t t' : List Printed) : out (t ++ t') = out t ++ out t' := by
  unfold out
  rw [List.filterMap_append, String.join_append]

theorem errWith_append (shown : Event → Bool) (t t' : List Printed) :
    errWith shown (t ++ t') = errWith shown t ++ errWith shown t' := by
  unfold errWith
  rw [List.filterMap_append, String.join_append]

theorem out_events (es : List Event) : out (es.map .event) = "" := by
  induction es with
  | nil => rfl
  | cons e es ih => exact ih

theorem events_append (t t' : List Printed) : events (t ++ t') = events t ++ events t' := List.filterMap_append

theorem events_events (es : List Event) : events (es.map .event) = es := by
  induction es with
  | nil => rfl
  | cons e es ih => exact congrArg (e :: ·) ih

theorem events_eq_nil {t : List Printed} (h : ∀ e, .event e ∉ t) : events t = [] := by
  refine List.filterMap_eq_nil_iff.mpr fun p hp => ?_
  cases p with
  | event e => exact absurd hp (h e)
  | out s => rfl
  | err s => rfl

theorem out_lines (lines : List String) : out (printedLines lines) = String.join (lines.map (· ++ "\n")) := by
  induction lines with
  | nil => rfl
  | cons l lines ih =>
    show out ([.out (l ++ "\n")] ++ printedLines lines) = _
    rw [out_append, ih, List.map_cons, String.join_cons]
    exact congrArg (· ++ _) String.empty_append

theorem err_append (t t' : List Printed) : err (t ++ t') = err t ++ err t' := by
  unfold err
  rw [List.filterMap_append, String.join_append]

theorem err_lines (lines : List String) : err (printedLines lines) = "" := by
  induction lines with
  | nil => rfl
  | cons l lines ih => exact ih

theorem errWith_eq_err (shown : Event → Bool) {t : List Printed} (h : ∀ e, .event e ∉ t) : errWith shown t = err t := by
  unfold errWith err
  refine congrArg String.join (List.filterMap_congr fun p hp => ?_)
  cases p with
  | event e => exact absurd hp (h e)
  | out s => rfl
  | err s => rfl

end Transcript

def ListView.text (s : Screen) (w : ListView) (items : List w.Item) : String :=
  match s.format with
  | .json => (Json.array (items.map w.itemJson)).pretty ++ "\n"
  | .table => String.join ((w.lines s items).map (· ++ "\n"))

theorem ListView.out_listing (s : Screen) (w : ListView) (items : List w.Item) :
    Transcript.out (w.listing s items) = w.text s items := by
  unfold listing text Listing.printed
  cases s.format with
  | json => exact String.empty_append
  | table => exact Transcript.out_lines _

theorem ListView.err_listing (s : Screen) (w : ListView) (items : List w.Item) :
    Transcript.err (w.listing s items) = "" := by
  unfold listing Listing.printed
  cases s.format with
  | json => rfl
  | table => exact Transcript.err_lines _

namespace Upshot

/-- The screen of a run, which has no colours. -/
abbrev screen (format : Format) : Screen := ⟨false, format⟩

/-- What goes beside the output in JSON. -/
def aside : Upshot → String
  | .failed message hint => "✗ " ++ message ++ "\n" ++ if hint then hintLine (screen .json) ++ "\n" else ""
  | .listed _ (some message) _ => "✓ " ++ message ++ "\n"
  | .listed _ none _ => ""

variable (v : Visit) (u : Upshot)

theorem out_heading_json (message? : Option String) : Transcript.out (heading (screen .json) v message?) = "" := by
  cases message? <;> rfl

theorem err_json : Transcript.err (u.printed (screen .json) v) = u.aside := by
  cases u with
  | failed message hint =>
    cases hint with
    | false => exact String.empty_append.trans String.append_empty.symm
    | true =>
      show "" ++ ("✗ " ++ message ++ "\n") ++ (hintLine (screen .json) ++ "\n") = _
      rw [String.empty_append]
      rfl
  | listed w message? view =>
    show Transcript.err (heading (screen .json) v message? ++ w.listing (screen .json) (w.shown view)) = _
    rw [Transcript.err_append, w.err_listing, String.append_empty]
    cases message? with
    | none => rfl
    | some message => exact String.empty_append

/-- In either format the list is the last thing on the output, and a failure leaves that empty. -/
theorem out_eq (s : Screen) : Transcript.out (u.printed s v) =
    match u with
    | .failed .. => ""
    | .listed w message? view => Transcript.out (heading s v message?) ++ w.text s (w.shown view) := by
  cases u with
  | failed message hint => cases hint <;> rfl
  | listed w message? view =>
    show Transcript.out (heading s v message? ++ w.listing s (w.shown view)) = _
    rw [Transcript.out_append, w.out_listing]

theorem event_notMem_printed (s : Screen) (e : Event) : .event e ∉ u.printed s v := by
  have hlines : ∀ lines, .event e ∉ printedLines lines := by
    intro lines h
    obtain ⟨l, -, hl⟩ := List.mem_map.mp h
    cases hl
  have hnotice : ∀ notice : Notice, .event e ≠ notice.printed s := by
    intro notice h
    cases notice with
    | success message =>
      unfold Notice.printed at h
      dsimp only at h
      split at h <;> cases h
    | failure message => cases h
  cases u with
  | failed message hint =>
    intro h
    rcases List.mem_cons.mp h with h | h
    · exact hnotice _ h
    · cases hint with
      | false => cases h
      | true => cases List.mem_singleton.mp h
  | listed w message? view =>
    intro h
    rcases List.mem_append.mp h with h | h
    · cases message? with
      | some message => exact hnotice _ (List.mem_singleton.mp h)
      | none =>
        unfold heading at h
        dsimp only at h
        split at h
        · exact hlines _ h
        · cases h
    · unfold ListView.listing Listing.printed at h
      cases hs : s.format with
      | json =>
        rw [hs] at h
        cases List.mem_singleton.mp h
      | table =>
        rw [hs] at h
        exact hlines _ h

end Upshot

/-! ## What is read back -/

namespace ListView

/-- An item is printed as a flat object, without a number that is out of every range. -/
theorem storable_itemJson (w : ListView) (x : w.Item) : (w.itemJson x).storable 2 = true := by
  cases w with
  | expressions =>
    show (ExpressionRow.ofExpression x).json.storable 2 = true
    generalize ExpressionRow.ofExpression x = r
    obtain ⟨id, title, status, description, icon, result, createdAt⟩ := r
    cases result <;> rfl
  | operations =>
    obtain ⟨id, operationType, executionTime, userId⟩ := x
    cases userId <;> rfl
  | agents => rfl

/-- **The text of a list** in JSON reads as an array with one item for each of the list. -/
theorem read_text (w : ListView) (items : List w.Item) : ∃ vs,
    Json.read ((Json.array (items.map w.itemJson)).pretty ++ "\n") = ⟨.array vs, true⟩ ∧ vs.length = items.length := by
  have hstorable : ∀ l : List w.Item, Json.storableItems 2 (l.map w.itemJson) = true := by
    intro l
    induction l with
    | nil => rfl
    | cons x l ih => rw [List.map_cons, Json.storableItems, w.storable_itemJson, ih]; rfl
  obtain ⟨vs, hspells, hlength⟩ := Json.exists_spells_prettyArray 0 (hstorable items)
  refine ⟨vs, Json.read_line ?_, hlength.trans (List.length_map _)⟩
  rw [Json.pretty, String.toList_ofList]
  exact hspells

theorem readReply_of_brought? {w : ListView} {x : Exchange} {items : List w.Item} (h : w.brought? x = some items) :
    ∃ r, x = ⟨w.errand, .ok r⟩ ∧ Client.readReply (Json.decodeList w.decodeItem) r = .ok items := by
  obtain ⟨errand, reply⟩ := x
  cases reply with
  | error detail =>
    rw [w.brought?_of_error] at h
    cases h
  | ok r =>
    have herrand : errand = w.errand := by
      cases w <;> cases errand <;> first | rfl | cases h
    subst herrand
    rw [w.brought?_of_ok] at h
    cases hr : Client.readReply (Json.decodeList w.decodeItem) r with
    | error e =>
      rw [hr] at h
      cases h
    | ok l =>
      rw [hr] at h
      exact ⟨r, rfl, hr.trans (congrArg Except.ok (Option.some.inj h))⟩

theorem decoded_of_lastBrought {w : ListView} {xs : List Exchange} {x : w.Item} (h : x ∈ (w.lastBrought xs).getD []) :
    ∃ v, w.decodeItem v = .ok x := by
  cases hlast : w.lastBrought xs with
  | none =>
    rw [hlast] at h
    cases h
  | some items =>
    rw [hlast] at h
    obtain ⟨exchange, -, hbrought⟩ := List.exists_of_findSome?_eq_some hlast
    obtain ⟨r, -, hread⟩ := readReply_of_brought? hbrought
    obtain ⟨-, hvalue⟩ := Json.ofDocument_eq_ok_iff.mp (Client.readReply_eq_ok_iff.mp hread).2
    obtain ⟨vs, -, hvs⟩ := Json.decodeList_eq_ok hvalue
    exact Json.decoded_of_mem_items hvs h

/-- **Operations read back**: from the text of operations that were decoded the service would learn the same ones. -/
theorem decode_operations_text {os : List Operation} (h : ∀ o ∈ os, ∃ v, operations.decodeItem v = .ok o) :
    Json.ofText Client.decodeOperations ((Json.array (os.map Operation.json)).pretty ++ "\n") = .ok os := by
  have hbound : ∀ o ∈ os, o.executionTime < twoTo 64 := by
    intro o ho
    obtain ⟨v, hv⟩ := h o ho
    exact Operation.lt_of_decode hv
  have hlegible : (Json.array (os.map Operation.json)).Legible := by
    rw [Json.Legible]
    exact Json.legibleItems_map fun o ho => Operation.legible_json (hbound o ho)
  have hdecode : Client.decodeOperations (.array (os.map Operation.json)) = .ok os :=
    Json.decodeItems_map fun o ho => Operation.decode_json (hbound o ho) _
  refine Json.ofText_of_read (Json.read_line ?_) hdecode
  rw [Json.pretty, String.toList_ofList]
  exact Json.spells_pretty 0 _ hlegible

end ListView

/-! ## Runs -/

namespace Invocation

variable (i : Invocation) (d : Disk)

def log (n : Network) : String :=
  Transcript.errWith (LogFilter.choose (i.surroundings.lookup Program.filterVariable) (i.config d).logLevel).shows
    ((Transcript.events (i.run d n).2.transcript).map .event)

variable {i d} {format : Format} {a : Action} {w : ListView}

theorem report_tells (hlist : a.list? (i.active d a) = some w) (n : Network) :
    ∃ xs, Tells (i.client d) (i.opened d).token n w a (i.report d n w a) xs :=
  a.report_tells hlist (i.config d).clearInput (i.client d) (i.opened d).token n

/-- **How a run of an action about a list ends**: it could not save its page, or it prints its report.  The log stands
before all else that goes beside the output. -/
theorem ends (hspelled : Arguments.request i.surroundings.lookup i.words = .run format (.visit a))
    (hlist : a.list? (i.active d a) = some w) (n : Network) :
    (∃ e, (i.turned d a).1 = .error e ∧ (i.run d n).2.network = n ∧
      (i.run d n).1 = ⟨1, "", i.log d n ++ ("Error: " ++ (CommandError.recordView e).report ++ "\n")⟩) ∨
    ∃ v : Visit, (i.turned d a).1 = .ok () ∧
      (i.run d n).2.network = (i.report d n w a).2.network ∧
      (i.run d n).1 = ⟨(i.report d n w a).1.exit.code,
        Transcript.out ((i.report d n w a).1.printed ⟨false, format⟩ v),
        i.log d n ++ Transcript.err ((i.report d n w a).1.printed ⟨false, format⟩ v)⟩ := by
  obtain ⟨v, es, hrun⟩ := run_eq_told (d := d) hspelled hlist
  obtain ⟨xs, htells⟩ := report_tells hlist n
  obtain ⟨es', hlogged⟩ := htells.logged
  specialize hrun n
  unfold log
  rcases hturned : i.turned d a with ⟨e | _, d'⟩
  · rw [hturned] at hrun
    refine .inl ⟨e, rfl, by rw [hrun]; rfl, ?_⟩
    rw [hrun]
    show (⟨1, Transcript.out (es.map .event), Transcript.errWith _ (es.map .event) ++ "Error: " ++ _ ++ "\n"⟩ :
      Program.Ending) = ⟨_, _, Transcript.errWith _ ((Transcript.events (es.map .event)).map .event) ++ _⟩
    rw [Transcript.out_events, Transcript.events_events, String.append_assoc, String.append_assoc, String.append_assoc]
  · rw [hturned] at hrun
    refine .inr ⟨v, rfl, by rw [hrun]; rfl, ?_⟩
    rw [hrun]
    generalize i.report d n w a = r at hlogged ⊢
    have hquiet := r.1.event_notMem_printed v ⟨false, format⟩
    have htranscript : es.map .event ++ r.2.transcript ++ r.1.printed ⟨false, format⟩ v =
        (es ++ es').map .event ++ r.1.printed ⟨false, format⟩ v := by rw [hlogged, List.map_append]
    show (⟨r.1.exit.code, Transcript.out (es.map .event ++ r.2.transcript ++ r.1.printed ⟨false, format⟩ v),
      Transcript.errWith _ (es.map .event ++ r.2.transcript ++ r.1.printed ⟨false, format⟩ v)⟩ : Program.Ending) =
      ⟨_, _, Transcript.errWith _ ((Transcript.events
        (es.map .event ++ r.2.transcript ++ r.1.printed ⟨false, format⟩ v)).map .event) ++ _⟩
    rw [htranscript, Transcript.out_append, Transcript.errWith_append, Transcript.events_append, Transcript.out_events,
      Transcript.events_events, Transcript.events_eq_nil hquiet, Transcript.errWith_eq_err _ hquiet,
      String.empty_append, List.append_nil]

/-- **What is on the output**: the list that the run comes to, under its heading, or nothing. -/
theorem out_of_run (hspelled : Arguments.request i.surroundings.lookup i.words = .run format (.visit a))
    (hlist : a.list? (i.active d a) = some w) (n : Network) :
    ((i.run d n).1.code ≠ 0 → (i.run d n).1.out = "") ∧
    ((i.run d n).1.code = 0 → ∃ v message? view, (i.report d n w a).1 = .listed w message? view ∧ (i.run d n).1.out =
      Transcript.out (Upshot.heading ⟨false, format⟩ v message?) ++ w.text ⟨false, format⟩ (w.shown view)) := by
  obtain ⟨xs, htells⟩ := report_tells hlist n
  have hupshot := htells.upshot
  rcases ends hspelled hlist n with ⟨e, -, -, hrun⟩ | ⟨v, -, -, hrun⟩
  · rw [hrun]
    exact ⟨fun _ => rfl, fun h => absurd h Nat.one_ne_zero⟩
  rw [hrun]
  rcases hupshot with ⟨message, hint, hfailed⟩ | ⟨message?, view, hlisted, -⟩
  · rw [hfailed]
    exact ⟨fun _ => Upshot.out_eq v _ _, fun h => absurd h Nat.one_ne_zero⟩
  · rw [hlisted]
    exact ⟨fun h => absurd rfl h, fun _ => ⟨v, message?, view, rfl, Upshot.out_eq v _ _⟩⟩

/-- **JSON on the output is the list**: a run that succeeds prints one array and nothing else, with one item for each
of the list that its view then holds, and for operations it reads back as that list.  A run that fails prints nothing.
All else, the log and what the user is told, goes beside the output. -/
theorem json_output_is_the_list
    (hspelled : Arguments.request i.surroundings.lookup i.words = .run .json (.visit a))
    (hlist : a.list? (i.active d a) = some w) (n : Network) :
    ((i.run d n).1.code ≠ 0 → (i.run d n).1.out = "") ∧
    ((i.run d n).1.code = 0 → ∃ message? view, (i.report d n w a).1 = .listed w message? view ∧
      (i.run d n).1.out = (Json.array ((w.shown view).map w.itemJson)).pretty ++ "\n" ∧
      (∃ vs, Json.read (i.run d n).1.out = ⟨.array vs, true⟩ ∧ vs.length = (w.shown view).length) ∧
      ∀ v : OperationsView, (i.report d n w a).1 = .listed .operations message? v →
        Json.ofText Client.decodeOperations (i.run d n).1.out = .ok (v.rows.map (·.operation))) ∧
    (i.run d n).1.err = i.log d n ++ match (i.turned d a).1 with
      | .error e => "Error: " ++ (CommandError.recordView e).report ++ "\n"
      | .ok () => (i.report d n w a).1.aside := by
  obtain ⟨hsilent, hlisted⟩ := out_of_run hspelled hlist n
  refine ⟨hsilent, fun h => ?_, ?_⟩
  · obtain ⟨v, message?, view, hview, hout⟩ := hlisted h
    rw [Upshot.out_heading_json, String.empty_append] at hout
    have htext : (i.run d n).1.out = (Json.array ((w.shown view).map w.itemJson)).pretty ++ "\n" := hout
    rw [htext]
    refine ⟨message?, view, hview, rfl, w.read_text _, fun v' hv' => ?_⟩
    -- the operations that are shown were decoded from the last answer
    obtain ⟨xs, htells⟩ := report_tells hlist n
    obtain ⟨hshown, -⟩ := htells.of_listed hview
    rw [hview] at hv'
    cases hv'
    exact ListView.decode_operations_text fun o ho => ListView.decoded_of_lastBrought (hshown ▸ ho)
  · rcases ends hspelled hlist n with ⟨e, hturned, -, hrun⟩ | ⟨v, hturned, -, hrun⟩
    · rw [hrun, hturned]
    · rw [hrun, hturned, Upshot.err_json]

def setPlusInJson : Invocation := atHome ["--format", "json", "operations", "set", "+", "5"]

theorem request_setPlusInJson : Arguments.request setPlusInJson.surroundings.lookup setPlusInJson.words =
    .run .json (.visit (.setCost "+" 5)) := by decide +kernel

theorem code_setPlusInJson : (setPlusInJson.run .empty taking).1.code = 0 := by decide +kernel

/-- The list cannot be fetched again after the change, and so it is printed as it was. -/
theorem json_output_of_setPlus :
    Arguments.request setPlusInJson.surroundings.lookup setPlusInJson.words = .run .json (.visit (.setCost "+" 5)) ∧
    (setPlusInJson.run .empty taking).1.code = 0 ∧
    Json.ofText Client.decodeOperations (setPlusInJson.run .empty taking).1.out = .ok [⟨⟨"1"⟩, "+", 3, none⟩] ∧
    (setPlusInJson.run .empty taking).1.err = setPlusInJson.log .empty taking ++ "✓ + now takes 5s\n" := by
  have hrow : (Json.ofText Client.decodeOperations (setPlusInJson.run .empty taking).1.out).toOption =
      some [⟨⟨"1"⟩, "+", 3, none⟩] := by decide +kernel
  obtain ⟨-, hout, herr⟩ := json_output_is_the_list (d := .empty) (w := .operations) request_setPlusInJson rfl taking
  obtain ⟨message?, view, hlisted, -, -, hdecode⟩ := hout code_setPlusInJson
  have hrows := hdecode view hlisted
  rw [hrows] at hrow
  have hturned : (setPlusInJson.turned .empty (.setCost "+" 5)).1 = .ok () := rfl
  have htold : (setPlusInJson.report .empty taking .operations (.setCost "+" 5)).1.aside = "✓ + now takes 5s\n" := by
    decide +kernel
  rw [hturned] at herr
  dsimp only at herr
  rw [htold] at herr
  exact ⟨request_setPlusInJson, code_setPlusInJson, hrows.trans (congrArg Except.ok (Option.some.inj hrow)), herr⟩

theorem listed_of_run (hspelled : Arguments.request i.surroundings.lookup i.words = .run format (.visit a))
    (hlist : a.list? (i.active d a) = some w) (n : Network) :
    ∃ xs, Converses (i.client d) (i.opened d).token n xs (i.run d n).2.network ∧
      ((i.run d n).1.code = 0 → ((w.lastBrought xs).isSome ∨ Unfetched a xs) ∧
        ∃ v message? view, (i.report d n w a).1 = .listed w message? view ∧
          w.shown view = (w.lastBrought xs).getD [] ∧ (i.run d n).1.out =
            Transcript.out (Upshot.heading ⟨false, format⟩ v message?) ++ w.text ⟨false, format⟩ (w.shown view)) := by
  obtain ⟨xs, htells⟩ := report_tells hlist n
  obtain ⟨-, hlisted⟩ := out_of_run hspelled hlist n
  rcases ends hspelled hlist n with ⟨e, -, hnetwork, hrun⟩ | ⟨v, -, hnetwork, hrun⟩
  · rw [hnetwork]
    refine ⟨[], .start, fun h => ?_⟩
    rw [hrun] at h
    exact absurd h Nat.one_ne_zero
  · rw [hnetwork]
    refine ⟨xs, htells.converses, fun h => ?_⟩
    obtain ⟨v, message?, view, hview, hout⟩ := hlisted h
    obtain ⟨hshown, hbrought⟩ := htells.of_listed hview
    exact ⟨hbrought, v, message?, view, hview, hshown, hout⟩

/-- **A listing is the last list that was fetched**: it stands behind the notice or the header, and holds what the last
exchange for the list has brought.  Only a submission that is accepted between two fetches that bring nothing lists
without a fetch behind it, and then shows an empty list. -/
theorem listing_is_last_fetched
    (hspelled : Arguments.request i.surroundings.lookup i.words = .run format (.visit a))
    (hlist : a.list? (i.active d a) = some w) (n : Network) :
    ∃ xs, Converses (i.client d) (i.opened d).token n xs (i.run d n).2.network ∧
      ((i.run d n).1.code ≠ 0 → (i.run d n).1.out = "") ∧
      ((i.run d n).1.code = 0 → ((w.lastBrought xs).isSome ∨ Unfetched a xs) ∧ ∃ v message?, (i.run d n).1.out =
        Transcript.out (Upshot.heading ⟨false, format⟩ v message?) ++
          w.text ⟨false, format⟩ ((w.lastBrought xs).getD [])) := by
  obtain ⟨xs, hconverses, hlisted⟩ := listed_of_run hspelled hlist n
  refine ⟨xs, hconverses, (out_of_run hspelled hlist n).1, fun h => ?_⟩
  obtain ⟨hbrought, v, message?, view, -, hshown, hout⟩ := hlisted h
  rw [hshown] at hout
  exact ⟨hbrought, v, message?, hout⟩

/-! ### A submission without a list -/

def submitSum (format : String) : Invocation := atHome ["--format", format, "expressions", "submit", "2+2"]

/-- A service that takes the expression, and drops the connections on which the list is asked for. -/
def taciturn : Network where
  script := [.dropped, answered ("\x7b\"id\": 1, \"data\": \"2+2\", \"status\": \"computing\", \"is_ready\": false, " ++
    "\"created_at\": \"2024-03-01T10:00:00Z\"\x7d")]
  afterwards := .dropped
  received := []

/-- The list of operations was fetched before the change, and the empty list of a submission is shown without a fetch
behind it. -/
theorem listing_of_submitSum :
    (∃ xs items, Converses (setPlusInJson.client .empty) none taking xs (setPlusInJson.run .empty taking).2.network ∧
      ListView.operations.lastBrought xs = some items ∧
      (setPlusInJson.run .empty taking).1.out = ListView.operations.text ⟨false, .json⟩ items) ∧
    ∃ xs, Converses ((submitSum "table").client .empty) none taciturn xs
        ((submitSum "table").run .empty taciturn).2.network ∧
      ((ListView.expressions.lastBrought xs).isSome ∨ Unfetched (.submit "2+2") xs) := by
  constructor
  · obtain ⟨xs, hconverses, -, hlisted⟩ :=
      listing_is_last_fetched (d := .empty) (w := .operations) request_setPlusInJson rfl taking
    obtain ⟨hsome | hunfetched, v, message?, hout⟩ := hlisted code_setPlusInJson
    · obtain ⟨items, hitems⟩ := Option.isSome_iff_exists.mp hsome
      rw [hitems, Upshot.out_heading_json, String.empty_append] at hout
      exact ⟨xs, items, hconverses, hitems, hout⟩
    · cases hunfetched
  have hspelled : Arguments.request (submitSum "table").surroundings.lookup (submitSum "table").words =
    .run .table (.visit (.submit "2+2")) := by decide +kernel
  obtain ⟨xs, hconverses, -, hlisted⟩ :=
    listing_is_last_fetched (d := .empty) (w := .expressions) hspelled rfl taciturn
  exact ⟨xs, hconverses, (hlisted (by decide +kernel)).1⟩

/-- **No list was fetched**, and yet one is printed, in both formats: no outcome brings a list. -/
theorem listing_without_fetch :
    (∀ k, (taciturn.outcome k).value? Client.decodeExpressions = none) ∧
    (((submitSum "table").run .empty taciturn).1.code = 0 ∧ ((submitSum "table").run .empty taciturn).1.out =
      "✓ Expression accepted: 2+2\nNo expressions yet. Submit one with `daec expressions submit`.\n") ∧
    ((submitSum "json").run .empty taciturn).1.code = 0 ∧ ((submitSum "json").run .empty taciturn).1.out = "[]\n" := by
  refine ⟨fun k => ?_, by decide +kernel, by decide +kernel⟩
  match k with
  | 0 => rfl
  | 1 => decide +kernel
  | k + 2 => rfl

end Invocation

end CalcConsole
