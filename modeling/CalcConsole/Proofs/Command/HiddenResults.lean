import CalcConsole.Proofs.Command.Listings
import CalcConsole.Proofs.Views.HiddenResults
/-! # Hidden results leave no trace

As long as an expression is not ready its result is not the user's business, and the service may send any.  Two runs
about expressions whose answers differ in such results only are one and the same for the user
(`hidden_results_leave_no_trace`): in what is printed, in the log, in the exit code, and in the files that are left
behind. -/
namespace CalcConsole

/-! ## Reports -/

namespace Upshot

/-- What an action comes to, as far as it is shown. -/
def veiled : Upshot → Upshot
  | .listed .expressions message? view => .listed .expressions message? (ExpressionsView.veiled view)
  | u => u

theorem exit_veiled (u : Upshot) : u.veiled.exit = u.exit := by
  cases u with
  | failed message hint => rfl
  | listed w message? view => cases w <;> rfl

theorem listing_veiled (s : Screen) (es : List Expression) :
    ListView.expressions.listing s (es.map Expression.veiled) = ListView.expressions.listing s es := by
  unfold ListView.listing ListView.itemJson ListView.lines
  dsimp only
  rw [ExpressionRow.map_ofExpression_veiled, List.map_map]
  refine congrArg (fun items => Listing.printed s items _) (List.map_congr_left fun e _ => ?_)
  exact congrArg ExpressionRow.json (ExpressionRow.ofExpression_veiled e)

/-- **What is printed** shows nothing of a hidden result. -/
theorem printed_veiled (s : Screen) (v : Visit) (u : Upshot) : u.veiled.printed s v = u.printed s v := by
  cases u with
  | failed message hint => rfl
  | listed w message? view =>
    cases w with
    | expressions => exact congrArg (heading s v message? ++ ·) (listing_veiled s _)
    | _ => rfl

theorem ofNotice_veiled {view view' : ExpressionsView} (h : view'.veiled = view.veiled) (notice : Notice) :
    (ofNotice .expressions view' notice).veiled = (ofNotice .expressions view notice).veiled := by
  cases notice with
  | success message => exact congrArg (listed .expressions (some message)) h
  | failure message => rfl

end Upshot

section Reports

variable (clearInput : ClearInput) {c : Client} {token : Option Token} {q q' : Console Unit}

theorem ListView.report_veiled (hq : q.Rephrases c token [.listExpressions] q') :
    (expressions.report clearInput c token q').1.veiled = (expressions.report clearInput c token q).1.veiled ∧
      (expressions.report clearInput c token q').2.transcript = (expressions.report clearInput c token q).2.transcript := by
  obtain ⟨hresult, hviews, hconsoles⟩ := ExpressionsView.refresh_veiled (v := .new clearInput) rfl hq
  have hsame : ∀ q : Console Unit, expressions.refresh (expressions.fresh clearInput) c token q =
    (ExpressionsView.new clearInput).refresh c token q := fun _ => rfl
  unfold report
  rw [hsame, hsame]
  generalize (ExpressionsView.new clearInput).refresh c token q = p at hresult hviews hconsoles ⊢
  generalize (ExpressionsView.new clearInput).refresh c token q' = p' at hresult hviews hconsoles ⊢
  obtain ⟨r, view, q₁⟩ := p
  obtain ⟨r', view', q₁'⟩ := p'
  cases hresult
  cases r with
  | error e => exact ⟨rfl, hconsoles.transcript⟩
  | ok applied => exact ⟨congrArg (Upshot.listed .expressions none) hviews, hconsoles.transcript⟩

theorem ExpressionsView.submission_veiled {view view' : ExpressionsView} (hv : view'.veiled = view.veiled)
    (hq : q.Rephrases c token [.createExpression view.input, .listExpressions] q') :
    (view'.submission c token q').1.veiled = (view.submission c token q).1.veiled ∧
      (view'.submission c token q').2.transcript = (view.submission c token q).2.transcript := by
  obtain ⟨hnotice, hviews, htranscript⟩ := submit_veiled hv hq
  unfold submission
  generalize view.submit c token q = p at hnotice hviews htranscript ⊢
  generalize view'.submit c token q' = p' at hnotice hviews htranscript ⊢
  obtain ⟨notice?, view₁, q₁⟩ := p
  obtain ⟨notice?', view₁', q₁'⟩ := p'
  cases hnotice
  cases notice? with
  | none => exact ⟨rfl, htranscript⟩
  | some notice => exact ⟨Upshot.ofNotice_veiled hviews notice, htranscript⟩

theorem ExpressionsView.report_veiled (text : String)
    (hq : q.Rephrases c token [.listExpressions, .createExpression text, .listExpressions] q') :
    (report clearInput c token text q').1.veiled = (report clearInput c token text q).1.veiled ∧
      (report clearInput c token text q').2.transcript = (report clearInput c token text q).2.transcript := by
  obtain ⟨hresult, hviews, hconsoles⟩ := refresh_veiled (v := .new clearInput) rfl hq
  unfold report
  generalize (new clearInput).refresh c token q = p at hresult hviews hconsoles ⊢
  generalize (new clearInput).refresh c token q' = p' at hresult hviews hconsoles ⊢
  obtain ⟨r, view, q₁⟩ := p
  obtain ⟨r', view', q₁'⟩ := p'
  cases hresult
  have htyped : veiled { view' with input := text } = veiled { view with input := text } :=
    congrArg (fun x : ExpressionsView => { x with input := text }) hviews
  cases r with
  | error e => exact submission_veiled htyped (hconsoles.note (.submittingWithoutList e.message))
  | ok applied => exact submission_veiled htyped hconsoles

end Reports

def Action.expressionErrands : Action → List Errand
  | .submit text => [.listExpressions, .createExpression text, .listExpressions]
  | _ => [.listExpressions]

/-- **Every action about expressions** reports the same behind the veil, and logs the same. -/
theorem Action.report_veiled {a : Action} {active : ViewName} (h : a.list? active = some .expressions) {n n' : Network}
    (hn : n.Rephrases a.expressionErrands n') (clearInput : ClearInput) (c : Client) (token : Option Token) :
    (a.report clearInput c token .expressions n').1.veiled = (a.report clearInput c token .expressions n).1.veiled ∧
      (a.report clearInput c token .expressions n').2.transcript =
        (a.report clearInput c token .expressions n).2.transcript := by
  have hq : (Console.bare n).Rephrases c token a.expressionErrands (.bare n') := ⟨rfl, .inr hn⟩
  unfold report
  cases a with
  | submit text => exact ExpressionsView.report_veiled clearInput text hq
  | setCost operationType cost => cases h
  | _ => exact ListView.report_veiled clearInput hq

/-! ## Runs -/

/-- A row without a result has a question mark in its place, and `null` in JSON. -/
structure Expression.ShownWithoutResult (s : Screen) (e : Expression) : Prop where
  title : (ExpressionRow.ofExpression e).title = e.data ++ " = ?"
  json : ListView.expressions.itemJson e = .struct [
    ("id", e.id.json),
    ("title", .text (e.data ++ " = ?")),
    ("status", e.status.json),
    ("description", .text e.status.description),
    ("result", .null),
    ("created_at", .text e.createdAt.render)]
  lines : Listing.expressionLines s (.ofExpression e) = [
    "  " ++ e.status.icon.glyph s.colours ++ " " ++ s.paint .strong (e.data ++ " = ?") ++ " " ++
      s.paint .faint ("(" ++ e.status.description ++ ")"),
    "    " ++ s.paint .faint "Created:" ++ " " ++ e.createdAt.display]

theorem Expression.shownWithoutResult {e : Expression} (h : e.isReady = false ∨ e.status ≠ .result) (s : Screen) :
    e.ShownWithoutResult s := by
  have hresult : e.authoritativeResult = none := by
    unfold authoritativeResult
    rw [e.hasResult_eq_false_iff.mpr h, if_neg Bool.false_ne_true]
  have htitle : (ExpressionRow.ofExpression e).title = e.data ++ " = ?" := by
    unfold ExpressionRow.ofExpression
    dsimp only
    rw [hresult, String.append_assoc]
    rfl
  refine ⟨htitle, ?_, ?_⟩
  · show (ExpressionRow.ofExpression e).json = _
    unfold ExpressionRow.json
    rw [htitle]
    show Json.struct [_, _, _, _, ("result", .ofOption .real e.authoritativeResult), _] = _
    rw [hresult]
    rfl
  · unfold Listing.expressionLines
    rw [htitle]
    rfl

namespace Invocation

variable {i : Invocation} {d : Disk} {format : Format} {a : Action}

/-- **Hidden results leave no trace**: two runs about expressions, whose answers differ in nothing but results that are
not shown, print the same, log the same, end alike, and leave the same files.  What is printed is the list that was last
brought, in which every such expression has a question mark for a result. -/
theorem hidden_results_leave_no_trace
    (hspelled : Arguments.request i.surroundings.lookup i.words = .run format (.visit a))
    (hlist : a.list? (i.active d a) = some .expressions) {n n' : Network} (h : n.Rephrases a.expressionErrands n') :
    (i.run d n').1 = (i.run d n).1 ∧
    Transcript.events (i.run d n').2.transcript = Transcript.events (i.run d n).2.transcript ∧
    (i.run d n').2.store = (i.run d n).2.store ∧
    ∀ m : Network, ∃ xs, Converses (i.client d) (i.opened d).token m xs (i.run d m).2.network ∧
      ((i.run d m).1.code = 0 → ∃ (v : Visit) (message? : Option String) (view : ExpressionsView),
        (i.report d m .expressions a).1 = .listed .expressions message? view ∧
        view.expressions = (ListView.expressions.lastBrought xs).getD [] ∧
        (i.run d m).1.out = Transcript.out (Upshot.heading ⟨false, format⟩ v message?) ++
          ListView.expressions.text ⟨false, format⟩ view.expressions ∧
        ∀ e ∈ view.expressions, e.isReady = false ∨ e.status ≠ .result → e.ShownWithoutResult ⟨false, format⟩) := by
  obtain ⟨v, es, hrun⟩ := run_eq_told (d := d) hspelled hlist
  obtain ⟨hveiled, htranscript⟩ := a.report_veiled hlist h (i.config d).clearInput (i.client d) (i.opened d).token
  have hreport : ∀ m, a.report (i.config d).clearInput (i.client d) (i.opened d).token .expressions m =
    i.report d m .expressions a := fun _ => rfl
  rw [hreport, hreport] at hveiled htranscript
  have hsame : (i.run d n').1 = (i.run d n).1 ∧ (i.run d n').2.transcript = (i.run d n).2.transcript ∧
      (i.run d n').2.store = (i.run d n).2.store := by
    rw [hrun n, hrun n']
    generalize i.report d n .expressions a = r at hveiled htranscript ⊢
    generalize i.report d n' .expressions a = r' at hveiled htranscript ⊢
    rcases i.turned d a with ⟨e | _, d'⟩
    · exact ⟨rfl, rfl, rfl⟩
    · have hexit : r'.1.exit = r.1.exit := by rw [← r'.1.exit_veiled, hveiled, r.1.exit_veiled]
      have hprinted : r'.1.printed ⟨false, format⟩ v = r.1.printed ⟨false, format⟩ v := by
        rw [← Upshot.printed_veiled, hveiled, Upshot.printed_veiled]
      have htold : ∀ m, v.told ⟨false, format⟩ ⟨d', m, es.map .event⟩ r' = (.ok r.1.exit,
          ⟨d', r'.2.network, es.map .event ++ r.2.transcript ++ r.1.printed ⟨false, format⟩ v⟩) := by
        intro m
        rw [← hexit, ← htranscript, ← hprinted]
        rfl
      dsimp only
      rw [htold]
      exact ⟨rfl, rfl, rfl⟩
  refine ⟨hsame.1, congrArg Transcript.events hsame.2.1, hsame.2.2, fun m => ?_⟩
  obtain ⟨xs, hconverses, hlisted⟩ := listed_of_run hspelled hlist m
  refine ⟨xs, hconverses, fun hcode => ?_⟩
  obtain ⟨-, v, message?, view, hview, hshown, hout⟩ := hlisted hcode
  exact ⟨v, message?, view, hview, hshown, hout, fun e _ he => e.shownWithoutResult he _⟩

/-! ### An expression that is not ready -/

def expressions : Invocation := atHome ["expressions"]

/-- An expression that has the status of a result, but no mark. -/
def unready (result : List (String × Json)) : Json :=
  .struct ([("id", .text "7"), ("data", .text "2+2"), ("status", .text "result"), ("is_ready", .bool false),
    ("created_at", .text "2024-03-01T10:00:00.5Z")] ++ result)

def listing (v : Json) : Network := ⟨[answered (Json.array [v]).compact], .dropped, []⟩

theorem answered_rephrases {e : Errand} {s s' : String} {v v' : Json} (hs : Json.read s = ⟨v, true⟩)
    (hs' : Json.read s' = ⟨v', true⟩) (h : e.Rephrases v v') : (answered s).Rephrases e (answered s') :=
  .answered ⟨rfl, (by decide : 200 < 400), v, v', (Body.document_toUTF8 s).trans hs, (Body.document_toUTF8 s').trans hs', h⟩

def listed : Upshot → List Expression
  | .listed .expressions _ view => ExpressionsView.expressions view
  | _ => []

/-- The result is 4 for one service, and left out by the other.  Both runs print one row, with a question mark. -/
theorem no_trace_of_unready :
    Arguments.request expressions.surroundings.lookup expressions.words = .run .table (.visit .listExpressions) ∧
    (listing (unready [("result", .nat 4)])).Rephrases [.listExpressions] (listing (unready [])) ∧
    (expressions.run .empty (listing (unready []))).1.code = 0 ∧
    (expressions.run .empty (listing (unready []))).1 =
      (expressions.run .empty (listing (unready [("result", .nat 4)]))).1 ∧
    (expressions.run .empty (listing (unready []))).1.out = "Expressions  Operations  Agents  Login\n\n" ++
      "  ● 2+2 = ? (the expression is ready)\n    Created: 2024-03-01 10:00:00\n" ∧
    ∃ (e : Expression) (v : Visit) (message? : Option String),
      (expressions.run .empty (listing (unready []))).1.out =
        Transcript.out (Upshot.heading ⟨false, .table⟩ v message?) ++ ListView.expressions.text ⟨false, .table⟩ [e] ∧
      e.ShownWithoutResult ⟨false, .table⟩ := by
  have hspelled : Arguments.request expressions.surroundings.lookup expressions.words =
    .run .table (.visit .listExpressions) := by decide +kernel
  have hrephrases : Expression.Rephrases (Json.topRoom - 1) (unready [("result", .nat 4)]) (unready []) := by
    refine ⟨{ Entity.four with isReady := false, agentId := none },
      { Entity.four with isReady := false, agentId := none, result := .zero false },
      Entity.eq_ok_of_toOption (by decide +kernel), Entity.eq_ok_of_toOption (by decide +kernel), .inr ⟨.inl rfl, ?_⟩⟩
    simp [unready, Json.struct, Json.withoutResult]
  have hfour : (Json.nat 4).Legible := Json.legible_nat (by decide)
  have hlegible : (Json.array [unready [("result", .nat 4)]]).Legible := by
    simp [unready, Json.struct, Json.Legible, Json.LegibleItems, Json.LegibleMembers, Json.text, hfour]
  have hlegible' : (Json.array [unready []]).Legible := by
    simp [unready, Json.struct, Json.Legible, Json.LegibleItems, Json.LegibleMembers, Json.text]
  have hnetworks : (listing (unready [("result", .nat 4)])).Rephrases [.listExpressions] (listing (unready [])) := by
    intro k e hk
    match k with
    | 0 =>
      cases hk
      exact answered_rephrases (Json.read_compact hlegible) (Json.read_compact hlegible')
        (.listed (.cons hrephrases .nil))
    | k + 1 => cases hk
  have hcode : (expressions.run .empty (listing (unready []))).1.code = 0 := by decide +kernel
  obtain ⟨hsame, -, -, hlists⟩ := hidden_results_leave_no_trace (d := .empty) hspelled rfl hnetworks
  obtain ⟨xs, -, hlisted⟩ := hlists (listing (unready []))
  obtain ⟨v, message?, view, hview, -, hout, hrows⟩ := hlisted hcode
  have hone : (listed (expressions.report .empty (listing (unready [])) .expressions .listExpressions).1).map
      Expression.isReady = [false] := by decide +kernel
  rw [hview] at hone
  obtain ⟨e, he, hready⟩ := List.map_eq_singleton_iff.mp hone
  change view.expressions = [e] at he
  rw [he] at hout hrows
  exact ⟨hspelled, hnetworks, hcode, hsame, by decide +kernel, e, v, message?, hout, hrows e (.head _) (.inl hready)⟩

end Invocation
end CalcConsole
