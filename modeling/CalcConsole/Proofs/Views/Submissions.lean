import CalcConsole.Proofs.Service.Conversation
import CalcConsole.Proofs.Views.Notices
/-! # A submission from end to end

What becomes of a submission is settled by its two answers.  The first says whether the expression was accepted, and so
what the user is told and whether the line goes; the second, which is only asked for after a success, says whether the
list is replaced, and nothing else (`submission_by_its_answers`). -/
namespace CalcConsole

variable {σ : Type}

namespace ExpressionsView

variable (v : ExpressionsView) (c : Client) (token : Option Token) (k : Console σ)

def awaiting : ExpressionsView :=
  { v with input := "", tickets := { v.tickets with issued := v.tickets.issued + 1 } }

variable {v c token k} in
theorem submit_accepted (hinput : v.input ≠ "") {e : Expression}
    (he : (Errand.createExpression v.input).Earns c token k.network (Expression.decode Json.topRoom) e) :
    (v.submit c token k).1 = some (.success ("Expression accepted: " ++ e.data)) ∧
    ∃ k' : Console σ, k'.network = (Errand.createExpression v.input).passed c token k.network ∧
      (v.submit c token k).2.1 = (refresh { v with input := "" } c token k').2.1 ∧
      (v.submit c token k).2.2.network = Errand.listExpressions.passed c token k'.network := by
  have hcall : (c.createExpression token v.input k).1 = .ok e :=
    (Errand.fst_call_eq_ok_iff (.createExpression v.input) c token k).mpr he
  rw [submit_of_ok hinput hcall _ rfl]
  refine ⟨rfl, (c.createExpression token v.input k).2.note (.expressionAccepted e.id),
    Errand.network_call (.createExpression v.input) c token k, rfl, ?_⟩
  rw [Console.network_noteFailure]
  exact ListView.expressions.network_refresh _ c token _

/-- **A submission and its answers.**  Nothing happens without a line.  With one, the expression is sent once.  Where it
is not accepted, the user is told why, no more is sent, and only the line may go: just if the view clears it always.
Where it is accepted, the user is told so and the line goes, whatever comes next: one fetch, whose list replaces the old
one if there is such a list. -/
theorem submission_by_its_answers :
    (v.input = "" → v.submit c token k = (none, v, k)) ∧
    (v.input ≠ "" → ∀ post, post = Errand.createExpression v.input →
      (post.request c token).method = "POST" ∧
      Json.read (post.request c token).body = ⟨.struct [("data", .text v.input)], true⟩ ∧
      ((∀ e, ¬ post.Earns c token k.network (Expression.decode Json.topRoom) e) →
        ∃ f, (c.createExpression token v.input k).1 = .error f ∧
          (v.submit c token k).1 = some (.failure f.message) ∧
          (v.submit c token k).2.1 = { v with input := if v.clearInput = .always then "" else v.input } ∧
          c.Sent token k.network [post] (v.submit c token k).2.2.network) ∧
      ∀ e, post.Earns c token k.network (Expression.decode Json.topRoom) e →
        (v.submit c token k).1 = some (.success ("Expression accepted: " ++ e.data)) ∧
        c.Sent token k.network [post, .listExpressions] (v.submit c token k).2.2.network ∧
        ((∀ l, ¬ Errand.listExpressions.Earns c token (post.passed c token k.network) Client.decodeExpressions l) →
          (v.submit c token k).2.1 = v.awaiting) ∧
        ∀ l, Errand.listExpressions.Earns c token (post.passed c token k.network) Client.decodeExpressions l →
          (v.submit c token k).2.1 = { v.awaiting with expressions := l }) := by
  refine ⟨submit_empty, fun hinput post hpost => ?_⟩
  subst hpost
  refine ⟨rfl, Json.read_compact ⟨rfl, rfl, trivial⟩, fun hnothing => ?_, fun e he => ?_⟩
  · obtain ⟨f, hf⟩ := Errand.fst_call_of_nothing (.createExpression v.input) c token k hnothing
    rw [submit_of_error hinput hf]
    exact ⟨f, hf, rfl, rfl, .of_each (Errand.network_call (.createExpression v.input) c token k)⟩
  · obtain ⟨hnotice, k', hk', hview, hnetwork⟩ := submit_accepted hinput he
    refine ⟨hnotice, .of_each (by rw [hnetwork, hk']; rfl), fun hnothing => ?_, fun l hl => ?_⟩
    · rw [← hk'] at hnothing
      obtain ⟨f, hf⟩ := Errand.fst_call_of_nothing .listExpressions c token k' hnothing
      rw [hview]
      exact (ListView.expressions.refresh_of_error { v with input := "" } c token k' hf).2
    · rw [← hk'] at hl
      rw [hview]
      exact refresh_of_ok ((Errand.fst_call_eq_ok_iff .listExpressions c token k').mpr hl)

/-! ### An expression that is accepted before the list is cut off -/

open ListView (typed accepting watcher)

theorem earns_typed {body : String} {e : Expression} (h : Json.ofText (Expression.decode Json.topRoom) body = .ok e) :
    (Errand.createExpression typed.input).Earns watcher none (accepting body).network
      (Expression.decode Json.topRoom) e :=
  ⟨⟨201, "", body.toUTF8⟩, rfl, (by decide : 201 < 400), (Client.readSuccess_toUTF8 _ body).trans h⟩

theorem submission_by_its_answers_cut_off :
    typed.input ≠ "" ∧
    (Errand.createExpression typed.input).Earns watcher none (accepting Entity.four.json.compact).network
      (Expression.decode Json.topRoom) Entity.four ∧
    (typed.submit watcher none (accepting Entity.four.json.compact)).1 = some (.success "Expression accepted: 2+2") ∧
    (typed.submit watcher none (accepting Entity.four.json.compact)).2.1 = typed.awaiting := by
  have hinput : typed.input ≠ "" := by decide
  have hlegible : Entity.four.json.Legible := Entity.four.legible_json (by decide +kernel)
  have hearns := earns_typed (Json.ofText_of_read (Json.read_compact hlegible) (Entity.four.decode_json Json.topRoom))
  obtain ⟨-, -, -, haccepted⟩ := (submission_by_its_answers typed watcher none
    (accepting Entity.four.json.compact)).2 hinput _ rfl
  obtain ⟨hnotice, -, hview, -⟩ := haccepted Entity.four hearns
  refine ⟨hinput, hearns, hnotice, hview ?_⟩
  rintro l ⟨r, hr, -⟩
  cases hr

end ExpressionsView
end CalcConsole
