import CalcConsole.Router
import CalcConsole.Service.Client
/-! # Navigation

The view that is open is held twice, by the router and by the session.  A navigation changes the session first, and the
router only when the session could be saved.  So the session names the view that was last asked for, and the router the
view that was last gone to; the two part where the last navigation could not be saved, and only there. -/
namespace CalcConsole

structure Browsing (σ : Type) where
  router : Router
  session : Session σ
  console : Console σ

namespace Browsing

variable {σ : Type}

inductive Move where
  | navigate (v : ViewName)
  | setToken (t : Token)
  | clearToken
  | login (c : Client) (credentials : Credentials)

def restored (s : Session σ) (k : Console σ) : Browsing σ := ⟨(Router.restore s k).1, s, (Router.restore s k).2⟩

def answer (b : Browsing σ) (v : ViewName) : Except SessionError ViewName :=
  (b.router.navigate b.session v b.console).1

def step (b : Browsing σ) : Move → Browsing σ
  | .navigate v =>
    let (_, router, session, console) := b.router.navigate b.session v b.console
    ⟨router, session, console⟩
  | .setToken t =>
    let (_, session, console) := b.session.change (.setToken t) b.console
    ⟨b.router, session, console⟩
  | .clearToken =>
    let (_, session, console) := b.session.change .clearToken b.console
    ⟨b.router, session, console⟩
  | .login c credentials =>
    let (_, session, console) := c.login credentials b.session b.console
    ⟨b.router, session, console⟩

def run (b : Browsing σ) (ms : List Move) : Browsing σ := ms.foldl step b

/-- The navigations of a run, each with whether it was saved. -/
def navigations (b : Browsing σ) : List Move → List (ViewName × Bool)
  | [] => []
  | .navigate v :: ms => (v, (b.answer v).isOk) :: (b.step (.navigate v)).navigations ms
  | .setToken t :: ms => (b.step (.setToken t)).navigations ms
  | .clearToken :: ms => (b.step .clearToken).navigations ms
  | .login c credentials :: ms => (b.step (.login c credentials)).navigations ms

/-- The view of the last of some navigations, before which `v` was open. -/
def lastView (v : ViewName) (ns : List (ViewName × Bool)) : ViewName := (ns.getLast?.map (·.1)).getD v

@[simp] theorem lastView_nil (v : ViewName) : lastView v [] = v := rfl

@[simp] theorem lastView_cons (v : ViewName) (n : ViewName × Bool) (ns : List (ViewName × Bool)) :
    lastView v (n :: ns) = lastView n.1 ns := by
  cases ns with
  | nil => rfl
  | cons m ns => simp [lastView, List.getLast?_cons]

/-! ## One move -/

variable (b : Browsing σ)

theorem view_login (c : Client) (credentials : Credentials) (s : Session σ) (k : Console σ) :
    (c.login credentials s k).2.1.view = s.view := by
  unfold Client.login
  generalize c.call "POST" "/login" s.token (some credentials.json) Account.decodeLogin k = p
  obtain ⟨r, k⟩ := p
  cases r with
  | error e => rfl
  | ok token =>
    dsimp only [Session.change]
    cases (s.storage.save (s.state.apply (.setToken token)) k.store).1 <;> rfl

/-- **A navigation** changes the page of the session in any case, and the router when it could be saved. -/
theorem step_navigate (v : ViewName) :
    (b.step (.navigate v)).session.state = b.session.state.apply (.setView v) ∧
    (b.step (.navigate v)).router.active = if (b.answer v).isOk then v else b.router.active := by
  rcases hsaved : b.session.storage.save (b.session.state.apply (.setView v)) b.console.store with ⟨r, store⟩
  cases r with
  | error e => simp [step, answer, Router.navigate, Session.change, hsaved, Except.isOk, Except.toBool]
  | ok u => simp [step, answer, Router.navigate, Session.change, hsaved, Except.isOk, Except.toBool]

theorem view_step_navigate (v : ViewName) : (b.step (.navigate v)).session.view = v := by
  unfold Session.view
  rw [(b.step_navigate v).1]
  rfl

theorem token_step_navigate (v : ViewName) : (b.step (.navigate v)).session.token = b.session.token := by
  unfold Session.token
  rw [(b.step_navigate v).1]
  rfl

/-! ## A run -/

/-- **The session** names the view that was last asked for. -/
theorem view_run (ms : List Move) : (b.run ms).session.view = lastView b.session.view (b.navigations ms) := by
  induction ms generalizing b with
  | nil => rfl
  | cons m ms ih =>
    have hrun : b.run (m :: ms) = (b.step m).run ms := rfl
    rw [hrun, ih]
    cases m with
    | navigate v => rw [navigations, lastView_cons, view_step_navigate]
    | setToken t => rfl
    | clearToken => rfl
    | login c credentials =>
      have hview : (b.step (.login c credentials)).session.view = b.session.view :=
        view_login c credentials b.session b.console
      rw [navigations, hview]

/-- **The router** names the view that was last gone to. -/
theorem active_run (ms : List Move) :
    (b.run ms).router.active = lastView b.router.active ((b.navigations ms).filter (·.2)) := by
  induction ms generalizing b with
  | nil => rfl
  | cons m ms ih =>
    have hrun : b.run (m :: ms) = (b.step m).run ms := rfl
    rw [hrun, ih]
    cases m with
    | navigate v =>
      rw [navigations, (b.step_navigate v).2, List.filter_cons]
      by_cases hv : (b.answer v).isOk = true
      · rw [if_pos hv, if_pos hv, lastView_cons]
      · rw [if_neg hv, if_neg hv]
    | setToken t => rfl
    | clearToken => rfl
    | login c credentials => rfl

/-- **Router and session agree** exactly where the view that was last gone to is the one that was last asked for.  So
they agree in a run in which every navigation is saved, whatever else fails.  A navigation that is not saved leaves the
router and the token, but the session has its view. -/
theorem active_eq_view_iff (s : Session σ) (k : Console σ) (ms : List Move) :
    ((((restored s k).run ms).router.active = ((restored s k).run ms).session.view ↔
      lastView s.view (((restored s k).navigations ms).filter (·.2)) =
        lastView s.view ((restored s k).navigations ms))) ∧
    ((∀ n ∈ (restored s k).navigations ms, n.2 = true) →
      ((restored s k).run ms).router.active = ((restored s k).run ms).session.view) ∧
    ∀ v e, ((restored s k).run ms).answer v = .error e →
      (((restored s k).run ms).step (.navigate v)).router.active = ((restored s k).run ms).router.active ∧
      (((restored s k).run ms).step (.navigate v)).session.token = ((restored s k).run ms).session.token ∧
      (((restored s k).run ms).step (.navigate v)).session.view = v := by
  have hactive := active_run (restored s k) ms
  have hview := view_run (restored s k) ms
  have hstart : (restored s k).router.active = s.view := rfl
  have hstart' : (restored s k).session.view = s.view := rfl
  rw [hstart] at hactive
  rw [hstart'] at hview
  refine ⟨by rw [hactive, hview], fun hall => ?_, fun v e he => ⟨?_, token_step_navigate _ v, view_step_navigate _ v⟩⟩
  · rw [hactive, hview, List.filter_eq_self.mpr hall]
  · rw [(step_navigate _ v).2, he]
    rfl

/-! ### A file that cannot be written -/

def misplaced : Browsing Disk :=
  let k : Console Disk := ⟨Disk.empty.put ["notes"] (.file "x".toUTF8 0o644), ⟨[], .refused, []⟩, []⟩
  let (s, k) := Session.«open» (Storage.file [] "/notes/session.json") k
  restored s k

theorem active_ne_view_unsaved :
    (misplaced.answer .agents).isOk = false ∧
    misplaced.session.view = .expressions ∧
    (misplaced.step (.navigate .agents)).session.view = .agents ∧
    (misplaced.step (.navigate .agents)).router.active ≠ (misplaced.step (.navigate .agents)).session.view := by
  decide +kernel

end Browsing
end CalcConsole
