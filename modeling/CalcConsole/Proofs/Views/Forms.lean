import Mathlib.Data.List.Induction
import CalcConsole.Proofs.Command.Requests
import CalcConsole.Proofs.Views.Fetching
/-! # The form over a run

One form serves to log in and to register.  What stands in it is told by what has happened to it: in each field the text
that was last entered since the form was last cleared, under the mode that was last selected.  So what was typed in one
mode never goes out in the other, but for a registration that succeeds: its form goes on to the login, and no mode is
selected in between (`forms_keep_apart`). -/
namespace CalcConsole

/-! ## What a submission does -/

/-- **A login that succeeds** puts the token of the answer into the session, saves that, and keeps the page. -/
theorem Client.login_eq_ok {σ : Type} {c : Client} {credentials : Credentials} {s s' : Session σ} {k k' : Console σ}
    {token : Token} (h : c.login credentials s k = (.ok token, s', k')) :
    (∃ r, (Errand.login credentials).reply c s.token k.network = .ok r ∧ r.status < 400 ∧
      readSuccess Account.decodeLogin r.body = .ok token) ∧
    s' = ⟨{ s.state with token := some token }, s.storage⟩ ∧
    s.storage.save { s.state with token := some token } k.store = (.ok (), k'.store) := by
  have hanswer : ∀ t, (c.call "POST" "/login" s.token (some credentials.json) Account.decodeLogin k).1 = .ok t ↔ _ :=
    fun t => call_eq_ok_iff
  have hstore := c.store_call "POST" "/login" s.token (some credentials.json) Account.decodeLogin k
  unfold login at h
  generalize c.call "POST" "/login" s.token (some credentials.json) Account.decodeLogin k = p at h hanswer hstore
  obtain ⟨_ | t, k₁⟩ := p
  · cases h
  · rcases hsave : s.storage.save (s.state.apply (.setToken t)) k.store with ⟨_ | u, store⟩
    · dsimp only at h hstore
      rw [Session.change_of_save (hstore.symm ▸ hsave)] at h
      cases h
    · dsimp only at h hstore
      rw [Session.change_of_save (hstore.symm ▸ hsave)] at h
      cases h
      exact ⟨(hanswer token).mp rfl, rfl, hsave⟩

/-- **A login succeeds** just if its errand earns a token, and the session with that token is saved. -/
theorem Client.isOk_login_iff {σ : Type} {c : Client} {credentials : Credentials} {s : Session σ} {k : Console σ} :
    (c.login credentials s k).1.isOk = true ↔ ∃ token,
      (Errand.login credentials).Earns c s.token k.network Account.decodeLogin token ∧
      (s.storage.save { s.state with token := some token } k.store).1 = .ok () := by
  have hearns : ∀ t, (c.call "POST" "/login" s.token (some credentials.json) Account.decodeLogin k).1 = .ok t ↔
      (Errand.login credentials).Earns c s.token k.network Account.decodeLogin t := fun t =>
    (Errand.login credentials).fst_call_eq_ok_iff c s.token k
  have hstore := c.store_call "POST" "/login" s.token (some credentials.json) Account.decodeLogin k
  unfold login
  generalize c.call "POST" "/login" s.token (some credentials.json) Account.decodeLogin k = p at hearns hstore
  obtain ⟨e | t, k₁⟩ := p
  · exact ⟨fun h => (by cases h), fun ⟨t, ht, _⟩ => (by cases (hearns t).mpr ht)⟩
  · have honly : ∀ t', (Errand.login credentials).Earns c s.token k.network Account.decodeLogin t' → t' = t :=
      fun t' h' => (Except.ok.inj ((hearns t').mpr h')).symm
    dsimp only at hstore ⊢
    rcases hsave : s.storage.save (s.state.apply (.setToken t)) k.store with ⟨cause | u, store⟩
    · rw [Session.change_of_save (hstore.symm ▸ hsave)]
      refine ⟨fun h => (by cases h), fun ⟨t', ht', hsaved⟩ => ?_⟩
      rw [honly t' ht'] at hsaved
      cases (congrArg Prod.fst hsave).symm.trans hsaved
    · rw [Session.change_of_save (hstore.symm ▸ hsave)]
      exact ⟨fun _ => ⟨t, (hearns t).mp rfl, congrArg Prod.fst hsave⟩, fun _ => rfl⟩

theorem Client.isOk_register_iff {σ : Type} {c : Client} {credentials : Credentials} {token : Option Token}
    {k : Console σ} : (c.register credentials token k).1.isOk = true ↔ ∃ user,
      (Errand.register credentials).Earns c token k.network (Account.decodeRegistration Json.topRoom) user := by
  have hearns : ∀ user, (c.call "POST" "/register" token (some credentials.json)
      (Account.decodeRegistration Json.topRoom) k).1 = .ok user ↔ _ := fun user =>
    (Errand.register credentials).fst_call_eq_ok_iff c token k
  unfold register
  generalize c.call "POST" "/register" token (some credentials.json) (Account.decodeRegistration Json.topRoom) k = p
    at hearns
  obtain ⟨e | user, k₁⟩ := p
  · exact ⟨fun h => (by cases h), fun ⟨user, huser⟩ => (by cases (hearns user).mpr huser)⟩
  · exact ⟨fun _ => ⟨user, (hearns user).mp rfl⟩, fun _ => rfl⟩

namespace AuthView

variable {σ : Type} (v : AuthView) (c : Client) (s : Session σ) (k : Console σ)

theorem submit_disabled (h : v.canSubmit = false) : v.submit c s k = (none, v, s, k) := by
  unfold submit
  rw [h]
  rfl

theorem submit_login (h : v.canSubmit = true) (hmode : v.mode = .login) : v.submit c s k =
    match c.login v.credentials s k with
    | (.ok _, s, k) => (some (.success "Logged in"), { v with credentials := .empty }, s, k)
    | (.error e, s, k) => (some (.failure e.message), v, s, k) := by
  unfold submit
  rw [h, hmode]
  rfl

theorem submit_registration (h : v.canSubmit = true) (hmode : v.mode = .registration) : v.submit c s k =
    match c.register v.credentials s.token k with
    | (.ok _, k) => (some (.success "Registered, you can log in now"), { v with mode := .login }, s, k)
    | (.error e, k) => (some (.failure e.message), v, s, k) := by
  unfold submit
  rw [h, hmode]
  rfl

def errand : Errand := v.mode.errand v.credentials

/-- **A submission sends** the one request of its mode, and nothing as long as a field is empty. -/
theorem received_submit : (v.submit c s k).2.2.2.network.received = k.network.received ++
    if v.credentials.email = "" ∨ v.credentials.password = "" then []
    else c.sent v.errand.method v.errand.resource s.token v.errand.payload? k.network := by
  have hempty := v.credentials.isComplete_eq_false_iff
  cases hcan : v.canSubmit with
  | false =>
    rw [if_pos (hempty.mp hcan), v.submit_disabled c s k hcan, List.append_nil]
  | true =>
    rw [if_neg (fun hfield => by rw [canSubmit, hempty.mpr hfield] at hcan; cases hcan)]
    unfold errand
    cases hmode : v.mode with
    | login =>
      have hnetwork := c.network_login v.credentials s k
      rw [v.submit_login c s k hcan hmode]
      generalize c.login v.credentials s k = p at hnetwork ⊢
      obtain ⟨_ | _, s', k'⟩ := p <;> exact (congrArg Network.received hnetwork).trans (c.received_call _ _ _ _ _ k)
    | registration =>
      have hnetwork := c.network_register v.credentials s.token k
      rw [v.submit_registration c s k hcan hmode]
      generalize c.register v.credentials s.token k = p at hnetwork ⊢
      obtain ⟨_ | _, k'⟩ := p <;> exact (congrArg Network.received hnetwork).trans (c.received_call _ _ _ _ _ k)

/-- Whether a submission comes to a success. -/
def succeeds : Bool :=
  match (v.submit c s k).1 with
  | some (.success _) => true
  | _ => false

theorem succeeds_of_login (hmode : v.mode = .login) :
    v.succeeds c s k = (v.canSubmit && (c.login v.credentials s k).1.isOk) := by
  unfold succeeds
  cases hcan : v.canSubmit with
  | false =>
    rw [v.submit_disabled c s k hcan]
    rfl
  | true =>
    rw [v.submit_login c s k hcan hmode]
    generalize c.login v.credentials s k = p
    obtain ⟨_ | _, s', k'⟩ := p <;> rfl

theorem succeeds_of_registration (hmode : v.mode = .registration) :
    v.succeeds c s k = (v.canSubmit && (c.register v.credentials s.token k).1.isOk) := by
  unfold succeeds
  cases hcan : v.canSubmit with
  | false =>
    rw [v.submit_disabled c s k hcan]
    rfl
  | true =>
    rw [v.submit_registration c s k hcan hmode]
    generalize c.register v.credentials s.token k = p
    obtain ⟨_ | _, k'⟩ := p <;> rfl

/-- What the answer to the submission of a form has to be for a success. -/
def Earns : Prop :=
  match v.mode with
  | .login => ∃ token, (Errand.login v.credentials).Earns c s.token k.network Account.decodeLogin token ∧
    (s.storage.save { s.state with token := some token } k.store).1 = .ok ()
  | .registration => ∃ user, (Errand.register v.credentials).Earns c s.token k.network
    (Account.decodeRegistration Json.topRoom) user

/-- **A submission succeeds** just if the form is filled in, and the answer is a success that holds what was asked for;
a login has to be saved too. -/
theorem succeeds_iff : v.succeeds c s k = true ↔
    (v.credentials.email ≠ "" ∧ v.credentials.password ≠ "") ∧ v.Earns c s k := by
  have hcan : v.canSubmit = true ↔ v.credentials.email ≠ "" ∧ v.credentials.password ≠ "" := by
    rw [← not_or, ← v.credentials.isComplete_eq_false_iff, Bool.not_eq_false]
    rfl
  unfold Earns
  cases hmode : v.mode with
  | login => rw [v.succeeds_of_login c s k hmode, Bool.and_eq_true, hcan, Client.isOk_login_iff]
  | registration => rw [v.succeeds_of_registration c s k hmode, Bool.and_eq_true, hcan, Client.isOk_register_iff]

/-- **The form after a submission**: a login clears it, a registration goes on to the login, and a failure leaves it. -/
theorem view_submit : (v.submit c s k).2.1 =
    if v.succeeds c s k then
      match v.mode with
      | .login => ⟨.login, .empty⟩
      | .registration => ⟨.login, v.credentials⟩
    else v := by
  unfold succeeds
  cases hcan : v.canSubmit with
  | false =>
    rw [v.submit_disabled c s k hcan]
    rfl
  | true =>
    cases hmode : v.mode with
    | login =>
      rw [v.submit_login c s k hcan hmode, hmode]
      generalize c.login v.credentials s k = p
      obtain ⟨_ | _, s', k'⟩ := p <;> rfl
    | registration =>
      rw [v.submit_registration c s k hcan hmode]
      generalize c.register v.credentials s.token k = p
      obtain ⟨_ | _, k'⟩ := p <;> rfl

/-- **A registration**, however it ends, changes neither the session nor what its storage keeps. -/
theorem session_submit (hmode : v.mode = .registration) :
    (v.submit c s k).2.2.1 = s ∧ (v.submit c s k).2.2.2.store = k.store := by
  cases hcan : v.canSubmit with
  | false =>
    rw [v.submit_disabled c s k hcan]
    exact ⟨rfl, rfl⟩
  | true =>
    have hstore : (c.register v.credentials s.token k).2.store = k.store := by
      have hcall := c.store_call "POST" "/register" s.token (some v.credentials.json)
        (Account.decodeRegistration Json.topRoom) k
      unfold Client.register
      generalize c.call "POST" "/register" s.token (some v.credentials.json)
        (Account.decodeRegistration Json.topRoom) k = p at hcall ⊢
      obtain ⟨_ | _, k₁⟩ := p <;> exact hcall
    rw [v.submit_registration c s k hcan hmode]
    generalize c.register v.credentials s.token k = p at hstore ⊢
    obtain ⟨_ | _, k'⟩ := p <;> exact ⟨rfl, hstore⟩

theorem login_of_succeeds (hmode : v.mode = .login) (h : v.succeeds c s k = true) :
    ∃ token, c.login v.credentials s k = (.ok token, (v.submit c s k).2.2) := by
  unfold succeeds at h
  cases hcan : v.canSubmit with
  | false =>
    rw [v.submit_disabled c s k hcan] at h
    cases h
  | true =>
    rw [v.submit_login c s k hcan hmode] at h ⊢
    generalize c.login v.credentials s k = p at h ⊢
    obtain ⟨_ | token, s', k'⟩ := p
    · cases h
    · exact ⟨token, rfl⟩

/-! ## Runs of a form -/

inductive Field where
  | email | password
deriving DecidableEq, Repr

def Field.text (f : Field) (c : Credentials) : String :=
  match f with
  | .email => c.email
  | .password => c.password

/-- What can be done with a form.  Each submission has a client, a session and a service of its own. -/
inductive Move (σ : Type) where
  | select (m : AuthMode)
  | enter (f : Field) (text : String)
  | submit (c : Client) (s : Session σ) (k : Console σ)

def step : Move σ → AuthView
  | .select m => v.switchMode m
  | .enter .email text => v.setEmail text
  | .enter .password text => v.setPassword text
  | .submit c s k => (v.submit c s k).2.1

def run (ms : List (Move σ)) : AuthView := ms.foldl step v

inductive Happening where
  | selected (m : AuthMode)
  | entered (f : Field) (text : String)
  | loggedIn
  | registered
deriving DecidableEq

/-- What happens at a move, if anything does: a submission that does not succeed is none. -/
def happening? : Move σ → Option Happening
  | .select m => some (.selected m)
  | .enter f text => some (.entered f text)
  | .submit c s k =>
    if v.succeeds c s k then
      match v.mode with
      | .login => some .loggedIn
      | .registration => some .registered
    else none

def history : AuthView → List (Move σ) → List Happening
  | _, [] => []
  | v, m :: ms => (v.happening? m).toList ++ history (v.step m) ms

theorem run_concat (ms : List (Move σ)) (m : Move σ) : v.run (ms ++ [m]) = (v.run ms).step m := by
  unfold run
  rw [List.foldl_append]
  rfl

theorem history_concat (m : Move σ) : ∀ (v : AuthView) (ms : List (Move σ)),
    v.history (ms ++ [m]) = v.history ms ++ ((v.run ms).happening? m).toList
  | v, [] => List.append_nil _
  | v, m' :: ms => by
    show (v.happening? m').toList ++ (v.step m').history (ms ++ [m]) = _
    rw [history_concat m (v.step m') ms, ← List.append_assoc]
    rfl

/-! ## What a history tells -/

namespace Happening

def clears : Happening → Bool
  | .selected _ | .loggedIn => true
  | .entered _ _ | .registered => false

def mode? : Happening → Option AuthMode
  | .selected m => some m
  | .registered => some .login
  | .entered _ _ | .loggedIn => none

def text? (f : Field) : Happening → Option String
  | .entered f' text => if f' = f then some text else none
  | .selected _ | .loggedIn | .registered => none

theorem text?_eq_some_iff {f : Field} {e : Happening} {text : String} : e.text? f = some text ↔ e = .entered f text := by
  cases e with
  | entered f' text' => by_cases hf : f' = f <;> simp [text?, hf]
  | selected m => simp [text?]
  | loggedIn => simp [text?]
  | registered => simp [text?]

/-- The last of what the happenings say. -/
def latest {α : Type} (say : Happening → Option α) (es : List Happening) : Option α := es.reverse.findSome? say

/-- What has happened since the form was last cleared. -/
def sinceCleared (es : List Happening) : List Happening := (es.reverse.takeWhile (!·.clears)).reverse

/-- The mode that was last selected, or the login that a registration went on to. -/
def modeOf (es : List Happening) : AuthMode := (latest mode? es).getD .login

/-- What was last entered into a field since the form was last cleared. -/
def typed (f : Field) (es : List Happening) : String := (latest (text? f) (sinceCleared es)).getD ""

section Concat

variable {α : Type} (say : Happening → Option α) (es : List Happening) (e : Happening)

theorem latest_concat : latest say (es ++ [e]) = (say e).or (latest say es) := by
  unfold latest
  rw [List.reverse_concat, List.findSome?_cons]
  cases say e <;> rfl

theorem sinceCleared_concat : sinceCleared (es ++ [e]) = if e.clears then [] else sinceCleared es ++ [e] := by
  unfold sinceCleared
  rw [List.reverse_concat, List.takeWhile_cons]
  cases e.clears with
  | true => rfl
  | false => exact List.reverse_cons

theorem modeOf_concat : modeOf (es ++ [e]) = e.mode?.getD (modeOf es) := by
  unfold modeOf
  rw [latest_concat]
  cases e.mode? <;> rfl

theorem typed_concat (f : Field) :
    typed f (es ++ [e]) = if e.clears then "" else (e.text? f).getD (typed f es) := by
  unfold typed
  rw [sinceCleared_concat]
  cases e.clears with
  | true => rfl
  | false =>
    rw [if_neg (by decide), if_neg (by decide), latest_concat]
    cases e.text? f <;> rfl

end Concat

/-- Where a text that stands in a field comes from: it was entered in front of all that has come since then, none of which
has cleared the form or entered another. -/
structure Stands (f : Field) (text : String) (es front back : List Happening) : Prop where
  entered : es = front ++ .entered f text :: back
  kept : ∀ e ∈ back, e.clears = false
  last : ∀ e ∈ back, e.text? f = none

/-- **A text in a field** was entered there, and has stood there since. -/
theorem exists_stands {f : Field} {es : List Happening} (h : typed f es ≠ "") :
    ∃ front back, Stands f (typed f es) es front back := by
  induction es using List.reverseRecOn with
  | nil => exact absurd rfl h
  | append_singleton es e ih =>
    rw [typed_concat] at h ⊢
    cases hclears : e.clears with
    | true =>
      rw [hclears] at h
      exact absurd rfl h
    | false =>
      rw [hclears, if_neg (by decide)] at h
      rw [if_neg (by decide)]
      cases htext : e.text? f with
      | some text =>
        rw [text?_eq_some_iff] at htext
        exact ⟨es, [], by rw [htext]; rfl, fun e he => (by cases he), fun e he => (by cases he)⟩
      | none =>
        rw [htext] at h
        obtain ⟨front, back, hes, hkept, hlast⟩ := ih h
        refine ⟨front, back ++ [e], ?_, ?_, ?_⟩
        · rw [hes, List.append_assoc]
          exact congrArg _ (by rw [← hes]; rfl)
        · rw [List.forall_mem_append, List.forall_mem_singleton]
          exact ⟨hkept, hclears⟩
        · rw [List.forall_mem_append, List.forall_mem_singleton]
          exact ⟨hlast, htext⟩

theorem mode?_of_kept {e : Happening} (h : e.clears = false) : e.mode? = none ∨ e = .registered := by
  cases e with
  | selected m => cases h
  | entered f text => exact .inl rfl
  | loggedIn => exact .inl rfl
  | registered => exact .inr rfl

theorem modeOf_append_of_kept (front : List Happening) {back : List Happening} (h : ∀ e ∈ back, e.clears = false) :
    modeOf (front ++ back) = modeOf front ∨ modeOf (front ++ back) = .login ∧ .registered ∈ back := by
  induction back using List.reverseRecOn with
  | nil => exact .inl (by rw [List.append_nil])
  | append_singleton back e ih =>
    rw [List.forall_mem_append, List.forall_mem_singleton] at h
    rw [← List.append_assoc, modeOf_concat]
    rcases mode?_of_kept h.2 with hnone | rfl
    · rw [hnone, Option.getD_none]
      rcases ih h.1 with hsame | ⟨hlogin, hmem⟩
      · exact .inl hsame
      · exact .inr ⟨hlogin, List.mem_append_left _ hmem⟩
    · exact .inr ⟨rfl, List.mem_append_right _ (List.mem_singleton_self _)⟩

end Happening

open Happening

/-! ## The form and its history -/

/-- The form that has gone through the happenings. -/
def formOf (es : List Happening) : AuthView := ⟨modeOf es, ⟨typed .email es, typed .password es⟩⟩

theorem credentials_formOf (f : Field) (es : List Happening) : f.text (formOf es).credentials = typed f es := by
  cases f <;> rfl

/-- **A move** leaves the form that its history tells. -/
theorem step_formOf (es : List Happening) (m : Move σ) :
    (formOf es).step m = formOf (es ++ ((formOf es).happening? m).toList) := by
  have hclear : ∀ e : Happening, e.clears = true → formOf (es ++ [e]) = ⟨e.mode?.getD (modeOf es), .empty⟩ := by
    intro e he
    unfold formOf
    rw [modeOf_concat, typed_concat, typed_concat, he]
    rfl
  have hkeep : ∀ e : Happening, e.clears = false → formOf (es ++ [e]) = ⟨e.mode?.getD (modeOf es),
      ⟨(e.text? .email).getD (typed .email es), (e.text? .password).getD (typed .password es)⟩⟩ := by
    intro e he
    unfold formOf
    rw [modeOf_concat, typed_concat, typed_concat, he]
    rfl
  cases m with
  | select mode => exact (hclear (.selected mode) rfl).symm
  | enter f text =>
    refine Eq.trans ?_ (hkeep (.entered f text) rfl).symm
    cases f <;> rfl
  | submit c s k =>
    refine ((formOf es).view_submit c s k).trans ?_
    unfold happening?
    dsimp only
    cases (formOf es).succeeds c s k with
    | false =>
      rw [if_neg (by decide), if_neg (by decide)]
      exact congrArg formOf (List.append_nil es).symm
    | true =>
      rw [if_pos rfl, if_pos rfl]
      have hmode : (formOf es).mode = modeOf es := rfl
      rw [hmode]
      cases hes : modeOf es with
      | login =>
        have hlogin := hclear .loggedIn rfl
        rw [hes] at hlogin
        exact hlogin.symm
      | registration => exact (hkeep .registered rfl).symm

/-- **Every run of a new form** leaves the form that its history tells. -/
theorem run_new (ms : List (Move σ)) : new.run ms = formOf (new.history ms) := by
  induction ms using List.reverseRecOn with
  | nil => rfl
  | append_singleton ms m ih => rw [run_concat, history_concat, ih, step_formOf]

-- a registration leaves what it was made with, and the login that follows clears it
example : formOf [.selected .registration, .entered .email "me@home", .entered .password "secret", .registered] =
    ⟨.login, ⟨"me@home", "secret"⟩⟩ := by decide

example : formOf [.selected .registration, .entered .email "me@home", .registered, .entered .password "secret",
    .loggedIn] = ⟨.login, .empty⟩ := by decide

/-- A request that carries what the happenings tell: it is that of the mode, both fields are filled in, and neither text
comes from the other mode, unless the login follows the registration that it was entered for. -/
structure Carries (es : List Happening) (c : Client) (token : Option Token) (r : Request) : Prop where
  request : c.request (formOf es).errand.method (formOf es).errand.resource token (formOf es).errand.payload? = .ok r
  filled : ∀ f, typed f es ≠ ""
  stands : ∀ f, ∃ front back, Stands f (typed f es) es front back ∧
    (modeOf es = .registration → modeOf front = .registration) ∧
    (modeOf es = .login → modeOf front = .registration → .registered ∈ back)

theorem carries {es : List Happening} {c : Client} {token : Option Token} {r : Request}
    (hrequest : c.request (formOf es).errand.method (formOf es).errand.resource token (formOf es).errand.payload? = .ok r)
    (hfilled : ∀ f, typed f es ≠ "") : Carries es c token r := by
  refine ⟨hrequest, hfilled, fun f => ?_⟩
  obtain ⟨front, back, hstands⟩ := exists_stands (hfilled f)
  have hmode := modeOf_append_of_kept (front ++ [.entered f (typed f es)]) hstands.kept
  rw [List.append_assoc, List.singleton_append, ← hstands.entered, modeOf_concat] at hmode
  refine ⟨front, back, hstands, fun hregistration => ?_, fun hlogin hregistration => ?_⟩
  · rcases hmode with hsame | ⟨hlogin, -⟩
    · exact hsame.symm.trans hregistration
    · rw [hregistration] at hlogin
      cases hlogin
  · rcases hmode with hsame | ⟨-, hmem⟩
    · have hcontra := (hlogin.symm.trans hsame).trans hregistration
      cases hcontra
    · exact hmem

/-- **One form for two modes.**  After any run of a new form, in whatever sessions and with whatever answers, the form
is what its history tells.  A request that it then sends is that of its mode, with the two texts that stand in it, and
what was entered in one mode does not go out in the other, unless a registration has succeeded since then and no mode
has been selected; and a form with both texts does send its request, if that can be written and reaches the service.  A
submission succeeds just if the answer to it is a success that holds what was asked for.  A registration leaves the session alone however it ends, a submission that fails leaves the form,
and a login that succeeds clears the form, and gives the session the token of the answer beside its page. -/
theorem forms_keep_apart (ms : List (Move σ)) (c : Client) (s : Session σ) (k : Console σ) :
    ((new.run ms).mode = modeOf (new.history ms) ∧
      ∀ f : Field, f.text (new.run ms).credentials = typed f (new.history ms)) ∧
    (∃ rs, ((new.run ms).submit c s k).2.2.2.network.received = k.network.received ++ rs ∧ rs.length ≤ 1 ∧
      (∀ r ∈ rs, Carries (new.history ms) c s.token r) ∧
      ((∀ f, typed f (new.history ms) ≠ "") → k.network.arrives = true → ∀ r,
        c.request (new.run ms).errand.method (new.run ms).errand.resource s.token (new.run ms).errand.payload? = .ok r →
        rs = [r])) ∧
    ((new.run ms).succeeds c s k = true ↔ (∀ f, typed f (new.history ms) ≠ "") ∧ (new.run ms).Earns c s k) ∧
    ((new.run ms).mode = .registration →
      ((new.run ms).submit c s k).2.2.1 = s ∧ ((new.run ms).submit c s k).2.2.2.store = k.store) ∧
    ((new.run ms).succeeds c s k = false → ((new.run ms).submit c s k).2.1 = new.run ms) ∧
    ((new.run ms).mode = .login → (new.run ms).succeeds c s k = true →
      ((new.run ms).submit c s k).2.1 = ⟨.login, .empty⟩ ∧
      ∃ reply token, (Errand.login (new.run ms).credentials).reply c s.token k.network = .ok reply ∧
        reply.status < 400 ∧ Client.readSuccess Account.decodeLogin reply.body = .ok token ∧
        ((new.run ms).submit c s k).2.2.1 = ⟨{ s.state with token := some token }, s.storage⟩ ∧
        s.storage.save { s.state with token := some token } k.store =
          (.ok (), ((new.run ms).submit c s k).2.2.2.store)) := by
  rw [run_new]
  generalize new.history ms = es
  have hfilled : (∀ f, typed f es ≠ "") ↔ (formOf es).credentials.email ≠ "" ∧ (formOf es).credentials.password ≠ "" :=
    ⟨fun h => ⟨h .email, h .password⟩, fun h f => by
      cases f with
      | email => exact h.1
      | password => exact h.2⟩
  refine ⟨⟨rfl, fun f => credentials_formOf f es⟩, ⟨_, (formOf es).received_submit c s k, ?_, ?_, ?_⟩,
    by rw [hfilled, succeeds_iff], (formOf es).session_submit c s k, fun hfails => ?_, fun hmode hsucceeds => ⟨?_, ?_⟩⟩
  · split
    · exact Nat.zero_le 1
    · exact c.length_sent_le _ _ _ _ _
  · intro r hr
    split at hr
    · cases hr
    · rename_i hboth
      exact carries (c.request_of_mem_sent _ _ _ _ hr) (hfilled.mpr (not_or.mp hboth))
  · intro hboth harrives r hrequest
    rw [if_neg (not_or.mpr (hfilled.mp hboth)), Client.sent, hrequest]
    exact if_pos harrives
  · rw [view_submit, hfails, if_neg (by decide)]
  · rw [view_submit, hsucceeds, if_pos rfl, hmode]
  · obtain ⟨token, hlogin⟩ := (formOf es).login_of_succeeds c s k hmode hsucceeds
    obtain ⟨⟨reply, hreply, hstatus, hbody⟩, hsession, hsave⟩ := Client.login_eq_ok hlogin
    exact ⟨reply, token, hreply, hstatus, hbody, hsession, hsave⟩

end AuthView
end CalcConsole
