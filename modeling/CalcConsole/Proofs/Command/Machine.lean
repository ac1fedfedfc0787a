import CalcConsole.Command.Run
import CalcConsole.Proofs.Command.Asking
import CalcConsole.Proofs.Session.Files
/-! # The machine of a session

The state is what the session remembers, a page and a token, or `none` as long as nothing has been written.  A command
moves it, and so does the token that a login earns.  The parts of a visit follow the machine step by step: opening the
session, going to a view, logging in and logging out. -/
namespace CalcConsole

namespace SessionMachine

def state (m : Option SessionState) : SessionState := m.getD .empty

/-- The page that a command turns to, before anything is asked of the service. -/
def page? : Command → Option ViewName
  | .visit .listExpressions | .visit (.submit _) => some .expressions
  | .visit .listOperations | .visit (.setCost _ _) => some .operations
  | .visit .listAgents => some .agents
  | .visit (.login _) | .visit (.register _) => some .login
  | .visit (.«open» (some v)) => some v
  | .visit (.«open» none) | .visit .logout | .visit .status | .config _ => none

def turn (m : Option SessionState) (c : Command) : Option SessionState :=
  match page? c with
  | some v => some { state m with page := some v }
  | none => m

def authorize (m : Option SessionState) (c : Command) (earned : Option Token) : Option SessionState :=
  match c, earned with
  | .visit (.login _), some t => some { state m with token := some t }
  | .visit .logout, _ => some { state m with token := none }
  | _, _ => m

def next (m : Option SessionState) (c : Command) (earned : Option Token) : Option SessionState :=
  authorize (turn m c) c earned

/-- The token that an answer grants: its status is that of a success, and its body holds one. -/
def granted? (r : Reply) : Option Token :=
  if r.status < 400 then (Json.ofDocument Account.decodeLogin r.body.document).toOption else none

/-- The token that was earned between two states of the network: the first request to arrive was a `POST`, and its
answer grants the token. -/
def earned? (n n' : Network) : Option Token :=
  match n'.received.drop n.received.length, n.next with
  | r :: _, .answered reply => if r.method = "POST" then granted? reply else none
  | _, _ => none

theorem earned?_of_received_eq {n n' : Network} (h : n'.received = n.received) : earned? n n' = none := by
  unfold earned?
  rw [h, List.drop_length]

end SessionMachine

open SessionMachine
open Disk (Speakable absolute)

/-! ## Opening -/

theorem Client.toOption_readReply (r : Reply) : (readReply Account.decodeLogin r).toOption = granted? r := by
  unfold readReply granted? readSuccess
  by_cases hr : r.status < 400
  · rw [if_pos hr, if_pos hr]
    cases Json.ofDocument Account.decodeLogin r.body.document <;> rfl
  · rw [if_neg hr, if_neg hr]
    rfl

/-- **The call of a login** brings the token that it earned, and none otherwise. -/
theorem Client.toOption_call_login {σ : Type} (c : Client) (path : String) (token : Option Token)
    (payload : Option Json) (k : Console σ) :
    (c.call "POST" path token payload Account.decodeLogin k).1.toOption =
      earned? k.network (c.call "POST" path token payload Account.decodeLogin k).2.network := by
  rw [network_call]
  unfold call send
  cases hr : c.request "POST" path token payload with
  | error e => simp [earned?_of_received_eq, Except.toOption]
  | ok r =>
    have hpost : r.method = "POST" := (c.request_eq_ok "POST" path token payload hr).1
    unfold Network.send
    cases hnext : k.network.next with
    | refused => simp [earned?_of_received_eq, Except.toOption]
    | dropped => simp [earned?, hnext, Except.toOption]
    | answered reply => simp [earned?, hnext, hpost, toOption_readReply]

/-! ## Opening a session -/

section Opening

variable {cwd : Place} {path : String} {m : Option SessionState}

/-- What is loaded is what the file shows; a file that is not there may be an error too. -/
theorem Storage.loadFile_shows {d : Disk} (hs : Speakable path) (h : SessionFile.Shows (absolute cwd path) d m) :
    loadFile cwd path d = (.ok (state m), []) ∨ m = none ∧ ∃ e, loadFile cwd path d = (.error e, []) := by
  unfold loadFile
  cases m with
  | some s =>
    obtain ⟨text, hholds, hread⟩ := h
    left
    simp [hholds.readText hs, hread, state]
  | none =>
    obtain ⟨e, he⟩ := Disk.readText_of_absent h
    rw [he]
    cases e <;> simp [state]

/-- **A session opens** as its file shows it. -/
theorem Session.open_shows {k : Console Disk} (hs : Speakable path)
    (h : SessionFile.Shows (absolute cwd path) k.store m) :
    ∃ k', Session.«open» (Storage.file cwd path) k = (⟨SessionMachine.state m, Storage.file cwd path⟩, k') ∧
      k'.store = k.store ∧ k'.network = k.network := by
  have hload : (Storage.file cwd path).load k.store = Storage.loadFile cwd path k.store := rfl
  unfold Session.«open»
  rw [hload]
  rcases Storage.loadFile_shows hs h with hl | ⟨rfl, e, hl⟩
  · rw [hl]
    exact ⟨_, rfl, rfl, rfl⟩
  · rw [hl]
    exact ⟨_, rfl, rfl, rfl⟩

/-- **A visit starts** in the session that the file shows, at the page of the session. -/
theorem Visit.start_shows {s : Surroundings} {c : Config} {k : Console Disk}
    (hpath : path = SessionFile.path s.home c.sessionFolder c.sessionName) (hs : Speakable path)
    (h : SessionFile.Shows (absolute s.place path) k.store m) :
    ∃ v k', start s c k = (v, k') ∧ v.session = ⟨state m, Storage.file s.place path⟩ ∧
      v.router.active = (state m).view ∧ k'.store = k.store ∧ k'.network = k.network := by
  have h' : SessionFile.Shows (absolute s.place path) (k.note (.openingSession path)).store m := h
  obtain ⟨k₁, hopen, hstore, hnetwork⟩ := Session.open_shows hs h'
  unfold start
  rw [← hpath]
  dsimp only
  rw [hopen]
  exact ⟨_, _, rfl, rfl, rfl, hstore, hnetwork⟩

end Opening

theorem Session.open_quiet {σ : Type} (storage : Storage σ) (k : Console σ) :
    (Session.«open» storage k).1.storage = storage ∧ (Session.«open» storage k).2.store = k.store ∧
      (Session.«open» storage k).2.network = k.network := by
  unfold Session.«open»
  rcases storage.load k.store with ⟨e | state, events⟩
  · simp
  · simp

/-- **A visit starts** in what its file opens as, whatever that is, and asks for nothing. -/
theorem Visit.start_opens (s : Surroundings) (c : Config) (k : Console Disk) (storage : Storage Disk)
    (hstorage : storage = Storage.file s.place (SessionFile.path s.home c.sessionFolder c.sessionName)) :
    ∃ v k', start s c k = (v, k') ∧ v.client = Client.make c.baseUrl c.timeoutMs ∧
      v.session = ⟨storage.opens k.store, storage⟩ ∧ v.router.active = v.session.view ∧
      k'.store = k.store ∧ k'.network = k.network := by
  have hopen := Session.open_fst storage (k.note (.openingSession
    (SessionFile.path s.home c.sessionFolder c.sessionName)))
  have hquiet := Session.open_quiet storage (k.note (.openingSession
    (SessionFile.path s.home c.sessionFolder c.sessionName)))
  unfold start
  dsimp only
  rw [← hstorage]
  exact ⟨_, _, rfl, rfl, hopen, rfl, hquiet.2⟩

/-! ## Changes of the session -/

/-- **A change** is made in memory, whatever becomes of the save. -/
theorem Session.change_of_save {σ : Type} {s : Session σ} {c : SessionState.Change} {k : Console σ}
    {r : Except SessionError Unit} {store : σ} (h : s.storage.save (s.state.apply c) k.store = (r, store)) :
    s.change c k = (r, ⟨s.state.apply c, s.storage⟩, { k with store }) := by
  simp only [change, h]

namespace Visit

variable {v : Visit} {k : Console Disk} {d : Disk} {s : Screen}

/-- **Going to a view** saves it before it is active, and asks for nothing. -/
theorem goTo_ok {view : ViewName}
    (h : v.session.storage.save (v.session.state.apply (.setView view)) k.store = (.ok (), d)) :
    ∃ v' k', v.goTo view k = (.ok v', k') ∧ v'.client = v.client ∧
      v'.session = ⟨v.session.state.apply (.setView view), v.session.storage⟩ ∧
      v'.router.active = view ∧ k'.store = d ∧ k'.network = k.network := by
  unfold goTo Router.navigate
  rw [Session.change_of_save h]
  refine ⟨_, _, rfl, rfl, rfl, rfl, ?_, ?_⟩
  all_goals split <;> rfl

/-- **Logging out** saves the session without its token, and asks for nothing. -/
theorem logout_ok (h : v.session.storage.save (v.session.state.apply .clearToken) k.store = (.ok (), d)) :
    (v.logout s k).2.store = d ∧ (v.logout s k).2.network = k.network := by
  unfold logout
  rw [Session.change_of_save h]
  dsimp only
  by_cases ha : v.session.state.isAuthenticated = true
  · rw [if_pos ha]
    exact ⟨store_printNotice _ _ _, network_printNotice _ _ _⟩
  · rw [if_neg ha]
    exact ⟨rfl, rfl⟩

theorem afterNotice_quiet (n : Notice) {listing : Console Disk → Console Disk}
    (hl : ∀ k, (listing k).store = k.store ∧ (listing k).network = k.network) :
    (afterNotice s n listing k).2.store = k.store ∧ (afterNotice s n listing k).2.network = k.network := by
  have hs := store_printNotice s n k
  have hn := network_printNotice s n k
  unfold afterNotice
  dsimp only
  by_cases hf : n.isFailure = true
  · rw [if_pos hf]
    exact ⟨hs, hn⟩
  · rw [if_neg hf]
    exact ⟨(hl _).1.trans hs, (hl _).2.trans hn⟩

/-- **Logging in** saves the token that it earns, and nothing else; all that it sends carries the token from before. -/
theorem login_ok {c : Credentials} (store : Token → Disk)
    (h : ∀ t, v.session.storage.save (v.session.state.apply (.setToken t)) k.store = (.ok (), store t)) :
    (∃ rs, (v.account s .login c k).2.network.received = k.network.received ++ rs ∧
      ∀ r ∈ rs, r.authorization = v.session.token.map fun t => sentHeader t.bearer) ∧
    (v.account s .login c k).2.store =
      ((earned? k.network (v.account s .login c k).2.network).map store).getD k.store := by
  unfold account
  dsimp only
  generalize hform : ((AuthView.new.switchMode .login).setEmail c.email).setPassword c.password = form
  have hmode : form.mode = .login := by rw [← hform]; rfl
  have hnext : ∀ (form : AuthView) (k : Console Disk),
      (if form.mode = .login ∧ AuthMode.login = .registration then
        k.printLine ("  " ++ s.paint .faint "Next:" ++ " Log in with `daec login --email " ++ c.email ++ "`")
      else k) = k := fun form k => if_neg fun hm => nomatch hm.2
  simp only [hnext]
  unfold AuthView.submit
  by_cases hcan : form.canSubmit = true
  · have hasks := v.client.asks_call "POST" "/login" v.session.token (some form.credentials.json)
      Account.decodeLogin k
    have hearned := v.client.toOption_call_login "/login" v.session.token (some form.credentials.json) k
    rw [if_neg (by rw [hcan]; decide), hmode]
    dsimp only
    unfold Client.login
    generalize v.client.call "POST" "/login" v.session.token (some form.credentials.json) Account.decodeLogin k = p
      at hasks hearned ⊢
    obtain ⟨r, k₁⟩ := p
    dsimp only at hasks hearned
    cases r with
    | error e =>
      obtain ⟨hs, hn⟩ := afterNotice_quiet (s := s.asTable) (k := k₁) (.failure e.message) fun k => ⟨rfl, rfl⟩
      dsimp only
      rw [hn, hs, ← hearned]
      exact ⟨hasks.sent, hasks.store⟩
    | ok token =>
      have hsave : v.session.storage.save (v.session.state.apply (.setToken token)) k₁.store =
          (.ok (), store token) := by
        rw [hasks.store]
        exact h token
      dsimp only
      rw [Session.change_of_save hsave]
      obtain ⟨hs, hn⟩ := afterNotice_quiet (s := s.asTable)
        (k := { k₁ with store := store token }.note (.loggedIn form.credentials.email)) (.success "Logged in")
        fun k => ⟨rfl, rfl⟩
      dsimp only
      rw [hn, hs, Console.network_note, ← hearned]
      exact ⟨hasks.sent, rfl⟩
  · -- an incomplete form sends nothing
    rw [if_pos (by simpa using hcan)]
    dsimp only
    rw [network_printNotice, store_printNotice, earned?_of_received_eq rfl]
    exact ⟨(Asks.refl k).sent, rfl⟩

end Visit

/-! ## Changes of the settings -/

namespace ConfigAction

variable {s : Surroundings} {screen : Screen} {k : Console Disk} {segments : List String} {m : Option SessionState}

theorem settle_shows {changed : Except ConfigError Unit × Disk} {line : String}
    (hc : changed.2.at? (Disk.destination [] segments) ≠ some .folder → SessionFile.Shows segments changed.2 m)
    (hfolder : (settle screen changed line k).2.store.at? (Disk.destination [] segments) ≠ some .folder) :
    SessionFile.Shows segments (settle screen changed line k).2.store m ∧
      (settle screen changed line k).2.network = k.network := by
  obtain ⟨_ | _, d⟩ := changed
  · exact ⟨hc hfolder, rfl⟩
  · exact ⟨hc hfolder, rfl⟩

/-- **What is done to the settings** changes no session, and asks for nothing. -/
theorem run_shows {c : Config} (a : ConfigAction) (hm : SessionFile.Shows segments k.store m)
    (hne : Disk.destination [] segments ≠ Disk.destination [] (absolute s.place s.globalFile))
    (hfolder : (a.run s screen c k).2.store.at? (Disk.destination [] segments) ≠ some .folder) :
    SessionFile.Shows segments (a.run s screen c k).2.store m ∧ (a.run s screen c k).2.network = k.network := by
  have hinit : ∀ force, (Config.init s force k.store).2.at? (Disk.destination [] segments) ≠ some .folder →
      SessionFile.Shows segments (Config.init s force k.store).2 m := by
    intro force hf
    unfold Config.init at hf ⊢
    split at hf
    case isTrue hpresent =>
      rw [if_pos hpresent]
      exact hm
    case isFalse hpresent =>
      rw [if_neg hpresent]
      exact Config.shows_store hm hne hf
  cases a with
  | present =>
    unfold run
    cases c.effective with
    | error e => exact ⟨hm, rfl⟩
    | ok text =>
      refine ⟨?_, network_printLines _ _⟩
      rw [store_printLines]
      exact hm
  | init force => exact settle_shows (hinit force) hfolder
  | reset => exact settle_shows (hinit true) hfolder
  | set key value =>
    refine settle_shows (fun hf => ?_) hfolder
    unfold Config.setValue at hf ⊢
    generalize (Config.currentText s k.store).bind (Config.edited key value) = text at hf ⊢
    cases text with
    | error e => exact hm
    | ok text => exact Config.shows_store hm hne hf

end ConfigAction
end CalcConsole
