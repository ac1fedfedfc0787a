import CalcConsole.Program
import CalcConsole.Proofs.Command.Machine
/-! # Sessions over many runs

The program ends after each command, and all that a session remembers is in its file.  `Reached` follows the file
through any sequence of runs, each in surroundings of its own and before a service of its own, with changes elsewhere on
the disk in between.  Whatever the services answer, the file shows the state of the machine (`Reached.shows`), and every
run acts by it (`Invocation.follows`). -/
namespace CalcConsole

open SessionMachine
open Disk (absolute destination)

/-! ## What an action does to a session -/

theorem SessionMachine.page?_visit (a : Action) : page? (.visit a) = a.destination? := by
  cases a with
  | «open» view => cases view <;> rfl
  | _ => rfl

theorem Action.asks_act {a : Action} (hin : ∀ c, a ≠ .login c) (hout : a ≠ .logout) (s : Screen) (v : Visit)
    (k : Console Disk) : Asks v.session.token k (a.act s v k).2 := by
  cases a with
  | «open» view => exact Visit.asks_showActive s v k
  | listExpressions => exact Visit.asks_showExpressions s v k
  | submit text => exact Visit.asks_submit s v k text
  | listOperations => exact Visit.asks_showOperations s v k
  | setCost operationType cost => exact Visit.asks_setCost s v k operationType cost
  | listAgents => exact Visit.asks_showAgents s v k
  | login c => exact absurd rfl (hin c)
  | register c => exact Visit.asks_register s v k c
  | logout => exact absurd rfl hout
  | status => exact Visit.asks_status s v k

/-! ## One run -/

/-- A run of the program: where it takes place, and the words of its command line. -/
structure Invocation where
  surroundings : Surroundings
  words : List String

namespace Invocation

variable (i : Invocation) (d : Disk) (n : Network)

def run : Program.Ending × Console Disk := Program.run i.surroundings i.words ⟨d, n, []⟩

def config : Config := (Config.load i.surroundings d).1

def path : String := SessionFile.path i.surroundings.home (i.config d).sessionFolder (i.config d).sessionName

/-- How the run ends from where its command has come to. -/
def finish (p : Result × Console Disk) : Program.Ending × Console Disk :=
  (Program.ending (LogFilter.choose (i.surroundings.lookup Program.filterVariable) (i.config d).logLevel) p.1
    p.2.transcript, p.2)

/-- The run carries out a command, in the session whose file the segments lead to, and the session can be saved. -/
structure Begins (segments : List String) (format : Format) (command : Command) : Prop where
  spelled : Arguments.request i.surroundings.lookup i.words = .run format command
  file : absolute i.surroundings.place (i.path d) = segments
  writable : ∀ s, (Storage.saveFile i.surroundings.place (i.path d) s d).1 = .ok ()

/-- The session can be saved after the run too. -/
structure Shares (segments : List String) (format : Format) (command : Command) : Prop
    extends i.Begins d segments format command where
  writable_after : ∀ s, (Storage.saveFile i.surroundings.place (i.path d) s (i.run d n).2.store).1 = .ok ()

def render (screen : Screen) (v : Visit) : ViewName → Console Disk → Result × Console Disk
  | .expressions => v.showExpressions screen
  | .operations => v.showOperations screen
  | .agents => v.showAgents screen
  | .login => v.showLogin screen

/-- The run acts by the machine in the state `m`. -/
structure Follows (segments : List String) (format : Format) (command : Command) (m : Option SessionState) : Prop where
  /-- The file then shows the next state. -/
  shows : SessionFile.Shows segments (i.run d n).2.store (next m command (earned? n (i.run d n).2.network))
  /-- What is sent carries the token of the machine, and nothing if there is none. -/
  sends : ∃ rs, (i.run d n).2.network.received = n.received ++ rs ∧
    ∀ r ∈ rs, r.authorization = (state m).token.map fun t => sentHeader ("Bearer " ++ t.text)
  /-- A command that turns to a page is carried out when the file shows the page, and nothing has been asked yet. -/
  turns : ∀ view, page? command = some view → ∃ a v k, command = .visit a ∧ v.router.active = view ∧
    v.session.state = { state m with page := some view } ∧ k.network = n ∧
    SessionFile.Shows segments k.store (some { state m with page := some view }) ∧
    i.run d n = i.finish d (a.act ⟨false, format⟩ v k)
  /-- To open no view in particular shows the page of the machine. -/
  opens : command = .visit (.«open» none) → ∃ v k, v.router.active = (state m).page.getD .expressions ∧
    v.session.state = state m ∧ k.store = d ∧ k.network = n ∧
    i.run d n = i.finish d (render ⟨false, format⟩ v ((state m).page.getD .expressions) k)

variable {i d n} {segments : List String} {format : Format} {command : Command} {m : Option SessionState}

theorem run_eq (h : Arguments.request i.surroundings.lookup i.words = .run format command) :
    ∃ k : Console Disk, k.store = d ∧ k.network = n ∧
      i.run d n = i.finish d (command.run i.surroundings ⟨false, format⟩ (i.config d) k) := by
  refine ⟨(⟨d, n, []⟩ : Console Disk).noteAll (Program.warningEvents (Config.load i.surroundings d).2), by simp,
    by simp, ?_⟩
  unfold run finish config Program.run
  rw [h]

/-! ## Visits -/

section Visits

variable {cwd : Place} {path : String} {v : Visit} {k : Console Disk}

/-- **An action in its place** moves the session on, once the file shows what the session has in memory. -/
theorem act_shows (screen : Screen) (hsession : v.session = ⟨state m, Storage.file cwd path⟩)
    (hwritable : ∀ s, (Storage.saveFile cwd path s k.store).1 = .ok ())
    (hm : SessionFile.Shows (absolute cwd path) k.store m) (a : Action) :
    SessionFile.Shows (absolute cwd path) (a.act screen v k).2.store
        (authorize m (.visit a) (earned? k.network (a.act screen v k).2.network)) ∧
      ∃ rs, (a.act screen v k).2.network.received = k.network.received ++ rs ∧
        ∀ r ∈ rs, r.authorization = (state m).token.map fun t => sentHeader t.bearer := by
  have hsave : ∀ st, (Storage.file cwd path).save st k.store = (.ok (), (Storage.saveFile cwd path st k.store).2) :=
    fun st => Storage.save_file (hwritable st)
  have htoken : v.session.token = (state m).token := by rw [hsession]; rfl
  by_cases hin : ∃ c, a = .login c
  · obtain ⟨c, rfl⟩ := hin
    have hlogin := Visit.login_ok (s := screen) (c := c) (k := k)
      (fun t => (Storage.saveFile cwd path (v.session.state.apply (.setToken t)) k.store).2)
      (fun t => by rw [hsession]; exact hsave _)
    rw [htoken] at hlogin
    refine ⟨?_, hlogin.1⟩
    show SessionFile.Shows _ (v.account screen .login c k).2.store
      (authorize m _ (earned? k.network (v.account screen .login c k).2.network))
    rw [hlogin.2]
    cases earned? k.network (v.account screen .login c k).2.network with
    | none => exact hm
    | some t =>
      have hshows := SessionFile.Shows.of_save (hwritable (v.session.state.apply (.setToken t)))
      rw [hsession] at hshows ⊢
      exact hshows
  by_cases hout : a = .logout
  · subst hout
    have hlogout := Visit.logout_ok (v := v) (s := screen) (k := k)
      (d := (Storage.saveFile cwd path (v.session.state.apply .clearToken) k.store).2)
      (by rw [hsession]; exact hsave _)
    have hshows := SessionFile.Shows.of_save (hwritable (v.session.state.apply .clearToken))
    refine ⟨?_, [], ?_, fun r hr => by cases hr⟩
    · show SessionFile.Shows _ (v.logout screen k).2.store _
      rw [hlogout.1]
      rw [hsession] at hshows ⊢
      exact hshows
    · show (v.logout screen k).2.network.received = _
      rw [hlogout.2, List.append_nil]
  · have hasks := a.asks_act (fun c hc => hin ⟨c, hc⟩) hout screen v k
    rw [htoken] at hasks
    refine ⟨?_, hasks.sent⟩
    rw [hasks.store]
    cases a with
    | login c => exact absurd ⟨c, rfl⟩ hin
    | logout => exact absurd rfl hout
    | _ => exact hm

end Visits

theorem Begins.destination_ne (h : i.Begins d segments format command) :
    destination [] segments ≠ destination [] (absolute i.surroundings.place i.surroundings.globalFile) := by
  rw [← h.file]
  exact SessionFile.destination_ne_settings _ _ _ _ _

/-- **A run of a command for the settings** changes nothing of the session. -/
theorem follows_config {a : ConfigAction} (h : i.Shares d n segments format (.config a))
    (hm : SessionFile.Shows segments d m) : i.Follows d n segments format (.config a) m := by
  obtain ⟨k, hstore, hnetwork, hrun⟩ := run_eq (d := d) (n := n) h.spelled
  have hfolder : (a.run i.surroundings ⟨false, format⟩ (i.config d) k).2.store.at? (destination [] segments) ≠
      some .folder := by
    have hafter := Storage.at?_ne_folder_of_saveFile (h.writable_after .empty)
    rw [h.file, hrun] at hafter
    exact hafter
  obtain ⟨hshows, hquiet⟩ := a.run_shows (hstore ▸ hm) h.destination_ne hfolder
  rw [hnetwork] at hquiet
  refine ⟨?_, ⟨[], ?_, fun r hr => by cases hr⟩, fun view hv => (by cases hv), fun hc => (by cases hc)⟩
  · rw [hrun]
    exact hshows
  · rw [hrun, List.append_nil]
    exact congrArg Network.received hquiet

theorem render_eq_showActive (screen : Screen) (v : Visit) : render screen v v.router.active = v.showActive screen := by
  unfold render Visit.showActive
  funext k
  cases v.router.active <;> rfl

theorem run_visit {a : Action} (h : i.Begins d segments format (.visit a)) (hm : SessionFile.Shows segments d m) :
    ∃ v k, v.session = ⟨state m, Storage.file i.surroundings.place (i.path d)⟩ ∧ v.router.active = (state m).view ∧
      k.store = d ∧ k.network = n ∧ i.run d n = i.finish d (a.run ⟨false, format⟩ v k) := by
  obtain ⟨k, hstore, hnetwork, hrun⟩ := run_eq (d := d) (n := n) h.spelled
  have hspeak := (Storage.saveFile_ok (h.writable .empty)).1
  rw [← hstore, ← h.file] at hm
  obtain ⟨v, k₁, hstart, hsession, hactive, hstore₁, hnetwork₁⟩ :=
    Visit.start_shows (s := i.surroundings) (c := i.config d) rfl hspeak hm
  refine ⟨v, k₁, hsession, hactive, hstore₁.trans hstore, hnetwork₁.trans hnetwork, ?_⟩
  rw [hrun]
  unfold Command.run
  dsimp only
  rw [hstart]

/-- **An action that stays where it is** begins with what the file shows. -/
theorem follows_staying {a : Action} (h : i.Begins d segments format (.visit a)) (hm : SessionFile.Shows segments d m)
    (hpage : a.destination? = none) : i.Follows d n segments format (.visit a) m := by
  obtain ⟨v, k, hsession, hactive, hstore, hnetwork, hrun⟩ := run_visit h hm
  have hturn : page? (.visit a) = none := (SessionMachine.page?_visit a).trans hpage
  have hm' : turn m (.visit a) = m := by unfold turn; rw [hturn]
  unfold Action.run at hrun
  rw [hpage] at hrun
  rw [← hstore, ← h.file] at hm
  obtain ⟨hshows, hsends⟩ := act_shows ⟨false, format⟩ hsession
    (fun s => by rw [hstore]; exact h.writable s) hm a
  rw [h.file, hnetwork] at hshows
  rw [hnetwork] at hsends
  refine ⟨?_, ?_, fun view hv => ?_, fun hc => ?_⟩
  · unfold next
    rw [hrun, hm']
    exact hshows
  · rw [hrun]
    exact hsends
  · rw [hturn] at hv
    cases hv
  · cases hc
    refine ⟨v, k, hactive, by rw [hsession], hstore, hnetwork, ?_⟩
    have hrender := congrFun (render_eq_showActive ⟨false, format⟩ v) k
    rw [hactive] at hrender
    exact hrun.trans (congrArg (i.finish d) hrender.symm)

/-- **An action with a page** turns to it, and acts when the file shows it. -/
theorem follows_turning {a : Action} {view : ViewName} (h : i.Begins d segments format (.visit a))
    (hm : SessionFile.Shows segments d m) (hpage : a.destination? = some view) :
    i.Follows d n segments format (.visit a) m := by
  obtain ⟨v, k, hsession, -, hstore, hnetwork, hrun⟩ := run_visit h hm
  have hturn : page? (.visit a) = some view := (SessionMachine.page?_visit a).trans hpage
  have hm' : turn m (.visit a) = some { state m with page := some view } := by unfold turn; rw [hturn]
  have hwritable := h.writable { state m with page := some view }
  obtain ⟨hspeak, hholds⟩ := Storage.saveFile_ok hwritable
  have hturned := SessionFile.Shows.of_save hwritable
  have hsave : v.session.storage.save (v.session.state.apply (.setView view)) k.store =
      (.ok (), (Storage.saveFile i.surroundings.place (i.path d) { state m with page := some view } d).2) := by
    rw [hsession, hstore]
    exact Storage.save_file hwritable
  obtain ⟨v', k', hgo, -, hsession', hactive', hstore', hnetwork'⟩ := Visit.goTo_ok hsave
  rw [hsession] at hsession'
  rw [hnetwork] at hnetwork'
  unfold Action.run at hrun
  rw [hpage] at hrun
  dsimp only at hrun
  rw [hgo] at hrun
  rw [← hstore'] at hholds hturned
  -- the file was just written, so a login that follows can write it again
  obtain ⟨hshows, hsends⟩ := act_shows (m := some { state m with page := some view }) ⟨false, format⟩ hsession'
    (Storage.saveFile_of_holds hspeak hholds) hturned a
  rw [h.file, hnetwork'] at hshows
  rw [hnetwork'] at hsends
  rw [h.file] at hturned
  refine ⟨?_, ?_, fun view' hv => ?_, fun hc => ?_⟩
  · unfold next
    rw [hrun, hm']
    exact hshows
  · rw [hrun]
    exact hsends
  · rw [hturn] at hv
    cases hv
    exact ⟨a, v', k', rfl, hactive', by rw [hsession']; rfl, hnetwork', hturned, hrun⟩
  · cases hc
    cases hpage

theorem follows_visit {a : Action} (h : i.Begins d segments format (.visit a)) (hm : SessionFile.Shows segments d m) :
    i.Follows d n segments format (.visit a) m := by
  cases hpage : a.destination? with
  | none => exact follows_staying h hm hpage
  | some view => exact follows_turning h hm hpage

/-- **Every run** acts by the machine. -/
theorem follows (h : i.Shares d n segments format command) (hm : SessionFile.Shows segments d m) :
    i.Follows d n segments format command m := by
  cases command with
  | config a => exact follows_config h hm
  | visit a => exact follows_visit h.toBegins hm

theorem Begins.shares {a : Action} {s : SessionState} (h : i.Begins d segments format (.visit a))
    (hm : SessionFile.Shows segments d m)
    (hs : next m (.visit a) (earned? n (i.run d n).2.network) = some s) :
    i.Shares d n segments format (.visit a) := by
  have hshows := (follows_visit (n := n) h hm).shows
  rw [hs, ← h.file] at hshows
  obtain ⟨text, hholds, -⟩ := hshows
  exact ⟨h, Storage.saveFile_of_holds (Storage.saveFile_ok (h.writable .empty)).1 hholds⟩

end Invocation

/-! ## Any number of runs -/

/-- From `d` to `d'` the place that the segments lead to stays as it is, and so does an open way to it. -/
structure Untouched (segments : List String) (d d' : Disk) : Prop where
  place : d'.at? (destination [] segments) = d.at? (destination [] segments)
  way : ∀ p, d.follow [] segments = .ok p → d'.follow [] segments = .ok p

/-- The disks that runs in one session come to from one without its file, with the state of the machine. -/
inductive Reached (segments : List String) : Disk → Option SessionState → Prop
  | start {d : Disk} (absent : d.at? (destination [] segments) = none) : Reached segments d none
  | elsewhere {d d' : Disk} {m : Option SessionState} (before : Reached segments d m)
      (untouched : Untouched segments d d') : Reached segments d' m
  | run {d : Disk} {m : Option SessionState} {i : Invocation} {n : Network} {format : Format} {command : Command}
      (before : Reached segments d m) (shares : i.Shares d n segments format command) :
      Reached segments (i.run d n).2.store (next m command (earned? n (i.run d n).2.network))

variable {segments : List String} {d d' : Disk} {m : Option SessionState}

theorem Untouched.shows (h : Untouched segments d d') (hm : SessionFile.Shows segments d m) :
    SessionFile.Shows segments d' m := by
  cases m with
  | none => exact h.place.trans hm
  | some s =>
    obtain ⟨text, ⟨hway, mode, hfile⟩, hread⟩ := hm
    exact ⟨text, ⟨h.way _ hway, mode, h.place.trans hfile⟩, hread⟩

theorem Reached.shows (h : Reached segments d m) : SessionFile.Shows segments d m := by
  induction h with
  | start absent => exact absent
  | elsewhere _ untouched ih => exact untouched.shows ih
  | run _ shares ih => exact (Invocation.follows shares ih).shows

/-! ### Two runs -/

namespace Invocation

def atHome (words : List String) : Invocation := ⟨⟨"/home/me", "/home/me", []⟩, words⟩

def login : Invocation := atHome ["login", "--email", "me@home", "--password", "secret"]

def agents : Invocation := atHome ["agents"]

/-- A service that grants a token and is not there afterwards. -/
def granting : Network := ⟨[.answered ⟨200, "OK", "\x7b\"token\": \"abc\"\x7d".toUTF8⟩], .refused, []⟩

def loggedIn : Disk := (login.run .empty granting).2.store

end Invocation

end CalcConsole
