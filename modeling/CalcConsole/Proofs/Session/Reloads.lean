import Mathlib.Data.List.Induction
import CalcConsole.Proofs.Command.Machine
/-! # Reloads

A session over a file and a session over a slot of memory, used alike.  What the slot keeps and what the text of the
file says are one and the same state (`Keeps`), so the two sessions give the same answers, and to open either anew
changes nothing. -/
namespace CalcConsole

open Disk (absolute destination)

namespace Session

variable {σ : Type}

inductive Use where
  | change (c : SessionState.Change)
  | reload

def use (p : Session σ × Console σ) : Use → Session σ × Console σ
  | .change c => (p.1.change c p.2).2
  | .reload => Session.«open» p.1.storage p.2

/-- A new session over a storage, and all that is done with it. -/
def uses (storage : Storage σ) (k : Console σ) (us : List Use) : Session σ × Console σ :=
  us.foldl use (Session.«open» storage k)

theorem uses_append (storage : Storage σ) (k : Console σ) (us : List Use) (u : Use) :
    uses storage k (us ++ [u]) = use (uses storage k us) u := by
  unfold uses
  rw [List.foldl_append]
  rfl

theorem storage_uses {σ : Type} (storage : Storage σ) (k : Console σ) (us : List Use) :
    (uses storage k us).1.storage = storage := by
  induction us using List.reverseRecOn with
  | nil => exact (Session.open_quiet storage k).1
  | append_singleton us u ih =>
    rw [uses_append]
    cases u with
    | change c => exact ih
    | reload => exact (Session.open_quiet _ _).1.trans ih

end Session

/-- The file that the segments lead to: missing as long as no state was saved, and then private with a text that reads
as the state. -/
def SessionFile.Keeps (segments : List String) (d : Disk) : Option SessionState → Prop
  | none => d.at? (destination [] segments) = none
  | some s => ∃ text : String, d.Holds segments text.toUTF8 ∧
      d.at? (destination [] segments) = some (.file text.toUTF8 Storage.privateMode) ∧
      SessionState.read text = (.ok s, none)

theorem SessionFile.Keeps.shows {segments : List String} {d : Disk} {m : Option SessionState}
    (h : Keeps segments d m) : Shows segments d m := by
  cases m with
  | none => exact h
  | some s =>
    obtain ⟨text, hholds, -, hread⟩ := h
    exact ⟨text, hholds, hread⟩

section

variable {cwd : Place} {path : String}

/-- **A save in a file** goes through wherever the path can be written, and leaves the file private. -/
theorem Storage.saveFile_of_writable {d : Disk} (h : d.Writable cwd path) (s : SessionState) :
    ∃ d', saveFile cwd path s d = (.ok (), d') ∧ SessionFile.Keeps (absolute cwd path) d' (some s) ∧
      d'.Writable cwd path := by
  obtain ⟨d₁, mode, -, hp, hw, hholds, hat, hmode⟩ := h.written s.render.toUTF8 privateMode (some privateMode)
  have hm : mode = privateMode := hmode _ rfl
  subst hm
  refine ⟨_, ?_, ⟨s.render, hholds, hat, s.read_render⟩, hholds.writable h.speakable⟩
  unfold saveFile
  rw [hp]
  dsimp only
  rw [hw]

namespace Session

/-- A session over the file and one over memory, after the same uses: `m` is what both have kept. -/
structure Alike (cwd : Place) (path : String) (m : Option SessionState) (f : Session Disk × Console Disk)
    (s : Session (Option SessionState) × Console (Option SessionState)) : Prop where
  file : f.1 = ⟨SessionMachine.state m, Storage.file cwd path⟩
  memory : s.1 = ⟨SessionMachine.state m, Storage.memory⟩
  writable : f.2.store.Writable cwd path
  keeps : SessionFile.Keeps (absolute cwd path) f.2.store m
  slot : s.2.store = m

variable {m : Option SessionState} {f : Session Disk × Console Disk}
  {s : Session (Option SessionState) × Console (Option SessionState)}

theorem alike_open {k : Console Disk} {k' : Console (Option SessionState)} (hw : k.store.Writable cwd path)
    (hm : SessionFile.Keeps (absolute cwd path) k.store m) (hslot : k'.store = m) :
    Alike cwd path m (Session.«open» (Storage.file cwd path) k) (Session.«open» Storage.memory k') := by
  obtain ⟨k₁, hopen, hstore, -⟩ := Session.open_shows hw.speakable hm.shows
  have hmemory : Session.«open» Storage.memory k' = (⟨SessionMachine.state m, Storage.memory⟩, k') := by
    unfold Session.«open» Storage.memory SessionMachine.state
    rw [← hslot]
    rfl
  rw [hopen, hmemory]
  exact ⟨rfl, rfl, by rw [hstore]; exact hw, by rw [hstore]; exact hm, hslot⟩

theorem Alike.changed (h : Alike cwd path m f s) (c : SessionState.Change) :
    (f.1.change c f.2).1 = .ok () ∧ (s.1.change c s.2).1 = .ok () ∧
      Alike cwd path (some ((SessionMachine.state m).apply c)) (use f (.change c)) (use s (.change c)) := by
  obtain ⟨d, hsave, hkeeps, hwritable⟩ := Storage.saveFile_of_writable h.writable ((SessionMachine.state m).apply c)
  have hfile : f.1.storage.save (f.1.state.apply c) f.2.store = (.ok (), d) := by
    rw [h.file]
    exact hsave
  have hmemory : s.1.storage.save (s.1.state.apply c) s.2.store = (.ok (), some ((SessionMachine.state m).apply c)) := by
    rw [h.memory]
    rfl
  unfold use
  dsimp only
  rw [Session.change_of_save hfile, Session.change_of_save hmemory]
  exact ⟨rfl, rfl, by rw [h.file]; rfl, by rw [h.memory]; rfl, hwritable, hkeeps, rfl⟩

theorem Alike.reloaded (h : Alike cwd path m f s) : Alike cwd path m (use f .reload) (use s .reload) := by
  unfold use
  dsimp only
  rw [h.file, h.memory]
  exact alike_open h.writable h.keeps h.slot

/-- **After the same uses** both have kept one state, which is there as soon as something was changed. -/
theorem alike_uses {k : Console Disk} {k' : Console (Option SessionState)} (hw : k.store.Writable cwd path)
    (habsent : k.store.at? (destination [] (absolute cwd path)) = none) (hslot : k'.store = none) (us : List Use) :
    ∃ m, Alike cwd path m (uses (Storage.file cwd path) k us) (uses Storage.memory k' us) ∧
      ((∃ c, .change c ∈ us) → m.isSome) := by
  induction us using List.reverseRecOn with
  | nil =>
    have hkeeps : SessionFile.Keeps (absolute cwd path) k.store none := habsent
    exact ⟨none, alike_open hw hkeeps hslot, fun ⟨c, hc⟩ => by cases hc⟩
  | append_singleton us u ih =>
    obtain ⟨m, halike, hsome⟩ := ih
    rw [uses_append, uses_append]
    cases u with
    | change c => exact ⟨_, (halike.changed c).2.2, fun _ => rfl⟩
    | reload =>
      refine ⟨m, halike.reloaded, fun ⟨c, hc⟩ => hsome ⟨c, ?_⟩⟩
      rcases List.mem_append.mp hc with hc | hc
      · exact hc
      · cases List.mem_singleton.mp hc

/-- **A file answers as memory does.**  Over a path that can be written and has no file at first, a session gives the
same answers as one over memory, after any changes and reloads: every change is saved by both, a reload of either
brings back the state from before it, and once something was changed the file is private and its text reads as the
state. -/
theorem file_answers_as_memory {k : Console Disk} {k' : Console (Option SessionState)}
    (hw : k.store.Writable cwd path) (habsent : k.store.at? (destination [] (absolute cwd path)) = none)
    (hslot : k'.store = none) (us : List Use) :
    let f := uses (Storage.file cwd path) k us
    let s := uses Storage.memory k' us
    (f.1.view = s.1.view ∧ f.1.token = s.1.token ∧ f.1.state.isAuthenticated = s.1.state.isAuthenticated) ∧
    (∀ c, (f.1.change c f.2).1 = .ok () ∧ (s.1.change c s.2).1 = .ok ()) ∧
    ((use f .reload).1.state = f.1.state ∧ (use s .reload).1.state = s.1.state) ∧
    ((∃ c, .change c ∈ us) → ∃ text : String, f.2.store.readText cwd path = .ok text ∧
      f.2.store.at? (destination [] (absolute cwd path)) = some (.file text.toUTF8 0o600) ∧
      SessionState.read text = (.ok f.1.state, none)) := by
  intro f s
  obtain ⟨m, h, hsome⟩ := alike_uses hw habsent hslot us
  have hstate : f.1.state = SessionMachine.state m := congrArg Session.state h.file
  have hstate' : s.1.state = SessionMachine.state m := congrArg Session.state h.memory
  refine ⟨?_, fun c => ⟨(h.changed c).1, (h.changed c).2.1⟩, ?_, fun hc => ?_⟩
  · unfold Session.view Session.token
    rw [hstate, hstate']
    exact ⟨rfl, rfl, rfl⟩
  · have hfile : (use f .reload).1.state = SessionMachine.state m := congrArg Session.state h.reloaded.file
    have hmemory : (use s .reload).1.state = SessionMachine.state m := congrArg Session.state h.reloaded.memory
    rw [hfile, hmemory, hstate, hstate']
    exact ⟨rfl, rfl⟩
  · obtain ⟨kept, rfl⟩ := Option.isSome_iff_exists.mp (hsome hc)
    obtain ⟨text, hholds, hat, hread⟩ := h.keeps
    exact ⟨text, hholds.readText h.writable.speakable, hat, by rw [hread, hstate]; rfl⟩

/-! ### A token that needs escapes -/

def emptyHome : Disk := ⟨[(["home"], .folder)]⟩

theorem writable_emptyHome : emptyHome.Writable ["home"] "sessions/default.json" :=
  ⟨emptyHome.put ["home", "sessions"] .folder, by rfl, by rfl, by
    have hat : (emptyHome.put ["home", "sessions"] .folder).at?
        (destination [] (absolute ["home"] "sessions/default.json")) = none := by rfl
    rw [hat]
    simp⟩

def escapes : List Use :=
  [.change (.setToken ⟨"\"\\\n\x01\x7f"⟩), .change (.setView .agents), .reload, .change .clearToken]

theorem file_answers_as_memory_escapes :
    let f := uses (Storage.file ["home"] "sessions/default.json") ⟨emptyHome, ⟨[], .refused, []⟩, []⟩ escapes
    let s := uses Storage.memory ⟨none, ⟨[], .refused, []⟩, []⟩ escapes
    emptyHome.Writable ["home"] "sessions/default.json" ∧
      (f.1.view = s.1.view ∧ f.1.token = s.1.token ∧ f.1.state.isAuthenticated = s.1.state.isAuthenticated) ∧
      ∃ text : String, f.2.store.readText ["home"] "sessions/default.json" = .ok text ∧
        f.2.store.at? ["home", "sessions", "default.json"] = some (.file text.toUTF8 0o600) ∧
        SessionState.read text = (.ok f.1.state, none) := by
  have hslot : (⟨none, ⟨[], .refused, []⟩, []⟩ : Console (Option SessionState)).store = none := rfl
  obtain ⟨hanswers, -, -, hfile⟩ := file_answers_as_memory (k := ⟨emptyHome, ⟨[], .refused, []⟩, []⟩)
    writable_emptyHome (by rfl) hslot escapes
  exact ⟨writable_emptyHome, hanswers, hfile ⟨.clearToken, by simp [escapes]⟩⟩

end Session
end

end CalcConsole
