import CalcConsole.Proofs.Session.Reloads
/-! # Saves that fail

A change is made in memory before it is saved, so the two part when a save fails and meet again at the next one that
goes through.  What a storage opens as is at all times the state in memory after the last change that was saved, and
that state holds the effect of the unsaved changes before it as well. -/
namespace CalcConsole

namespace Storage

variable {σ : Type}

/-- A save that goes through is what the storage opens as, and one that fails leaves what it opens as. -/
structure Durable (storage : Storage σ) : Prop where
  saved : ∀ s store, (storage.save s store).1 = .ok () → storage.opens (storage.save s store).2 = s
  steady : storage.Steady

theorem durable_file (cwd : Place) (path : String) : (file cwd path).Durable := by
  refine ⟨fun s d h => ?_, steady_file cwd path⟩
  rw [save_file_eq] at h ⊢
  obtain ⟨hs, hholds⟩ := saveFile_ok h
  have hload : loadFile cwd path (saveFile cwd path s d).2 = (.ok s, []) := by
    unfold loadFile
    rw [hholds.readText hs]
    dsimp only
    rw [s.read_render]
    rfl
  unfold opens file
  dsimp only
  rw [hload]
  rfl

/-- A storage whose saves fail as a list says: each save takes one item, and fails with the error in it, if there is
one. -/
def faulty (storage : Storage σ) : Storage (σ × List (Option SessionError)) where
  location := storage.location
  load t := storage.load t.1
  save state t :=
    match t.2.head?.join with
    | some e => (.error e, t.1, t.2.tail)
    | none =>
      let (r, store) := storage.save state t.1
      (r, store, t.2.tail)

theorem save_faulty (storage : Storage σ) (s : SessionState) (t : σ × List (Option SessionError)) :
    storage.faulty.save s t = match t.2.head?.join with
      | some e => (.error e, t.1, t.2.tail)
      | none => ((storage.save s t.1).1, (storage.save s t.1).2, t.2.tail) := rfl

/-- **Faults at any step** do no harm to a storage that is durable without them. -/
theorem Durable.faulty {storage : Storage σ} (h : storage.Durable) : storage.faulty.Durable := by
  refine ⟨fun s t hsave => ?_, fun s t e hsave => ?_⟩
  · rw [save_faulty] at hsave ⊢
    cases hfault : t.2.head?.join with
    | some e =>
      rw [hfault] at hsave
      cases hsave
    | none =>
      rw [hfault] at hsave
      exact h.saved s t.1 hsave
  · rw [save_faulty] at hsave ⊢
    cases hfault : t.2.head?.join with
    | some e => rfl
    | none =>
      rw [hfault] at hsave
      exact h.steady s t.1 e hsave

end Storage

namespace SessionState

/-! ## What a change overwrites -/

@[reducible] def Field.Kept : Field → Type
  | .page => Option ViewName
  | .token => Option Token

def get (s : SessionState) : (f : Field) → f.Kept
  | .page => s.page
  | .token => s.token

def Change.overwrites : Change → Field → Bool
  | .setView _, .page | .setToken _, .token | .clearToken, .token | .clear, _ => true
  | .setView _, .token | .setToken _, .page | .clearToken, .page => false

theorem get_apply (s : SessionState) (c : Change) (f : Field) :
    (s.apply c).get f = if c.overwrites f then (empty.apply c).get f else s.get f := by
  cases c <;> cases f <;> rfl

theorem get_foldl_apply {cs : List Change} {f : Field} (h : ∀ c ∈ cs, c.overwrites f = false) (s : SessionState) :
    (cs.foldl apply s).get f = s.get f := by
  induction cs generalizing s with
  | nil => rfl
  | cons c cs ih =>
    obtain ⟨hc, hcs⟩ := List.forall_mem_cons.mp h
    rw [List.foldl_cons, ih hcs, get_apply, hc]
    rfl

end SessionState

namespace Session

open SessionState (Change Field)

variable {σ : Type} {storage : Storage σ} {k : Console σ} {cs : List Change}

/-- A new session over a storage, and the changes that are made in it. -/
def changed (storage : Storage σ) (k : Console σ) (cs : List Change) : Session σ × Console σ :=
  uses storage k (cs.map .change)

theorem changed_concat (storage : Storage σ) (k : Console σ) (cs : List Change) (c : Change) :
    changed storage k (cs ++ [c]) = use (changed storage k cs) (.change c) := by
  unfold changed
  rw [List.map_append, List.map_singleton, uses_append]

def answer (p : Session σ × Console σ) (c : Change) : Except SessionError Unit := (p.1.change c p.2).1

/-- **In memory** every change has been made. -/
theorem changed_fst (storage : Storage σ) (k : Console σ) (cs : List Change) :
    (changed storage k cs).1 = ⟨cs.foldl SessionState.apply (storage.opens k.store), storage⟩ := by
  induction cs using List.reverseRecOn with
  | nil => exact Session.open_fst storage k
  | append_singleton cs c ih =>
    rw [changed_concat, List.foldl_append]
    show (⟨(changed storage k cs).1.state.apply c, (changed storage k cs).1.storage⟩ : Session σ) = _
    rw [ih]
    rfl

theorem storage_changed (storage : Storage σ) (k : Console σ) (cs : List Change) :
    (changed storage k cs).1.storage = storage := storage_uses storage k _

/-! ## One change -/

theorem opens_of_saved (h : storage.Durable) {c : Change} (hc : answer (changed storage k cs) c = .ok ()) :
    storage.opens (changed storage k (cs ++ [c])).2.store = (changed storage k (cs ++ [c])).1.state := by
  have hstorage := storage_changed storage k cs
  rw [changed_concat]
  unfold answer at hc
  unfold use change at *
  dsimp only at hc ⊢
  rw [hstorage] at hc ⊢
  exact h.saved _ _ hc

theorem opens_of_unsaved (h : storage.Durable) {c : Change} {e : SessionError}
    (hc : answer (changed storage k cs) c = .error e) :
    storage.opens (changed storage k (cs ++ [c])).2.store = storage.opens (changed storage k cs).2.store := by
  have hstorage := storage_changed storage k cs
  rw [changed_concat]
  unfold answer at hc
  unfold use change at *
  dsimp only at hc ⊢
  rw [hstorage] at hc ⊢
  exact h.steady _ _ e hc

/-! ## Many changes -/

/-- Nothing has been changed, or the last change was saved. -/
def InStep (storage : Storage σ) (k : Console σ) (cs : List Change) : Prop :=
  cs = [] ∨ ∃ before c, cs = before ++ [c] ∧ answer (changed storage k before) c = .ok ()

/-- None of the changes in `more`, made after those in `cs`, was saved. -/
def Unsaved (storage : Storage σ) (k : Console σ) (cs more : List Change) : Prop :=
  ∀ before c behind, more = before ++ c :: behind → ∃ e, answer (changed storage k (cs ++ before)) c = .error e

theorem Unsaved.concat {more : List Change} (h : Unsaved storage k cs more) {c : Change} {e : SessionError}
    (hc : answer (changed storage k (cs ++ more)) c = .error e) : Unsaved storage k cs (more ++ [c]) := by
  intro before c' behind heq
  rcases List.eq_nil_or_concat behind with rfl | ⟨behind, x, rfl⟩
  · obtain ⟨rfl, hlast⟩ := List.append_inj' heq rfl
    cases hlast
    exact ⟨e, hc⟩
  · have heq' : more ++ [c] = (before ++ c' :: behind) ++ [x] := by simpa using heq
    exact h before c' behind (List.append_inj' heq' rfl).1

theorem opens_of_inStep (h : storage.Durable) (hcs : InStep storage k cs) :
    storage.opens (changed storage k cs).2.store = (changed storage k cs).1.state := by
  rcases hcs with rfl | ⟨before, c, rfl, hc⟩
  · have hstore : (changed storage k []).2.store = k.store := (Session.open_quiet storage k).2.1
    rw [hstore, changed_fst]
    rfl
  · exact opens_of_saved h hc

/-- **The storage opens as** the state in memory after the last change that was saved. -/
theorem exists_inStep (h : storage.Durable) (k : Console σ) (cs : List Change) : ∃ saved more,
    cs = saved ++ more ∧ InStep storage k saved ∧ Unsaved storage k saved more ∧
      storage.opens (changed storage k cs).2.store = (changed storage k saved).1.state := by
  induction cs using List.reverseRecOn with
  | nil => exact ⟨[], [], rfl, .inl rfl, fun before c behind heq => by simp at heq, opens_of_inStep h (.inl rfl)⟩
  | append_singleton cs c ih =>
    cases hc : answer (changed storage k cs) c with
    | ok u =>
      have hstep : InStep storage k (cs ++ [c]) := .inr ⟨cs, c, rfl, hc⟩
      exact ⟨cs ++ [c], [], by simp, hstep, fun before c' behind heq => by simp at heq, opens_of_inStep h hstep⟩
    | error e =>
      obtain ⟨saved, more, rfl, hstep, hunsaved, hopens⟩ := ih
      refine ⟨saved, more ++ [c], by simp, hstep, hunsaved.concat hc, ?_⟩
      rw [opens_of_unsaved h hc, hopens]

/-- **Saves that fail.**  Over a durable storage and after any changes: one more change that is saved leaves the storage
opening as the state in memory, and one that is not leaves it opening as before; what it opens as is the state in memory
after the last change that was saved, or the one that was first opened; and right after a change was saved, it has the
effect of each change since the opening, saved or not, that no later one has overwritten. -/
theorem reopens_as_last_saved (h : storage.Durable) (k : Console σ) (cs : List Change) :
    (∀ c, match answer (changed storage k cs) c with
      | .ok _ => storage.opens (changed storage k (cs ++ [c])).2.store = (changed storage k (cs ++ [c])).1.state
      | .error _ =>
        storage.opens (changed storage k (cs ++ [c])).2.store = storage.opens (changed storage k cs).2.store) ∧
    (∃ saved more, cs = saved ++ more ∧ InStep storage k saved ∧ Unsaved storage k saved more ∧
      (Session.«open» storage (changed storage k cs).2).1.state = (changed storage k saved).1.state) ∧
    (InStep storage k cs → ∀ before c behind, cs = before ++ c :: behind → ∀ f : Field, c.overwrites f = true →
      (∀ c' ∈ behind, c'.overwrites f = false) →
      (Session.«open» storage (changed storage k cs).2).1.state.get f = (SessionState.empty.apply c).get f) := by
  rw [Session.open_fst]
  dsimp only
  refine ⟨fun c => ?_, exists_inStep h k cs, fun hstep before c behind hcs f hc hbehind => ?_⟩
  · cases hc : answer (changed storage k cs) c with
    | ok u => exact opens_of_saved h hc
    | error e => exact opens_of_unsaved h hc
  · rw [opens_of_inStep h hstep, changed_fst, hcs, List.foldl_append, List.foldl_cons]
    dsimp only
    rw [SessionState.get_foldl_apply hbehind, SessionState.get_apply, hc]
    rfl

/-! ### A file that cannot be written for a while -/

/-- The file of a session, of which the second and the third save fail. -/
def twoFaults : Console (Disk × List (Option SessionError)) :=
  ⟨(emptyHome, [none, some ⟨"sessions/default.json", .notFolder⟩, some ⟨"sessions/default.json", .notFolder⟩]),
    ⟨[], .refused, []⟩, []⟩

def fourChanges : List Change := [.setToken ⟨"a"⟩, .setView .agents, .setToken ⟨"b"⟩, .setView .operations]

theorem reopens_as_last_saved_after_faults :
    let storage := (Storage.file ["home"] "sessions/default.json").faulty
    storage.Durable ∧ InStep storage twoFaults fourChanges ∧
      (answer (changed storage twoFaults [.setToken ⟨"a"⟩, .setView .agents]) (.setToken ⟨"b"⟩)).isOk = false ∧
      (Session.«open» storage (changed storage twoFaults fourChanges).2).1.state.get .token = some ⟨"b"⟩ := by
  intro storage
  have hdurable : storage.Durable := (Storage.durable_file _ _).faulty
  have hstep : InStep storage twoFaults fourChanges :=
    .inr ⟨[.setToken ⟨"a"⟩, .setView .agents, .setToken ⟨"b"⟩], .setView .operations, rfl, by decide +kernel⟩
  obtain ⟨-, -, hkeeps⟩ := reopens_as_last_saved hdurable twoFaults fourChanges
  exact ⟨hdurable, hstep, by decide +kernel,
    hkeeps hstep [.setToken ⟨"a"⟩, .setView .agents] (.setToken ⟨"b"⟩) [.setView .operations] rfl .token rfl (by simp [Change.overwrites])⟩

end Session
end CalcConsole
