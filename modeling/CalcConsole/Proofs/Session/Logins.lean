import CalcConsole.Proofs.Command.Machine
/-! # Logins that fail

A login that fails leaves the page of the session, and all that its storage keeps.  It leaves the token too, unless the
service has granted one: the granted token is put into the session before it is saved, and stays there when it could not
be saved. -/
namespace CalcConsole
namespace Client

open SessionMachine

variable {σ : Type} {c : Client} {credentials : Credentials} {s s' : Session σ} {k k' : Console σ} {e : ServiceError}

theorem login_error_cases (h : c.login credentials s k = (.error e, s', k')) :
    (s' = s ∧ k'.store = k.store ∧ earned? k.network k'.network = none ∧ ∀ cause, e ≠ .session cause) ∨
    ∃ t cause store, s.storage.save (s.state.apply (.setToken t)) k.store = (.error cause, store) ∧
      s' = ⟨s.state.apply (.setToken t), s.storage⟩ ∧ k'.store = store ∧
      earned? k.network k'.network = some t ∧ e = .session cause := by
  have hearned := c.toOption_call_login "/login" s.token (some credentials.json) k
  have hstore := c.store_call "POST" "/login" s.token (some credentials.json) Account.decodeLogin k
  have hkind := c.call_ne_session "POST" "/login" s.token (some credentials.json) Account.decodeLogin k
  unfold login at h
  generalize c.call "POST" "/login" s.token (some credentials.json) Account.decodeLogin k = p at h hearned hstore hkind
  obtain ⟨r, k₁⟩ := p
  dsimp only at h hearned hstore hkind
  cases r with
  | error e₁ =>
    cases h
    exact .inl ⟨rfl, hstore, hearned.symm, fun cause he => hkind cause (congrArg Except.error he)⟩
  | ok t =>
    rcases hsave : s.storage.save (s.state.apply (.setToken t)) k.store with ⟨r, store⟩
    dsimp only at h
    rw [Session.change_of_save (hstore.symm ▸ hsave)] at h
    cases r with
    | ok u => cases h
    | error cause =>
      cases h
      exact .inr ⟨t, cause, store, hsave, rfl, rfl, hearned.symm, rfl⟩

/-- **A failed login** leaves the view, the storage and what it opens as.  The token is the one from before, unless the
service has granted another; it has not where the failure is any but that of the save, and then nothing at all is
changed. -/
theorem failed_login_keeps (hs : s.storage.Steady) (h : c.login credentials s k = (.error e, s', k')) :
    s'.view = s.view ∧ s'.storage = s.storage ∧ s.storage.opens k'.store = s.storage.opens k.store ∧
    s'.token = (earned? k.network k'.network).or s.token ∧
    (s' = s ↔ ∀ t, earned? k.network k'.network = some t → s.token = some t) ∧
    ((∀ cause, e ≠ .session cause) → s' = s ∧ k'.store = k.store) := by
  rcases login_error_cases h with ⟨rfl, hstore, hearned, -⟩ | ⟨t, cause, store, hsave, rfl, rfl, hearned, rfl⟩
  · rw [hearned, hstore]
    exact ⟨rfl, rfl, rfl, rfl, ⟨fun _ t ht => (by cases ht), fun _ => rfl⟩, fun _ => ⟨rfl, rfl⟩⟩
  · have hopens := hs (s.state.apply (.setToken t)) k.store cause (by rw [hsave])
    rw [hsave] at hopens
    rw [hearned]
    refine ⟨rfl, rfl, hopens, rfl, ⟨fun hsame t' ht' => ?_, fun hsame => ?_⟩, fun hcause => absurd rfl (hcause cause)⟩
    · -- the state of the session holds the granted token
      cases ht'
      have htoken := congrArg Session.token hsame
      exact htoken.symm
    · have htoken : s.state.token = some t := hsame t rfl
      have hstate : s.state.apply (.setToken t) = s.state := by
        show (⟨s.state.page, some t⟩ : SessionState) = s.state
        rw [← htoken]
      rw [hstate]

/-! ### A token that could not be saved -/

/-- A session whose file would stand below a plain file. -/
def misplaced : Session Disk := ⟨.empty, Storage.file [] "/notes/session.json"⟩

def granting : Console Disk :=
  ⟨Disk.empty.put ["notes"] (.file "x".toUTF8 0o644),
    ⟨[.answered ⟨200, "OK", "\x7b\"token\": \"abc\"\x7d".toUTF8⟩], .refused, []⟩, []⟩

def caller : Client := make "http://localhost:3000/v1" 10000

def me : Credentials := ⟨"me@home", "secret"⟩

theorem fails_misplaced : (caller.login me misplaced granting).1.isOk = false := by decide +kernel

theorem failed_login_keeps_misplaced : misplaced.storage.Steady ∧ (caller.login me misplaced granting).1.isOk = false ∧
    (caller.login me misplaced granting).2.1.view = misplaced.view ∧
    misplaced.storage.opens (caller.login me misplaced granting).2.2.store =
      misplaced.storage.opens granting.store := by
  have hs : misplaced.storage.Steady := Storage.steady_file _ _
  have hfails := fails_misplaced
  rcases hp : caller.login me misplaced granting with ⟨r, s', k'⟩
  rw [hp] at hfails
  cases r with
  | ok t => cases hfails
  | error e =>
    obtain ⟨hview, -, hopens, -⟩ := failed_login_keeps hs hp
    exact ⟨hs, rfl, hview, hopens⟩

theorem failed_login_changes_token :
    (caller.login me misplaced granting).1.isOk = false ∧ misplaced.token = none ∧
    (caller.login me misplaced granting).2.1.token = some ⟨"abc"⟩ := by
  decide +kernel

end Client
end CalcConsole
