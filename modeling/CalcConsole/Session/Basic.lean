import CalcConsole.Console
import CalcConsole.Session.Storage
/-! # Sessions

A session in use: its state in memory and the storage behind it.  Every change is made in memory first and then saved
as a whole; a change that could not be saved stays in memory. -/
namespace CalcConsole

structure Session (σ : Type) where
  state : SessionState
  storage : Storage σ

namespace Session

variable {σ : Type}

/-- Opens what the storage keeps; a storage that cannot be read gives an empty session. -/
def «open» (storage : Storage σ) (k : Console σ) : Session σ × Console σ :=
  match storage.load k.store with
  | (.ok state, events) => (⟨state, storage⟩, k.noteAll events)
  | (.error e, events) => (⟨.empty, storage⟩, (k.noteAll events).note (.emptySession e.message))

def change (s : Session σ) (c : SessionState.Change) (k : Console σ) :
    Except SessionError Unit × Session σ × Console σ :=
  let state := s.state.apply c
  let (r, store) := s.storage.save state k.store
  (r, { s with state }, { k with store })

def view (s : Session σ) : ViewName := s.state.view

def token (s : Session σ) : Option Token := s.state.token

end Session
end CalcConsole
