import CalcConsole.Log.Event
import CalcConsole.Session.State
/-! # Where sessions are kept

A `Storage` keeps one session state in a store of any kind.  A file keeps it as text that only its owner may read, and
a slot of memory as it is.  A missing file is an empty session, and so is one that does not decode. -/
namespace CalcConsole

structure Storage (σ : Type) where
  location : String
  load : σ → Except SessionError SessionState × List Event
  save : SessionState → σ → Except SessionError Unit × σ

namespace Storage

/-- A slot of memory. -/
def memory : Storage (Option SessionState) where
  location := "in-memory"
  load slot := (.ok (slot.getD .empty), [])
  save state _ := (.ok (), some state)

/-- The mode of a session file: its owner reads and writes it, and nobody else. -/
def privateMode : Nat := 0o600

def loadFile (cwd : Place) (path : String) (d : Disk) : Except SessionError SessionState × List Event :=
  match d.readText cwd path with
  | .error .notFound => (.ok .empty, [])
  | .error e => (.error ⟨path, e⟩, [])
  | .ok text =>
    let (state, page) := SessionState.read text
    let unknown := page.toList.map Event.unknownPage
    match state with
    | .ok s => (.ok s, unknown)
    | .error f => (.ok .empty, unknown ++ [.corruptSession path f.message])

def saveFile (cwd : Place) (path : String) (state : SessionState) (d : Disk) : Except SessionError Unit × Disk :=
  match d.makeParents cwd path with
  | .error e => (.error ⟨path, e⟩, d)
  | .ok d =>
    match d.write cwd path state.render.toUTF8 privateMode (some privateMode) with
    | .error e => (.error ⟨path, e⟩, d)
    | .ok d => (.ok (), d)

def file (cwd : Place) (path : String) : Storage Disk where
  location := path
  load := loadFile cwd path
  save := saveFile cwd path

/-- The same storage in a store that has the first one as a part. -/
def within {σ τ : Type} (s : Storage σ) (get : τ → σ) (set : σ → τ → τ) : Storage τ where
  location := s.location
  load t := s.load (get t)
  save state t :=
    let (r, part) := s.save state (get t)
    (r, set part t)

end Storage
end CalcConsole
