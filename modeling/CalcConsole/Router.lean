import CalcConsole.Session.Basic
/-! # The router

One view is active at a time.  Going to a view saves it in the session, and only then is it active. -/
namespace CalcConsole

structure Router where
  active : ViewName
deriving DecidableEq, Repr

namespace Router

variable {σ : Type}

def restore (s : Session σ) (k : Console σ) : Router × Console σ := (⟨s.view⟩, k.note (.restoredView s.view))

def navigate (r : Router) (s : Session σ) (v : ViewName) (k : Console σ) :
    Except SessionError ViewName × Router × Session σ × Console σ :=
  match s.change (.setView v) k with
  | (.error e, s, k) => (.error e, r, s, k)
  | (.ok (), s, k) => (.ok v, ⟨v⟩, s, if r.active = v then k else k.note (.navigated r.active v))

end Router
end CalcConsole
