import CalcConsole.Number.Layout
import CalcConsole.Text.Digits
import CalcConsole.Timestamp
/-! # TOML values

A table has its keys in the order of the text that it is read from, and `put` keeps them in plain order.  Dates and
times are as the text gives them: a date, a time of day, or both, with an offset or without. -/
namespace CalcConsole
namespace Toml

/-- A number with a point; unlike JSON, the format has infinities and a value that is no number. -/
inductive Real where
  | finite (x : Binary64)
  | infinity (negative : Bool)
  | nan
deriving DecidableEq

structure Date where
  year : Nat
  month : Nat
  day : Nat
deriving DecidableEq, Repr

structure Time where
  hour : Nat
  minute : Nat
  second : Nat
  nano : Nat
deriving DecidableEq, Repr

inductive Offset where
  | utc
  | minutes (ahead : Int)
deriving DecidableEq, Repr

structure Datetime where
  date : Option Date
  time : Option Time
  offset : Option Offset
deriving DecidableEq, Repr

end Toml

inductive Toml where
  | string (s : String)
  | integer (n : Int)
  | real (x : Toml.Real)
  | boolean (b : Bool)
  | datetime (d : Toml.Datetime)
  | array (items : List Toml)
  | table (entries : List (String × Toml))

namespace Toml

instance : Inhabited Toml := ⟨.table []⟩

/-! ## Tables -/

abbrev Entries := List (String × Toml)

def get? (es : Entries) (k : String) : Option Toml := (es.find? (·.1 = k)).map (·.2)

/-- Puts a value at its key's place in the order; a value that stands there gives way. -/
def put (k : String) (v : Toml) : Entries → Entries
  | [] => [(k, v)]
  | e :: es => if e.1 = k then (k, v) :: es else if k < e.1 then (k, v) :: e :: es else e :: put k v es

theorem get?_put_self (k : String) (v : Toml) : ∀ es : Entries, get? (put k v es) k = some v
  | [] => by simp [put, get?]
  | e :: es => by
    have ih := get?_put_self k v es
    unfold put
    split
    · simp [get?]
    · split
      · simp [get?]
      · rename_i h _
        simpa [get?, h] using ih

theorem get?_put_of_ne {k j : String} (v : Toml) (h : j ≠ k) : ∀ es : Entries, get? (put k v es) j = get? es j
  | [] => by simp [put, get?, Ne.symm h]
  | e :: es => by
    have ih := get?_put_of_ne v h es
    have hk : ¬ k = j := fun hc => h hc.symm
    unfold put
    split
    · rename_i he
      simp [get?, hk, he]
    · split
      · simp [get?, hk]
      · by_cases hj : e.1 = j
        · simp [get?, hj]
        · simpa [get?, hj] using ih

def isTable : Toml → Bool
  | .table _ => true
  | _ => false

/-- Lays `upper` upon `base`: tables are merged key by key, and anything else of `upper` takes the place of what is
there. -/
def merge : (base upper : Toml) → Toml
  | .table base, .table upper => .table (mergeEntries base upper)
  | _, upper => upper
where
  mergeEntries (base : Entries) : List (String × Toml) → Entries
    | [] => base
    | (k, v) :: rest =>
      match get? base k with
      | some old => mergeEntries (put k (merge old v) base) rest
      | none => mergeEntries (put k v base) rest

end Toml
end CalcConsole
