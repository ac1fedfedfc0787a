import Mathlib.Data.String.Basic
import CalcConsole.Toml.Settled
/-! # Tables in order

The keys of a settled table ascend, so a key stands in it once, and two such tables with the same values are the same
table.  A path leads from table to table, as far as there are tables. -/
namespace CalcConsole
namespace Toml

variable {es fs : Entries} {k : String} {v : Toml}

@[simp] theorem get?_nil : get? [] k = none := rfl

@[simp] theorem get?_cons (e : String × Toml) : get? (e :: es) k = if e.1 = k then some e.2 else get? es k := by
  by_cases h : e.1 = k
  · simp [get?, h]
  · simp [get?, h]

theorem get?_eq_none_iff : get? es k = none ↔ ∀ e ∈ es, e.1 ≠ k := by simp [get?]

theorem mem_of_get? (h : get? es k = some v) : (k, v) ∈ es := by
  unfold get? at h
  obtain ⟨e, he, rfl⟩ := Option.map_eq_some_iff.mp h
  have hk : e.1 = k := by simpa using List.find?_some he
  subst hk
  exact List.mem_of_find?_eq_some he

theorem mem_put {e : String × Toml} (h : e ∈ put k v es) : e = (k, v) ∨ e ∈ es := by
  induction es with
  | nil => exact .inl (List.mem_singleton.mp h)
  | cons f es ih =>
    unfold put at h
    split at h
    · exact (List.mem_cons.mp h).imp id (List.mem_cons_of_mem _)
    · split at h
      · exact List.mem_cons.mp h
      · rcases List.mem_cons.mp h with rfl | h
        · exact .inr (List.mem_cons_self ..)
        · exact (ih h).imp id (List.mem_cons_of_mem _)

/-! ## Tables with each key once -/

def keys {α : Type} (xs : List (String × α)) : List String := xs.map (·.1)

@[simp] theorem keys_cons {α : Type} (x : String × α) (xs : List (String × α)) : keys (x :: xs) = x.1 :: keys xs := rfl

@[simp] theorem keys_append {α : Type} (xs ys : List (String × α)) : keys (xs ++ ys) = keys xs ++ keys ys :=
  List.map_append ..

theorem mem_keys {α : Type} {xs : List (String × α)} {x : String × α} (h : x ∈ xs) : x.1 ∈ keys xs :=
  List.mem_map_of_mem h

theorem fresh_of_nodup {α β : Type} {xs : List (String × α)} {y : String × β} {ys : List (String × β)}
    (h : (keys xs ++ keys (y :: ys)).Nodup) (x : α) :
    y.1 ∉ keys xs ∧ (keys (xs ++ [(y.1, x)]) ++ keys ys).Nodup := by
  refine ⟨fun hmem => (List.nodup_append.mp h).2.2 _ hmem _ (List.mem_cons_self ..) rfl, ?_⟩
  simpa [keys] using h

def Distinct (es : Entries) : Prop := (keys es).Nodup

namespace Distinct

theorem tail {e : String × Toml} (h : Distinct (e :: es)) : Distinct es := (List.nodup_cons.mp h).2

theorem head {e : String × Toml} (h : Distinct (e :: es)) : e.1 ∉ keys es := (List.nodup_cons.mp h).1

theorem get?_head {e : String × Toml} (h : Distinct (e :: es)) : get? es e.1 = none :=
  get?_eq_none_iff.mpr fun _ hf he => h.head (he ▸ mem_keys hf)

theorem perm (h : Distinct es) (hp : fs.Perm es) : Distinct fs := (List.Perm.nodup_iff (hp.map Prod.fst)).mpr h

theorem get?_eq_some_iff (h : Distinct es) : get? es k = some v ↔ (k, v) ∈ es := by
  refine ⟨mem_of_get?, fun hv => ?_⟩
  induction es with
  | nil => cases hv
  | cons e es ih =>
    rw [get?_cons]
    rcases List.mem_cons.mp hv with rfl | hv
    · exact if_pos rfl
    · have hne : e.1 ≠ k := fun he => h.head (he ▸ mem_keys hv)
      rw [if_neg hne]
      exact ih h.tail hv

theorem get?_perm (h : Distinct es) (hp : fs.Perm es) (k : String) : get? fs k = get? es k := by
  refine Option.ext fun v => ?_
  rw [h.get?_eq_some_iff, (h.perm hp).get?_eq_some_iff]
  exact hp.mem_iff

end Distinct

/-! ## Keys in order -/

def Ascending (es : Entries) : Prop := es.Pairwise (·.1 < ·.1)

namespace Ascending

theorem nil : Ascending [] := List.Pairwise.nil

theorem tail {e : String × Toml} (h : Ascending (e :: es)) : Ascending es := (List.pairwise_cons.mp h).2

theorem distinct (h : Ascending es) : Distinct es := by
  have hlt : (keys es).Pairwise (· < ·) := List.pairwise_map.mpr h
  exact hlt.imp fun h => h.ne

theorem get?_of_lt {e : String × Toml} (h : Ascending (e :: es)) (hk : k < e.1) : get? (e :: es) k = none := by
  rw [get?_eq_none_iff]
  intro f hf he
  rcases List.mem_cons.mp hf with rfl | hf
  · exact hk.ne' he
  · exact absurd ((List.pairwise_cons.mp h).1 f hf) (by rw [he]; exact hk.asymm)

theorem put (h : Ascending es) (k : String) (v : Toml) : Ascending (put k v es) := by
  induction es with
  | nil => exact List.pairwise_singleton _ _
  | cons e es ih =>
    obtain ⟨hhead, htail⟩ := List.pairwise_cons.mp h
    unfold Toml.put
    split
    next hk => exact List.pairwise_cons.mpr ⟨fun f hf => hk ▸ hhead f hf, htail⟩
    next hk =>
      split
      next hlt =>
        refine List.pairwise_cons.mpr ⟨fun f hf => ?_, h⟩
        rcases List.mem_cons.mp hf with rfl | hf
        · exact hlt
        · exact hlt.trans (hhead f hf)
      next hlt =>
        refine List.pairwise_cons.mpr ⟨fun f hf => ?_, ih htail⟩
        rcases mem_put hf with rfl | hf
        · exact lt_of_le_of_ne (not_lt.mp hlt) hk
        · exact hhead f hf

/-- **A table in order** is known by its values. -/
theorem ext : {es fs : Entries} → Ascending es → Ascending fs → (∀ k, get? es k = get? fs k) → es = fs
  | [], [], _, _, _ => rfl
  | [], f :: fs, _, _, h => by simpa using h f.1
  | e :: es, [], _, _, h => by simpa using h e.1
  | e :: es, f :: fs, he, hf, h => by
    have hkey : e.1 = f.1 := by
      rcases lt_trichotomy e.1 f.1 with hlt | heq | hlt
      · have hnone := h e.1
        rw [hf.get?_of_lt hlt, get?_cons, if_pos rfl] at hnone
        cases hnone
      · exact heq
      · have hnone := h f.1
        rw [he.get?_of_lt hlt, get?_cons, if_pos rfl] at hnone
        cases hnone
    have hvalue : e.2 = f.2 := by simpa [hkey] using h e.1
    have htail : es = fs := ext he.tail hf.tail fun k => by
      by_cases hk : e.1 = k
      · subst hk
        rw [he.distinct.get?_head, hkey, hf.distinct.get?_head]
      · simpa [hk, show ¬ f.1 = k from hkey ▸ hk] using h k
    rw [htail, Prod.ext hkey hvalue]

end Ascending

/-! ## What holds of every table in a tree -/

inductive Everywhere (p : Entries → Prop) : Toml → Prop
  | string (s : String) : Everywhere p (.string s)
  | integer (n : Int) : Everywhere p (.integer n)
  | real (x : Real) : Everywhere p (.real x)
  | boolean (b : Bool) : Everywhere p (.boolean b)
  | datetime (d : Datetime) : Everywhere p (.datetime d)
  | array {items : List Toml} (parts : ∀ v ∈ items, Everywhere p v) : Everywhere p (.array items)
  | table {es : Entries} (here : p es) (parts : ∀ e ∈ es, Everywhere p e.2) : Everywhere p (.table es)

namespace Everywhere

variable {p : Entries → Prop}

theorem here (h : Everywhere p (.table es)) : p es := by
  cases h with
  | table here _ => exact here

theorem parts (h : Everywhere p (.table es)) : ∀ e ∈ es, Everywhere p e.2 := by
  cases h with
  | table _ parts => exact parts

theorem get? (h : Everywhere p (.table es)) (hv : get? es k = some v) : Everywhere p v := h.parts _ (mem_of_get? hv)

end Everywhere

def Ordered : Toml → Prop := Everywhere Ascending

theorem Ordered.put (h : Ordered (.table es)) (hv : Ordered v) : Ordered (.table (put k v es)) :=
  .table (h.here.put k v) fun e he => by
    rcases mem_put he with rfl | he
    · exact hv
    · exact h.parts e he

mutual

/-- **A settled tree** is in order. -/
theorem ordered_settle? : {t t' : Toml} → settle? t = some t' → Ordered t'
  | .string s, _, h => by cases h; exact .string s
  | .integer n, _, h => by cases h; exact .integer n
  | .real x, _, h => by cases h; exact .real x
  | .boolean b, _, h => by cases h; exact .boolean b
  | .datetime d, _, h => by cases h; exact .datetime d
  | .array items, _, h => by
    obtain ⟨vs, hvs, rfl⟩ := Option.map_eq_some_iff.mp (show (settleItems? items).map Toml.array = _ from h)
    exact .array (ordered_settleItems? hvs)
  | .table [], _, h => by cases h; exact .table .nil (by simp)
  | .table (e :: es), _, h => by
    rw [settle?] at h
    by_cases hk : e.1 = dateKey
    · rw [if_pos hk] at h
      obtain ⟨d, -, rfl⟩ := Option.map_eq_some_iff.mp h
      exact .datetime d
    · rw [if_neg hk] at h
      obtain ⟨v, hv, h⟩ := Option.bind_eq_some_iff.mp h
      obtain ⟨fs, hfs, rfl⟩ := Option.map_eq_some_iff.mp h
      exact (ordered_settleEntries? hfs).put (ordered_settle? hv)

theorem ordered_settleEntries? : {es fs : Entries} → settleEntries? es = some fs → Ordered (.table fs)
  | [], _, h => by cases h; exact .table .nil (by simp)
  | e :: es, _, h => by
    rw [settleEntries?] at h
    obtain ⟨v, hv, h⟩ := Option.bind_eq_some_iff.mp h
    obtain ⟨fs, hfs, rfl⟩ := Option.map_eq_some_iff.mp h
    exact (ordered_settleEntries? hfs).put (ordered_settle? hv)

theorem ordered_settleItems? : {vs us : List Toml} → settleItems? vs = some us → ∀ u ∈ us, Ordered u
  | [], _, h => by cases h; simp
  | v :: vs, _, h => by
    rw [settleItems?] at h
    obtain ⟨u, hu, h⟩ := Option.bind_eq_some_iff.mp h
    obtain ⟨us, hus, rfl⟩ := Option.map_eq_some_iff.mp h
    exact List.forall_mem_cons.mpr ⟨ordered_settle? hu, ordered_settleItems? hus⟩

end

theorem ordered_readSettled? {s : String} {t : Toml} (h : readSettled? s = some t) : Ordered t := by
  obtain ⟨u, -, hu⟩ := Option.bind_eq_some_iff.mp h
  exact ordered_settle? hu

/-! ## What a settled tree holds -/

def Settles (v v' : Toml) : Prop := settle? v = some v'

theorem settle?_table_cases {t : Toml} (h : settle? (.table es) = some t) :
    (∃ d, t = .datetime d) ∨ ∃ fs, settleEntries? es = some fs ∧ t = .table fs := by
  cases es with
  | nil =>
    cases h
    exact .inr ⟨[], rfl, rfl⟩
  | cons e es =>
    rw [settle?] at h
    by_cases hk : e.1 = dateKey
    · rw [if_pos hk] at h
      obtain ⟨d, -, rfl⟩ := Option.map_eq_some_iff.mp h
      exact .inl ⟨d, rfl⟩
    · rw [if_neg hk] at h
      obtain ⟨v, hv, h⟩ := Option.bind_eq_some_iff.mp h
      obtain ⟨fs, hfs, rfl⟩ := Option.map_eq_some_iff.mp h
      exact .inr ⟨put e.1 v fs, by rw [settleEntries?, hv, Option.bind_some, hfs]; rfl, rfl⟩

theorem settle?_array_cases {vs : List Toml} {t : Toml} (h : settle? (.array vs) = some t) :
    ∃ us, settleItems? vs = some us ∧ t = .array us := by
  rw [settle?] at h
  obtain ⟨us, hus, rfl⟩ := Option.map_eq_some_iff.mp h
  exact ⟨us, hus, rfl⟩

/-- **Under each key** of a settled table is the settled value of that key. -/
theorem rel_settleEntries? (h : settleEntries? es = some fs) (k : String) :
    Option.Rel Settles (get? es k) (get? fs k) := by
  induction es generalizing fs with
  | nil =>
    cases h
    exact .none
  | cons e es ih =>
    rw [settleEntries?] at h
    obtain ⟨v, hv, h⟩ := Option.bind_eq_some_iff.mp h
    obtain ⟨gs, hgs, rfl⟩ := Option.map_eq_some_iff.mp h
    rw [get?_cons]
    by_cases hk : e.1 = k
    · subst hk
      rw [if_pos rfl, get?_put_self]
      exact .some hv
    · rw [if_neg hk, get?_put_of_ne v (Ne.symm hk)]
      exact ih hgs

theorem rel_settleItems? {vs us : List Toml} (h : settleItems? vs = some us) (i : Nat) :
    Option.Rel Settles vs[i]? us[i]? := by
  induction vs generalizing us i with
  | nil =>
    cases h
    exact .none
  | cons v vs ih =>
    rw [settleItems?] at h
    obtain ⟨u, hu, h⟩ := Option.bind_eq_some_iff.mp h
    obtain ⟨us, hus, rfl⟩ := Option.map_eq_some_iff.mp h
    cases i with
    | zero => exact .some hu
    | succ i => exact ih hus i

theorem eq_nil_of_settleEntries? (h : settleEntries? es = some []) : es = [] := by
  cases es with
  | nil => rfl
  | cons e es =>
    have hrel := rel_settleEntries? h e.1
    rw [get?_cons, if_pos rfl] at hrel
    cases hrel

theorem eq_nil_of_settleItems? {vs : List Toml} (h : settleItems? vs = some []) : vs = [] := by
  cases vs with
  | nil => rfl
  | cons v vs => cases rel_settleItems? h 0

theorem eq_of_settles_nil (h : Settles v (.table [])) : v = .table [] := by
  cases v with
  | table es =>
    obtain ⟨d, hd⟩ | ⟨fs, hfs, hnil⟩ := settle?_table_cases h
    · cases hd
    · cases hnil
      rw [eq_nil_of_settleEntries? hfs]
  | array items =>
    obtain ⟨us, -, hus⟩ := settle?_array_cases h
    cases hus
  | _ => cases h

theorem eq_of_settles_no_items (h : Settles v (.array [])) : v = .array [] := by
  cases v with
  | table es => obtain ⟨d, hd⟩ | ⟨fs, -, hfs⟩ := settle?_table_cases h <;> contradiction
  | array items =>
    obtain ⟨us, hus, hnil⟩ := settle?_array_cases h
    cases hnil
    rw [eq_nil_of_settleItems? hus]
  | _ => cases h

theorem eq_singleton_of_settleEntries? (hd : Distinct es) (h : settleEntries? es = some [(k, v)]) :
    ∃ w, es = [(k, w)] ∧ Settles w v := by
  have hkey : ∀ e ∈ es, e.1 = k ∧ Settles e.2 v := fun e he => by
    have hrel := rel_settleEntries? h e.1
    rw [hd.get?_eq_some_iff.mpr he, get?_cons] at hrel
    by_cases hk : k = e.1
    · rw [if_pos hk] at hrel
      cases hrel with
      | some hsettles => exact ⟨hk.symm, hsettles⟩
    · rw [if_neg hk] at hrel
      cases hrel
  match es, hd, hkey, h with
  | [], _, _, h => cases h
  | [e], _, hkey, _ =>
    obtain ⟨hk, hsettles⟩ := hkey e (List.mem_cons_self ..)
    exact ⟨e.2, by rw [← hk], hsettles⟩
  | e :: f :: es, hd, hkey, _ =>
    have he : e.1 = f.1 := by rw [(hkey e (by simp)).1, (hkey f (by simp)).1]
    exact absurd (List.mem_cons_self ..) (he ▸ hd.head)

/-! ## Paths -/

theorem isTable_iff {t : Toml} : t.isTable = true ↔ ∃ es, t = .table es := by cases t <;> simp [isTable]

/-- What stands at the end of a path from table to table. -/
def at? : List String → Toml → Option Toml
  | [], t => some t
  | k :: path, .table es => (get? es k).bind (at? path)
  | _ :: _, _ => none

theorem at?_cons (path : List String) (es : Entries) :
    at? (k :: path) (.table es) = (get? es k).bind (at? path) := rfl

theorem at?_leaf (es : Entries) (leaf : String) : at? [leaf] (.table es) = get? es leaf := by
  rw [at?_cons]
  cases get? es leaf <;> rfl

theorem at?_cons_of_not_table {t : Toml} (h : t.isTable = false) (path : List String) : at? (k :: path) t = none := by
  cases t with
  | table es => cases h
  | _ => rfl

theorem at?_append (path rest : List String) (t : Toml) : at? (path ++ rest) t = (at? path t).bind (at? rest) := by
  induction path generalizing t with
  | nil => rfl
  | cons k path ih =>
    cases t with
    | table es =>
      rw [List.cons_append, at?_cons, at?_cons]
      cases get? es k with
      | none => rfl
      | some v => exact ih v
    | _ => rfl

/-! ## Trees compared -/

mutual

def same : (t u : Toml) → Bool
  | .string s, .string s' => s == s'
  | .integer n, .integer n' => n == n'
  | .real x, .real x' => decide (x = x')
  | .boolean b, .boolean b' => b == b'
  | .datetime d, .datetime d' => decide (d = d')
  | .array vs, .array us => sameItems vs us
  | .table es, .table fs => sameEntries es fs
  | _, _ => false

def sameItems : (vs us : List Toml) → Bool
  | [], [] => true
  | v :: vs, u :: us => same v u && sameItems vs us
  | _, _ => false

def sameEntries : (es fs : List (String × Toml)) → Bool
  | [], [] => true
  | e :: es, f :: fs => e.1 == f.1 && same e.2 f.2 && sameEntries es fs
  | _, _ => false

end

mutual

theorem eq_of_same : {t u : Toml} → same t u = true → t = u
  | .string s, u, h => by cases u <;> simp_all [same]
  | .integer n, u, h => by cases u <;> simp_all [same]
  | .real x, u, h => by cases u <;> simp_all [same]
  | .boolean b, u, h => by cases u <;> simp_all [same]
  | .datetime d, u, h => by cases u <;> simp_all [same]
  | .array vs, u, h => by
    cases u with
    | array us =>
      have hitems : vs = us := eq_of_sameItems (by simpa [same] using h)
      rw [hitems]
    | _ => simp [same] at h
  | .table es, u, h => by
    cases u with
    | table fs =>
      have hentries : es = fs := eq_of_sameEntries (by simpa [same] using h)
      rw [hentries]
    | _ => simp [same] at h

theorem eq_of_sameItems : {vs us : List Toml} → sameItems vs us = true → vs = us
  | [], us, h => by cases us <;> simp_all [sameItems]
  | v :: vs, us, h => by
    cases us with
    | nil => simp [sameItems] at h
    | cons u us =>
      rw [sameItems, Bool.and_eq_true] at h
      rw [eq_of_same h.1, eq_of_sameItems h.2]

theorem eq_of_sameEntries : {es fs : List (String × Toml)} → sameEntries es fs = true → es = fs
  | [], fs, h => by cases fs <;> simp_all [sameEntries]
  | e :: es, fs, h => by
    cases fs with
    | nil => simp [sameEntries] at h
    | cons f fs =>
      simp only [sameEntries, Bool.and_eq_true, beq_iff_eq] at h
      rw [Prod.ext h.1.1 (eq_of_same h.1.2), eq_of_sameEntries h.2]

end

theorem eq_some_of_same {r : Option Toml} {t : Toml} (h : r.any (same t) = true) : r = some t := by
  cases r with
  | none => cases h
  | some u => rw [eq_of_same h]

end Toml
end CalcConsole
