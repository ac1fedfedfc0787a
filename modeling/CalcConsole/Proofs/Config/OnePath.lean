import CalcConsole.Proofs.Config.Changes
import CalcConsole.Proofs.Text.Digits
/-! # A key changes one path

Whatever tree is in the file at home, to set a key either is refused before anything is written, or changes the tree at
the path that the key names and nowhere else (`setValue_changes_one_path`).  A step into a table carries a change of
what stands there to the whole (`OnlyAt.below`), and the walk along the key is a run of such steps. -/
namespace CalcConsole

open Text (splitOn)

namespace Toml

variable {es : Entries} {k : String} {path : List String} {v t t' sub sub' : Toml}

/-- The trees differ at most at the end of a path, to which tables lead in both of them. -/
structure OnlyAt (path : List String) (t t' : Toml) : Prop where
  way : ∀ q, q <+: path → q ≠ path → (at? q t).any isTable ∧ (at? q t').any isTable
  frame : ∀ q, ¬ q <+: path → ¬ path <+: q → at? q t' = at? q t

namespace OnlyAt

theorem put (es : Entries) (k : String) (v : Toml) : OnlyAt [k] (.table es) (.table (put k v es)) := by
  refine ⟨fun q hq hne => ?_, fun q hq hk => ?_⟩
  · rcases List.prefix_cons_iff.mp hq with rfl | ⟨r, rfl, hr⟩
    · exact ⟨rfl, rfl⟩
    · rw [List.prefix_nil.mp hr] at hne
      exact absurd rfl hne
  · cases q with
    | nil => exact absurd (List.nil_prefix ..) hq
    | cons j q =>
      have hj : j ≠ k := fun he => hk (by simp [he])
      rw [at?_cons, at?_cons, get?_put_of_ne v hj]

/-- **A step down**: what changes at one path of a part changes at one path of the whole. -/
theorem below (h : OnlyAt path sub sub') (hsub : get? es k = some sub) :
    OnlyAt (k :: path) (.table es) (.table (Toml.put k sub' es)) := by
  refine ⟨fun q hq hne => ?_, fun q hq hk => ?_⟩
  · rcases List.prefix_cons_iff.mp hq with rfl | ⟨r, rfl, hr⟩
    · exact ⟨rfl, rfl⟩
    · rw [at?_cons, at?_cons, get?_put_self, hsub]
      exact h.way r hr fun he => hne (by rw [he])
  · cases q with
    | nil => exact absurd (List.nil_prefix ..) hq
    | cons j q =>
      rw [at?_cons, at?_cons]
      by_cases hj : j = k
      · subst hj
        rw [get?_put_self, hsub]
        exact h.frame q (fun hp => hq (List.cons_prefix_cons.mpr ⟨rfl, hp⟩))
          fun hp => hk (List.cons_prefix_cons.mpr ⟨rfl, hp⟩)
      · rw [get?_put_of_ne _ hj]

end OnlyAt
end Toml

open Disk (absolute destination)
open Toml (at? get? put OnlyAt)

/-- Whether an error is found before anything is written. -/
def ConfigError.early : ConfigError → Bool
  | folder _ | parentFolder _ | unwritable _ => false
  | _ => true

namespace Config

variable {s : Surroundings} {d : Disk} {key value text leaf : String} {sections path : List String} {e : ConfigError}
  {t t' : Toml}

/-! ## The walk along a key -/

theorem replacement_error {old : Option Toml} (h : replacement key value old = .error e) :
    e.early ∧ (∃ m, old = some (.integer m)) ∧ Text.readI64? value = none := by
  cases old with
  | none => cases h
  | some w =>
    cases w with
    | integer m =>
      rw [replacement] at h
      cases hn : Text.readI64? value with
      | none =>
        rw [hn] at h
        cases h
        exact ⟨rfl, ⟨m, rfl⟩, rfl⟩
      | some n => rw [hn] at h; cases h
    | _ => cases h

theorem setAt_error (h : setAt key value sections leaf path t = .error e) : e.early ∧
    ((at? path t).any Toml.isTable = false ∨
      (∃ m, at? (path ++ [leaf]) t = some (.integer m)) ∧ Text.readI64? value = none) := by
  induction path generalizing t with
  | nil =>
    cases t with
    | table es =>
      rw [setAt] at h
      cases hv : replacement key value (get? es leaf) with
      | error e' =>
        rw [hv] at h
        cases h
        obtain ⟨hearly, hold, hvalue⟩ := replacement_error hv
        exact ⟨hearly, .inr ⟨by rwa [List.nil_append, Toml.at?_leaf], hvalue⟩⟩
      | ok v => rw [hv] at h; cases h
    | _ =>
      cases h
      exact ⟨rfl, .inl rfl⟩
  | cons part path ih =>
    cases t with
    | table es =>
      rw [setAt] at h
      rw [List.cons_append, Toml.at?_cons, Toml.at?_cons]
      cases hsub : get? es part with
      | none =>
        rw [hsub] at h
        cases h
        exact ⟨rfl, .inl rfl⟩
      | some sub =>
        rw [hsub] at h
        dsimp only at h
        cases hset : setAt key value sections leaf path sub with
        | error e' =>
          rw [hset] at h
          cases h
          exact ih hset
        | ok t' => rw [hset] at h; cases h
    | _ =>
      cases h
      exact ⟨rfl, .inl rfl⟩

/-- **The walk** changes one path, where it puts what takes the place of the old value. -/
theorem onlyAt_of_setAt (h : setAt key value sections leaf path t = .ok t') :
    OnlyAt (path ++ [leaf]) t t' ∧
      ∃ v, replacement key value (at? (path ++ [leaf]) t) = .ok v ∧ at? (path ++ [leaf]) t' = some v := by
  induction path generalizing t t' with
  | nil =>
    cases t with
    | table es =>
      obtain ⟨v, hv, rfl⟩ := setAt_here h
      exact ⟨.put es leaf v, v, by rw [List.nil_append, Toml.at?_leaf, hv],
        by rw [List.nil_append, Toml.at?_leaf, Toml.get?_put_self]⟩
    | _ => cases h
  | cons part path ih =>
    cases t with
    | table es =>
      obtain ⟨sub, sub', hsub, hset, rfl⟩ := setAt_cons h
      obtain ⟨honly, v, hv, hnew⟩ := ih hset
      refine ⟨honly.below hsub, v, ?_, ?_⟩
      · rw [List.cons_append, Toml.at?_cons, hsub]
        exact hv
      · rw [List.cons_append, Toml.at?_cons, Toml.get?_put_self]
        exact hnew
    | _ => cases h

/-- Why a key cannot be set to a value in what stands in the file. -/
inductive Refuses (key value : String) : Option Toml → Prop
  | noTree : Refuses key value none
  | emptyPart (t : Toml) (h : "" ∈ splitOn '.' key) : Refuses key value (some t)
  | noTable (t : Toml) (h : (at? (splitOn '.' key).dropLast t).any Toml.isTable = false) : Refuses key value (some t)
  | notInteger (t : Toml) (h : ∃ m, at? (splitOn '.' key) t = some (.integer m)) (hvalue : Text.readI64? value = none) :
    Refuses key value (some t)
  | misfit (t t' : Toml) (h : setKey key value t = .ok t') (hfits : ofText? t'.print = none) : Refuses key value (some t)

/-- A value that is no integer is refused with the reason why it is none. -/
theorem causes_notInteger (key value : String) :
    (ConfigError.notInteger key value).causes ≠ [] ↔ Text.readI64? value = none := by
  show (Text.i64Fault? value).toList ≠ [] ↔ _
  rw [Ne, Option.toList_eq_nil_iff, Text.i64Fault?_eq_none_iff, Option.not_isSome_iff_eq_none]

theorem setKey_error (h : setKey key value t = .error e) : e.early ∧ Refuses key value (some t) := by
  unfold setKey at h
  dsimp only at h
  split at h
  next hempty =>
    cases h
    exact ⟨rfl, .emptyPart t (by simpa using hempty)⟩
  next =>
    have hne := Text.splitOn_ne_nil '.' key
    rw [List.getLast?_eq_getLast_of_ne_nil hne, Option.getD_some] at h
    obtain ⟨hearly, htable | ⟨hold, hvalue⟩⟩ := setAt_error h
    · exact ⟨hearly, .noTable t htable⟩
    · rw [List.dropLast_append_getLast hne] at hold
      exact ⟨hearly, .notInteger t hold hvalue⟩

theorem onlyAt_of_setKey (h : setKey key value t = .ok t') :
    OnlyAt (splitOn '.' key) t t' ∧
      ∃ v, replacement key value (at? (splitOn '.' key) t) = .ok v ∧ at? (splitOn '.' key) t' = some v := by
  unfold setKey at h
  dsimp only at h
  split at h
  · cases h
  · have hne := Text.splitOn_ne_nil '.' key
    rw [List.getLast?_eq_getLast_of_ne_nil hne, Option.getD_some] at h
    have honly := onlyAt_of_setAt h
    rwa [List.dropLast_append_getLast hne] at honly

/-! ## From the file to the file -/

/-- The tree that a change starts from: the one of the file at home, or where there is no file, the built-in settings. -/
def standing (s : Surroundings) (d : Disk) : Option Toml :=
  if d.contains s.place s.globalFile then (d.readText s.place s.globalFile).toOption.bind Toml.readSettled?
  else some (.table inOrder)

theorem standing_of_currentText (h : currentText s d = .ok text) : standing s d = Toml.readSettled? text := by
  unfold currentText at h
  unfold standing
  by_cases hfile : d.contains s.place s.globalFile = true
  · rw [if_pos hfile] at h ⊢
    cases hr : d.readText s.place s.globalFile with
    | error e => rw [hr] at h; cases h
    | ok text' =>
      rw [hr] at h
      cases h
      rfl
  · rw [if_neg hfile] at h ⊢
    rw [← Except.ok.inj h, readSettled?_builtIn]

theorem currentText_error (h : currentText s d = .error e) : e.early ∧ standing s d = none := by
  unfold currentText at h
  unfold standing
  by_cases hfile : d.contains s.place s.globalFile = true
  · rw [if_pos hfile] at h ⊢
    cases hr : d.readText s.place s.globalFile with
    | error e' =>
      rw [hr] at h
      cases h
      exact ⟨rfl, rfl⟩
    | ok text => rw [hr] at h; cases h
  · rw [if_neg hfile] at h
    cases h

/-- **An edited text** is the text of a tree that was set at the key, and fits. -/
theorem edited_cases (key value text : String) :
    (∃ e, edited key value text = .error e ∧ e.early ∧ Refuses key value (Toml.readSettled? text)) ∨
      ∃ t t', Toml.readSettled? text = some t ∧ setKey key value t = .ok t' ∧ (ofText? t'.print).isSome ∧
        edited key value text = .ok t'.print := by
  cases hread : Toml.readSettled? text with
  | none => exact .inl ⟨.malformed, by rw [edited, hread], rfl, .noTree⟩
  | some t =>
    rw [edited_eq hread]
    cases hset : setKey key value t with
    | error e => exact .inl ⟨e, rfl, setKey_error hset⟩
    | ok t' =>
      dsimp only
      cases hfits : ofText? t'.print with
      | none => exact .inl ⟨.badValue key value, rfl, rfl, .misfit t t' hset hfits⟩
      | some c => exact .inr ⟨t, t', rfl, hset, by rw [hfits]; rfl, rfl⟩

/-- **To set a key** is refused for one of a few reasons before anything is written, and the disk stays as it was; or it
leaves a file that fits, with a tree that differs from the one before at the path of the key alone.  There stands an
integer, if an integer stood there, and the value gives it; and otherwise the value as a text.  The file is read back as
the tree that it was written from. -/
theorem setValue_changes_one_path (hwritable : d.Writable s.place s.globalFile) (key value : String)
    (hback : ∀ t t', standing s d = some t → setKey key value t = .ok t' → Toml.readSettled? t'.print = some t') :
    (∃ e, setValue s key value d = (.error e, d) ∧ e.early ∧ Refuses key value (standing s d)) ∨
    ∃ t d' text t', standing s d = some t ∧ setValue s key value d = (.ok (), d') ∧
      d'.readText s.place s.globalFile = .ok text ∧ (ofText? text).isSome ∧ Toml.readSettled? text = some t' ∧
      OnlyAt (splitOn '.' key) t t' ∧
      (∀ m, at? (splitOn '.' key) t = some (.integer m) →
        ∃ n, Text.readI64? value = some n ∧ at? (splitOn '.' key) t' = some (.integer n)) ∧
      ((∀ m, at? (splitOn '.' key) t ≠ some (.integer m)) → at? (splitOn '.' key) t' = some (.string value)) := by
  cases htext : currentText s d with
  | error e =>
    have hset : setValue s key value d = (.error e, d) := by
      unfold setValue
      rw [htext]
      rfl
    obtain ⟨hearly, hnone⟩ := currentText_error htext
    exact .inl ⟨e, hset, hearly, hnone ▸ .noTree⟩
  | ok text =>
    have hset := setValue_eq htext key value
    have hstanding := standing_of_currentText htext
    rcases edited_cases key value text with ⟨e, he, hearly, hrefuses⟩ | ⟨t, t', hread, hkey, hfits, hedited⟩
    · rw [he] at hset
      exact .inl ⟨e, hset, hearly, hstanding ▸ hrefuses⟩
    · rw [hedited] at hset
      rw [hread] at hstanding
      obtain ⟨d', hstore, hholds, -⟩ := store_of_writable hwritable .parentFolder t'.print
      obtain ⟨honly, v, hv, hnew⟩ := onlyAt_of_setKey hkey
      refine .inr ⟨t, d', t'.print, t', hstanding, hset.trans hstore, hholds.readText hwritable.speakable, hfits,
        hback t t' hstanding hkey, honly, fun m hm => ?_, fun hno => ?_⟩
      · rw [hm, replacement] at hv
        cases hn : Text.readI64? value with
        | none => rw [hn] at hv; cases hv
        | some n =>
          rw [hn] at hv
          cases hv
          exact ⟨n, rfl, hnew⟩
      · rw [hnew]
        unfold replacement at hv
        split at hv
        next m hm => exact absurd hm (hno m)
        · cases hv
          rfl

/-! ### A file with values of every kind -/

/-- A file at home with a value of every kind, none of which is a setting. -/
def everyKind : Disk :=
  ⟨[(["home"], .folder), (["home", "me"], .folder), (["home", "me", ".daec"], .folder),
    (["home", "me", ".daec", "config.toml"], .file
      "on = true\nby = 'me'\nup = 0.5\nat = 1979-05-27\nof = [1]\n[api]\nto.go = 7\n[[is]]\n".toUTF8 0o644)]⟩

theorem writable_everyKind : everyKind.Writable newHome.place newHome.globalFile := by
  have hread : (everyKind.readText newHome.place newHome.globalFile).isOk = true := by decide +kernel
  cases hr : everyKind.readText newHome.place newHome.globalFile with
  | error e => rw [hr] at hread; cases hread
  | ok text =>
    obtain ⟨hspeakable, content, hholds⟩ := Disk.holds_of_readText hr
    exact hholds.writable hspeakable

def turned (key value : String) : Option (Toml × Toml) :=
  (standing newHome everyKind).bind fun t => (setKey key value t).toOption.map fun t' => (t, t')

theorem setValue_changes_one_path_every_kind :
    everyKind.Writable newHome.place newHome.globalFile ∧
    ∃ t d' text t', standing newHome everyKind = some t ∧ setValue newHome "api.to.go" "8" everyKind = (.ok (), d') ∧
      d'.readText newHome.place newHome.globalFile = .ok text ∧ Toml.readSettled? text = some t' ∧
      OnlyAt ["api", "to", "go"] t t' ∧ at? ["api", "to", "go"] t' = some (.integer 8) := by
  have hparts : splitOn '.' "api.to.go" = ["api", "to", "go"] := by decide +kernel
  have hall : (turned "api.to.go" "8").all
      (fun p => (Toml.readSettled? p.2.print).any (Toml.same p.2)) = true := by decide +kernel
  have hback : ∀ t t', standing newHome everyKind = some t → setKey "api.to.go" "8" t = .ok t' →
      Toml.readSettled? t'.print = some t' := by
    intro t t' ht ht'
    unfold turned at hall
    rw [ht, Option.bind_some, ht'] at hall
    exact Toml.eq_some_of_same hall
  have hmade : (setValue newHome "api.to.go" "8" everyKind).1.isOk = true := by decide +kernel
  refine ⟨writable_everyKind, ?_⟩
  rcases setValue_changes_one_path writable_everyKind "api.to.go" "8" hback with
    ⟨e, he, -⟩ | ⟨t, d', text, t', ht, hset, htext, -, hread, honly, hinteger, -⟩
  · rw [he] at hmade
    cases hmade
  · have hold : (standing newHome everyKind).all
        (fun t => (at? ["api", "to", "go"] t).any (Toml.same (.integer 7))) = true := by decide +kernel
    rw [ht] at hold
    rw [hparts] at honly hinteger
    obtain ⟨n, hn, hnew⟩ := hinteger 7 (Toml.eq_some_of_same hold)
    have hvalue : Text.readI64? "8" = some 8 := by decide +kernel
    rw [hvalue] at hn
    cases hn
    exact ⟨t, d', text, t', ht, hset, htext, hread, honly, hnew⟩

end Config
end CalcConsole
