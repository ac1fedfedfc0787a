import CalcConsole.Config.Edit
import CalcConsole.Proofs.Config.Told
import CalcConsole.Proofs.Toml.Tidy
/-! # What a change does to the settings

The file at home holds a tidy tree in which every section is a table, and each setting stands as it is written
(`Keeps`).  To set a key either is refused or leaves such a tree: one setting is changed when the key names it, and none
when it does not. -/
namespace CalcConsole

open Toml (at? get? put Leaf Tidy Undated dateKey listed)
open Text (splitOn)

/-! ## Keys -/

namespace Text

theorem intercalate_pieces (sep : Char) (cs : List Char) : [sep].intercalate (pieces sep cs) = cs := by
  induction cs with
  | nil => rfl
  | cons c cs ih =>
    rw [pieces]
    obtain ⟨p, ps, hp⟩ := List.exists_cons_of_ne_nil (pieces_ne_nil sep cs)
    rw [hp] at ih ⊢
    by_cases hc : c = sep
    · subst hc
      rw [if_pos rfl, List.intercalate_cons_of_ne_nil (by simp), ih]
      rfl
    · rw [if_neg hc]
      cases ps with
      | nil => simpa using ih
      | cons q ps =>
        rw [List.intercalate_cons_of_ne_nil (by simp)] at ih ⊢
        rw [← ih]
        rfl

theorem splitOn_injective {sep : Char} {s s' : String} (h : splitOn sep s = splitOn sep s') : s = s' := by
  have hpieces : pieces sep s.toList = pieces sep s'.toList := by
    unfold splitOn at h
    exact List.map_injective_iff.mpr (fun _ _ he => by simpa using congrArg String.toList he) h
  have hchars := congrArg [sep].intercalate hpieces
  rw [intercalate_pieces, intercalate_pieces] at hchars
  exact String.toList_inj.mp hchars

theorem splitOn_ne_nil (sep : Char) (s : String) : splitOn sep s ≠ [] := by
  simp [splitOn, pieces_ne_nil]

theorem readI64?_bounds {s : String} {n : Int} (h : readI64? s = some n) : -(signedBound : Int) ≤ n ∧ n < signedBound := by
  have hpos : (0 : Int) < signedBound := by decide
  unfold readI64? at h
  split at h
  · split at h
    · cases h
    next hc =>
      simp only [Bool.or_eq_true, decide_eq_true_eq, not_or, not_lt] at hc
      cases h
      omega
  · obtain ⟨m, hm, rfl⟩ := Option.map_eq_some_iff.mp h
    have hlt : m < signedBound := by simpa using (Option.filter_eq_some_iff.mp hm).2
    constructor <;> simp only [Int.ofNat_eq_natCast] <;> omega

end Text

namespace Setting

def name (s : Setting) : String := s.inSection.name ++ "." ++ s.key

theorem splitOn_name (s : Setting) : splitOn '.' s.name = s.path := by cases s <;> decide +kernel

theorem path_eq (s : Setting) : s.path = [s.inSection.name, s.key] := rfl

theorem path_injective {s t : Setting} (h : s.path = t.path) : s = t := by
  revert h
  cases s <;> cases t <;> decide

theorem eq_name_iff {s : Setting} {key : String} : splitOn '.' key = s.path ↔ key = s.name :=
  ⟨fun h => Text.splitOn_injective (h.trans s.splitOn_name.symm), fun h => h ▸ s.splitOn_name⟩

def ofArgument? : (s : Setting) → String → Option s.Value
  | .baseUrl, v | .sessionName, v | .logLevel, v => some v
  | .timeoutMs, v => (Text.readI64? v).bind fun n => if 0 ≤ n then some n.toNat else none
  | .sessionFolder, v => some (some v)
  | .clearInput, v => Config.policy? v

theorem ofArgument?_timeoutMs (v : String) : ofArgument? .timeoutMs v =
    (Text.readI64? v).bind fun n => if 0 ≤ n then some n.toNat else none := rfl

/-- What is written for a text: a number where a number stands, and else the text. -/
def written? : Setting → String → Option Toml
  | .timeoutMs, v => (Text.readI64? v).map .integer
  | _, v => some (.string v)

end Setting

namespace Config

variable {source : TreeSource} {es sub : Toml.Entries} {c : Config} {s : Setting} {key value text : String}

/-! ## Values -/

theorem policy?_name (p : ClearInput) : policy? p.name = some p := by cases p <;> decide

theorem eq_name_of_policy? {v : String} {p : ClearInput} (h : policy? v = some p) : v = p.name := by
  unfold policy? at h
  obtain ⟨e, he, rfl⟩ := Option.map_eq_some_iff.mp h
  have hname : e.1 = v := by simpa using List.find?_some he
  have hall : ∀ e ∈ ClearInput.all, e.1 = e.2.name := by decide
  rw [← hname, hall e (List.mem_of_find?_eq_some he)]

theorem takes_valueOf (source : TreeSource) (s : Setting) (x : s.Value) :
    Takes source s (builtIn.get s) (valueOf s x) x := by
  cases s with
  | baseUrl => rfl
  | timeoutMs => simp [valueOf, Takes, read?, timeoutOf?]
  | sessionName => rfl
  | sessionFolder => cases x <;> rfl
  | clearInput => exact policy?_name x
  | logLevel => rfl

theorem leaf_written {v : Toml} (h : s.written? value = some v) : Leaf v := by
  cases s with
  | timeoutMs =>
    obtain ⟨n, hn, rfl⟩ := Option.map_eq_some_iff.mp h
    obtain ⟨hlow, hhigh⟩ := Text.readI64?_bounds hn
    exact .integer hlow hhigh
  | _ => cases h; exact .string value

theorem read?_written {v : Toml} (h : s.written? value = some v) : read? source s v = s.ofArgument? value := by
  cases s with
  | timeoutMs =>
    obtain ⟨n, hn, rfl⟩ := Option.map_eq_some_iff.mp h
    rw [Setting.ofArgument?_timeoutMs, hn]
    rfl
  | _ => cases h; rfl

theorem valueOf_written {v : Toml} {x : s.Value} (h : s.written? value = some v) (hx : s.ofArgument? value = some x) :
    valueOf s x = some v := by
  cases s with
  | timeoutMs =>
    obtain ⟨n, hn, rfl⟩ := Option.map_eq_some_iff.mp h
    rw [Setting.ofArgument?_timeoutMs, hn] at hx
    obtain ⟨hpos, hvalue⟩ := Option.ite_none_right_eq_some.mp hx
    cases hvalue
    simp [valueOf, Int.toNat_of_nonneg hpos]
  | clearInput =>
    cases h
    rw [valueOf, ← eq_name_of_policy? hx]
  | _ => cases h; cases hx; rfl

/-- Where a setting has a value, or is none that has to be a number, what replaces it is what is written for the text. -/
theorem replacement_of_takes {old : Option Toml} {x₀ x : s.Value} (h : Takes source s x₀ old x)
    (hold : s = .timeoutMs → old ≠ none) (key value : String) :
    replacement key value old = match s.written? value with
      | some v => .ok v
      | none => .error (.notInteger key value) := by
  cases old with
  | none =>
    cases s with
    | timeoutMs => exact absurd rfl (hold rfl)
    | _ => rfl
  | some w =>
    cases s with
    | timeoutMs =>
      cases w with
      | integer n => cases hn : Text.readI64? value <;> simp only [replacement, Setting.written?, hn, Option.map]
      | _ => cases h
    | _ =>
      cases w with
      | integer n => cases h
      | _ => rfl

theorem leaf_replacement {old : Option Toml} {v : Toml} (h : replacement key value old = .ok v) : Leaf v := by
  unfold replacement at h
  split at h
  · split at h
    next hn =>
      cases h
      obtain ⟨hlow, hhigh⟩ := Text.readI64?_bounds hn
      exact .integer hlow hhigh
    · cases h
  · cases h
    exact .string value

/-! ## Trees that hold the settings -/

structure Keeps (es : Toml.Entries) (c : Config) : Prop where
  tidy : Tidy es
  undated : Undated es
  sections : ∀ s : ConfigSection, ∃ sub, get? es s.name = some (.table sub)
  tables : ∀ k sub, get? es k = some (.table sub) → ∃ s : ConfigSection, k = s.name
  settings : ∀ s : Setting, at? s.path (.table es) = valueOf s (c.get s)

theorem fits_iff (hsections : ∀ s : ConfigSection, ∃ sub, get? es s.name = some (.table sub)) :
    ofTree? source (.table es) = some c ↔ Tells source (.table es) c := by
  refine ofTree?_eq_some_iff fun s v hv => ?_
  obtain ⟨sub, hsub⟩ := hsections s
  rw [hsub] at hv
  cases hv
  rfl

theorem ofText?_print (h : Toml.Shallow es) : ofText? (Toml.table es).print = ofTree? .text (.table (listed es)) := by
  unfold ofText?
  rw [Toml.read?_print h]
  rfl

theorem ofText?_eq_some_iff (h : Tidy es)
    (hsections : ∀ s : ConfigSection, ∃ sub, get? es s.name = some (.table sub)) :
    ofText? (Toml.table es).print = some c ↔ Tells .text (.table es) c := by
  have hlisted : Tells .text (.table (listed es)) c ↔ Tells .text (.table es) c :=
    forall_congr' fun s => by rw [Setting.path, h.at?_listed]
  rw [ofText?_print h.shallow, ← hlisted]
  refine ofTree?_eq_some_iff fun s v hv => ?_
  obtain ⟨sub, hsub⟩ := hsections s
  rw [h.ascending.distinct.get?_perm (Toml.listed_perm es), hsub] at hv
  cases hv
  rfl

namespace Keeps

theorem tells (h : Keeps es c) (source : TreeSource) : Tells source (.table es) c := by
  intro s
  rw [h.settings s]
  exact takes_valueOf source s (c.get s)

theorem ofTree? (h : Keeps es c) (source : TreeSource) : ofTree? source (.table es) = some c :=
  (fits_iff h.sections).mpr (h.tells source)

theorem ofText? (h : Keeps es c) : ofText? (Toml.table es).print = some c :=
  (ofText?_eq_some_iff h.tidy h.sections).mpr (h.tells .text)

theorem readSettled? (h : Keeps es c) : Toml.readSettled? (Toml.table es).print = some (.table es) :=
  h.tidy.readSettled?_print_iff.mpr h.undated

end Keeps

/-! ## Places -/

theorem at?_put_below {n k : String} (hn : get? es n = some (.table sub)) (v : Toml) (s : Setting) :
    at? s.path (.table (put n (.table (put k v sub)) es)) =
      if s.path = [n, k] then some v else at? s.path (.table es) := by
  unfold Setting.path
  rw [Toml.at?_cons, Toml.at?_cons]
  by_cases hs : s.inSection.name = n
  · subst hs
    rw [Toml.get?_put_self, hn, Option.bind_some, Option.bind_some, Toml.at?_cons, Toml.at?_cons]
    by_cases hk : s.key = k
    · subst hk
      rw [if_pos rfl, Toml.get?_put_self]
      rfl
    · rw [if_neg (by simpa using hk), Toml.get?_put_of_ne v hk]
  · rw [if_neg (by simp [hs]), Toml.get?_put_of_ne _ hs]

theorem sections_put_below (h : ∀ s : ConfigSection, ∃ sub, get? es s.name = some (.table sub)) {n : String}
    (hn : get? es n = some (.table sub)) (k : String) (v : Toml) (s : ConfigSection) :
    ∃ sub', get? (put n (.table (put k v sub)) es) s.name = some (.table sub') := by
  by_cases hs : s.name = n
  · subst hs
    exact ⟨_, Toml.get?_put_self ..⟩
  · rw [Toml.get?_put_of_ne _ hs]
    exact h s

theorem at?_put_here {k : String} (v : Toml) (hk : s.inSection.name ≠ k) :
    at? s.path (.table (put k v es)) = at? s.path (.table es) := by
  unfold Setting.path
  rw [Toml.at?_cons, Toml.at?_cons, Toml.get?_put_of_ne v hk]

namespace Keeps

theorem put_top (h : Keeps es c) {k : String} {v : Toml} (hk : ∀ s : ConfigSection, s.name ≠ k) (hv : Leaf v)
    (hundated : Undated (put k v es)) : Keeps (put k v es) c := by
  refine ⟨h.tidy.put_leaf k hv, hundated, fun s => ?_, fun j sub hj => ?_, fun s => ?_⟩
  · rw [Toml.get?_put_of_ne v (hk s)]
    exact h.sections s
  · by_cases hjk : j = k
    · rw [hjk, Toml.get?_put_self] at hj
      cases hj
      cases hv
    · rw [Toml.get?_put_of_ne v hjk] at hj
      exact h.tables j sub hj
  · rw [at?_put_here v (hk s.inSection)]
    exact h.settings s

theorem put_below (h : Keeps es c) {n k : String} {v : Toml} {c' : Config} (hn : get? es n = some (.table sub))
    (hv : Leaf v) (hundated : Undated (put n (.table (put k v sub)) es))
    (hsettings : ∀ s : Setting, (if s.path = [n, k] then some v else valueOf s (c.get s)) = valueOf s (c'.get s)) :
    Keeps (put n (.table (put k v sub)) es) c' := by
  refine ⟨h.tidy.put_below hn k hv, hundated, sections_put_below h.sections hn k v, fun j sub' hj => ?_, fun s => ?_⟩
  · by_cases hjn : j = n
    · exact hjn ▸ h.tables n sub hn
    · rw [Toml.get?_put_of_ne _ hjn] at hj
      exact h.tables j sub' hj
  · rw [at?_put_below hn, h.settings s]
    exact hsettings s

end Keeps

/-! ## Setting a key -/

theorem setKey_name_eq (s : Setting) (value : String) (t : Toml) :
    setKey s.name value t = setAt s.name value [s.inSection.name] s.key [s.inSection.name] t := by
  have hparts : s.path.contains "" = false := by cases s <;> decide
  unfold setKey
  rw [s.splitOn_name]
  dsimp only
  rw [hparts, if_neg Bool.false_ne_true]
  rfl

theorem setKey_name_of_table (hsub : get? es s.inSection.name = some (.table sub)) {x₀ x : s.Value}
    (h : Takes source s x₀ (get? sub s.key) x) (hold : s = .timeoutMs → get? sub s.key ≠ none) (value : String) :
    setKey s.name value (.table es) = match s.written? value with
      | some v => .ok (.table (put s.inSection.name (.table (put s.key v sub)) es))
      | none => .error (.notInteger s.name value) := by
  rw [setKey_name_eq, setAt, hsub]
  dsimp only
  rw [setAt, replacement_of_takes h hold]
  cases s.written? value <;> rfl

theorem setKey_name (h : Keeps es c) (s : Setting) (value : String) :
    ∃ sub, get? es s.inSection.name = some (.table sub) ∧
      setKey s.name value (.table es) = match s.written? value with
        | some v => .ok (.table (put s.inSection.name (.table (put s.key v sub)) es))
        | none => .error (.notInteger s.name value) := by
  obtain ⟨sub, hsub⟩ := h.sections s.inSection
  have hplace : get? sub s.key = valueOf s (c.get s) := by
    rw [← at?_path_of_table hsub, h.settings s]
  have htakes : Takes .text s (builtIn.get s) (get? sub s.key) (c.get s) := hplace ▸ takes_valueOf .text s (c.get s)
  refine ⟨sub, hsub, setKey_name_of_table hsub htakes (fun ht => ?_) value⟩
  subst ht
  rw [hplace]
  simp [valueOf]

theorem written?_of_valid {x : s.Value} (h : s.ofArgument? value = some x) : ∃ v, s.written? value = some v := by
  cases s with
  | timeoutMs =>
    rw [Setting.ofArgument?_timeoutMs] at h
    obtain ⟨n, hn, -⟩ := Option.bind_eq_some_iff.mp h
    exact ⟨.integer n, by rw [Setting.written?, hn]; rfl⟩
  | _ => exact ⟨.string value, rfl⟩

theorem edited_eq {t : Toml} (h : Toml.readSettled? text = some t) (key value : String) :
    edited key value text = match setKey key value t with
      | .error e => .error e
      | .ok t => if (ofText? t.print).isSome then .ok t.print else .error (.badValue key value) := by
  cases hset : setKey key value t <;> simp only [edited, h, hset]

theorem edited_of_keeps {t : Toml} (htext : Toml.readSettled? text = some t)
    (hset : setKey key value t = .ok (.table es)) (h : Keeps es c) : edited key value text = .ok (Toml.table es).print := by
  rw [edited_eq htext, hset]
  dsimp only
  rw [h.ofText?]
  rfl

theorem edited_of_misfit {t t' : Toml} (htext : Toml.readSettled? text = some t) (hset : setKey key value t = .ok t')
    (h : ∀ c', ofText? t'.print ≠ some c') : ∃ e, edited key value text = .error e := by
  refine ⟨.badValue key value, ?_⟩
  rw [edited_eq htext, hset]
  dsimp only
  rw [Option.eq_none_iff_forall_ne_some.mpr h]
  rfl

/-! ## Setting a setting -/

theorem key_ne_dateKey (s : Setting) : s.key ≠ dateKey := by cases s <;> decide

/-- **A valid value** for a setting is taken. -/
theorem edited_name_of_valid (h : Keeps es c) (htext : Toml.readSettled? text = some (.table es)) {x : s.Value}
    (hx : s.ofArgument? value = some x) :
    ∃ es', edited s.name value text = .ok (Toml.table es').print ∧ Keeps es' (c.set s x) := by
  obtain ⟨v, hv⟩ := written?_of_valid hx
  obtain ⟨sub, hsub, hset⟩ := setKey_name h s value
  rw [hv] at hset
  have hundated := h.undated.put_below h.tidy.ascending hsub (key_ne_dateKey s) v
  have hkeeps : Keeps (put s.inSection.name (.table (put s.key v sub)) es) (c.set s x) := by
    refine h.put_below hsub (leaf_written hv) hundated fun t => ?_
    by_cases ht : t = s
    · subst ht
      rw [if_pos t.path_eq, get_set_self, valueOf_written hv hx]
    · rw [if_neg fun he => ht (Setting.path_injective (he.trans s.path_eq.symm)), get_set_of_ne _ _ ht]
  exact ⟨_, edited_of_keeps htext hset hkeeps, hkeeps⟩

/-- **A value that is not valid** for a setting is refused. -/
theorem edited_name_of_invalid (h : Keeps es c) (htext : Toml.readSettled? text = some (.table es))
    (hx : s.ofArgument? value = none) : ∃ e, edited s.name value text = .error e := by
  obtain ⟨sub, hsub, hset⟩ := setKey_name h s value
  cases hv : s.written? value with
  | none =>
    rw [hv] at hset
    rw [edited_eq htext, hset]
    exact ⟨_, rfl⟩
  | some v =>
    rw [hv] at hset
    -- It is written all the same, and then the whole text fits no settings.
    refine edited_of_misfit htext hset fun c' hc' => ?_
    rw [ofText?_eq_some_iff (h.tidy.put_below hsub s.key (leaf_written hv))
      (sections_put_below h.sections hsub s.key v)] at hc'
    have htake := hc' s
    rw [at?_put_below hsub, if_pos s.path_eq] at htake
    have hread : read? .text s v = some (c'.get s) := htake
    rw [read?_written hv, hx] at hread
    cases hread

/-! ## Setting another key -/

theorem setAt_here {sections : List String} {leaf : String} {t : Toml}
    (h : setAt key value sections leaf [] (.table es) = .ok t) :
    ∃ v, replacement key value (get? es leaf) = .ok v ∧ t = .table (put leaf v es) := by
  rw [setAt] at h
  cases hv : replacement key value (get? es leaf) with
  | error e => rw [hv] at h; cases h
  | ok v =>
    rw [hv] at h
    cases h
    exact ⟨v, rfl, rfl⟩

theorem setAt_cons {n : String} {path sections : List String} {leaf : String} {t : Toml}
    (h : setAt key value sections leaf (n :: path) (.table es) = .ok t) :
    ∃ u t', get? es n = some u ∧ setAt key value sections leaf path u = .ok t' ∧ t = .table (put n t' es) := by
  rw [setAt] at h
  cases hn : get? es n with
  | none => rw [hn] at h; cases h
  | some u =>
    rw [hn] at h
    dsimp only at h
    cases hu : setAt key value sections leaf path u with
    | error e => rw [hu] at h; cases h
    | ok t' =>
      rw [hu] at h
      cases h
      exact ⟨u, t', rfl, hu, rfl⟩

theorem setAt_leaf_ne {v : Toml} (hv : Leaf v) (sections : List String) (leaf : String) (path : List String) (t : Toml) :
    setAt key value sections leaf path v ≠ .ok t := by
  intro h
  cases hv <;> cases path <;> cases h

/-- Whatever is set in a tidy tree is set at its root or in one of its tables. -/
theorem setAt_ok (h : Tidy es) {sections : List String} {leaf : String} {path : List String} {t : Toml}
    (hset : setAt key value sections leaf path (.table es) = .ok t) : ∃ v, Leaf v ∧
      (path = [] ∧ t = .table (put leaf v es) ∨
        ∃ n sub, path = [n] ∧ get? es n = some (.table sub) ∧ t = .table (put n (.table (put leaf v sub)) es)) := by
  cases path with
  | nil =>
    obtain ⟨v, hv, rfl⟩ := setAt_here hset
    exact ⟨v, leaf_replacement hv, .inl ⟨rfl, rfl⟩⟩
  | cons n path =>
    obtain ⟨u, t', hn, hu, rfl⟩ := setAt_cons hset
    rcases h.values _ (Toml.mem_of_get? hn) with hleaf | ⟨sub, hsub, -, hleaves⟩
    · exact absurd hu (setAt_leaf_ne hleaf _ _ _ _)
    · have hsub : u = .table sub := hsub
      subst hsub
      cases path with
      | nil =>
        obtain ⟨v, hv, rfl⟩ := setAt_here hu
        exact ⟨v, leaf_replacement hv, .inr ⟨n, sub, rfl, hn, rfl⟩⟩
      | cons m path =>
        -- There is no table below a table.
        obtain ⟨w, t'', hm, hw, -⟩ := setAt_cons hu
        exact absurd hw (setAt_leaf_ne (hleaves _ (Toml.mem_of_get? hm)) _ _ _ _)

theorem setKey_ok (h : Tidy es) {t : Toml} (hset : setKey key value (.table es) = .ok t) : ∃ v, Leaf v ∧
    ((∃ k, splitOn '.' key = [k] ∧ t = .table (put k v es)) ∨
      ∃ n k sub, splitOn '.' key = [n, k] ∧ get? es n = some (.table sub) ∧
        t = .table (put n (.table (put k v sub)) es)) := by
  unfold setKey at hset
  dsimp only at hset
  split at hset
  · cases hset
  · obtain ⟨v, hv, hcases⟩ := setAt_ok h hset
    have hne := Text.splitOn_ne_nil '.' key
    have hparts := List.dropLast_append_getLast hne
    rw [List.getLast?_eq_getLast_of_ne_nil hne, Option.getD_some] at hcases
    refine ⟨v, hv, ?_⟩
    rcases hcases with ⟨hpath, ht⟩ | ⟨n, sub, hpath, hn, ht⟩
    · rw [hpath] at hparts
      exact .inl ⟨_, hparts.symm, ht⟩
    · rw [hpath] at hparts
      exact .inr ⟨n, _, sub, hparts.symm, hn, ht⟩

theorem not_leaf_of_readSections {ss : List ConfigSection} {c' : Config} (h : readSections source c es ss = some c')
    {t : ConfigSection} (ht : t ∈ ss) {v : Toml} (hv : get? es t.name = some v) : ¬ Leaf v := by
  induction ss generalizing c with
  | nil => cases ht
  | cons u ss ih =>
    rw [readSections] at h
    rcases List.mem_cons.mp ht with rfl | ht
    · rw [hv] at h
      intro hleaf
      obtain ⟨c₁, hc₁, -⟩ := Option.bind_eq_some_iff.mp h
      cases hleaf <;> cases hc₁
    · cases hu : get? es u.name with
      | none =>
        rw [hu] at h
        exact ih h ht
      | some w =>
        rw [hu] at h
        obtain ⟨c₁, -, hc₁⟩ := Option.bind_eq_some_iff.mp h
        exact ih hc₁ ht

theorem not_leaf_of_fits (h : Tidy es) {c' : Config} (hfits : ofText? (Toml.table es).print = some c')
    {t : ConfigSection} {v : Toml} (hv : get? es t.name = some v) : ¬ Leaf v := by
  rw [ofText?_print h.shallow] at hfits
  rw [← h.ascending.distinct.get?_perm (Toml.listed_perm es)] at hv
  exact not_leaf_of_readSections hfits (by cases t <;> decide) hv

/-- A key of one part: in the place of a section it is refused, and beside the sections it changes no setting. -/
theorem edited_top (h : Keeps es c) (htext : Toml.readSettled? text = some (.table es)) {k : String} {v : Toml}
    (hv : Leaf v) (hset : setKey key value (.table es) = .ok (.table (put k v es)))
    (hback : k = dateKey → Toml.readSettled? (Toml.table (put k v es)).print = some (.table (put k v es))) :
    (∃ e, edited key value text = .error e) ∨
      ∃ es', edited key value text = .ok (Toml.table es').print ∧ Keeps es' c := by
  have htidy := h.tidy.put_leaf k hv
  by_cases hsection : ∃ s : ConfigSection, k = s.name
  · obtain ⟨s, rfl⟩ := hsection
    exact .inl (edited_of_misfit htext hset fun c' hc' => not_leaf_of_fits htidy hc' (Toml.get?_put_self ..) hv)
  · have hne : ∀ s : ConfigSection, s.name ≠ k := fun s he => hsection ⟨s, he.symm⟩
    have hold : ∀ sub, get? es k ≠ some (.table sub) := fun sub hsub => hsection (h.tables k sub hsub)
    have hundated : Undated (put k v es) := by
      by_cases hdate : k = dateKey
      · exact htidy.readSettled?_print_iff.mp (hback hdate)
      · exact h.undated.put_leaf h.tidy.ascending hdate hv hold
    have hkeeps := h.put_top hne hv hundated
    exact .inr ⟨_, edited_of_keeps htext hset hkeeps, hkeeps⟩

theorem edited_below (h : Keeps es c) (htext : Toml.readSettled? text = some (.table es)) {n k : String} {v : Toml}
    (hn : get? es n = some (.table sub)) (hv : Leaf v) (hpath : ∀ s : Setting, s.path ≠ [n, k])
    (hset : setKey key value (.table es) = .ok (.table (put n (.table (put k v sub)) es)))
    (hback : k = dateKey → Toml.readSettled? (Toml.table (put n (.table (put k v sub)) es)).print =
      some (.table (put n (.table (put k v sub)) es))) :
    ∃ es', edited key value text = .ok (Toml.table es').print ∧ Keeps es' c := by
  have hundated : Undated (put n (.table (put k v sub)) es) := by
    by_cases hdate : k = dateKey
    · exact (h.tidy.put_below hn k hv).readSettled?_print_iff.mp (hback hdate)
    · exact h.undated.put_below h.tidy.ascending hn hdate v
  have hkeeps := h.put_below hn hv hundated fun s => if_neg (hpath s)
  exact ⟨_, edited_of_keeps htext hset hkeeps, hkeeps⟩

/-- **A key that names no setting** is refused, or leaves all settings as they are.  Only a key with the key of a date
in it could have the tree read back as another one. -/
theorem edited_of_other (h : Keeps es c) (htext : Toml.readSettled? text = some (.table es))
    (hkey : ∀ s : Setting, key ≠ s.name)
    (hback : dateKey ∈ splitOn '.' key → ∀ t, setKey key value (.table es) = .ok t →
      Toml.readSettled? t.print = some t) :
    (∃ e, edited key value text = .error e) ∨
      ∃ es', edited key value text = .ok (Toml.table es').print ∧ Keeps es' c := by
  cases hset : setKey key value (.table es) with
  | error e =>
    rw [edited_eq htext, hset]
    exact .inl ⟨e, rfl⟩
  | ok t =>
    obtain ⟨v, hv, ⟨k, hparts, rfl⟩ | ⟨n, k, sub, hparts, hn, rfl⟩⟩ := setKey_ok h.tidy hset
    · exact edited_top h htext hv hset fun hdate => hback (by rw [hparts, hdate]; simp) _ hset
    · have hpath (s : Setting) : s.path ≠ [n, k] := fun he => hkey s (Setting.eq_name_iff.mp (hparts.trans he.symm))
      exact .inr (edited_below h htext hn hv hpath hset fun hdate => hback (by rw [hparts, hdate]; simp) _ hset)

end Config
end CalcConsole
