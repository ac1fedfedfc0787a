import Mathlib.Data.List.Nodup
import CalcConsole.Config.Layers
import CalcConsole.Proofs.Toml.Order
/-! # What a tree says of each setting

The settings of a tree are read one by one, each by itself, and so are the variables that override them.  A tree fits
when its sections have forms that they can have, and what it holds for a setting is a value of that setting.  Where the
sections are tables, a setting stands at the end of its path. -/
namespace CalcConsole

open Toml (at? get? isTable_iff)

namespace Setting

def inSection : Setting → ConfigSection
  | baseUrl | timeoutMs => .api
  | sessionName | sessionFolder => .session
  | clearInput => .expressions
  | logLevel => .logging

/-- Where the setting stands in a tree. -/
def path (s : Setting) : List String := [s.inSection.name, s.key]

theorem mem_settings_iff {s : Setting} {t : ConfigSection} : s ∈ t.settings ↔ s.inSection = t := by
  cases s <;> cases t <;> decide

end Setting

namespace Config

def ofValues (f : (s : Setting) → s.Value) : Config :=
  ⟨f .baseUrl, f .timeoutMs, f .sessionName, f .sessionFolder, f .clearInput, f .logLevel⟩

@[simp] theorem get_ofValues (f : (s : Setting) → s.Value) (s : Setting) : (ofValues f).get s = f s := by
  cases s <;> rfl

variable {source : TreeSource} {c c' : Config} {es : Toml.Entries}

/-- What is found at the place of a setting gives it its value; where nothing is found, the old value stays. -/
def Takes (source : TreeSource) (s : Setting) (old : s.Value) : Option Toml → s.Value → Prop
  | none, x => x = old
  | some v, x => read? source s v = some x

/-- From `c` to `c'`, each of the settings takes what is found for it, and all others stay as they are. -/
def TakesAll (source : TreeSource) (f : Setting → Option Toml) (c c' : Config) (ss : List Setting) : Prop :=
  (∀ s ∈ ss, Takes source s (c.get s) (f s) (c'.get s)) ∧ ∀ s ∉ ss, c'.get s = c.get s

section TakesAll

variable {f g : Setting → Option Toml} {ss : List Setting}

theorem takesAll_of_not_found (h : ∀ s ∈ ss, f s = none) : TakesAll source f c c' ss ↔ c' = c := by
  constructor
  · rintro ⟨htakes, hkeeps⟩
    refine ext_get fun s => ?_
    by_cases hs : s ∈ ss
    · have htake := htakes s hs
      rwa [h s hs] at htake
    · exact hkeeps s hs
  · rintro rfl
    exact ⟨fun s hs => by rw [h s hs]; rfl, fun s _ => rfl⟩

theorem takesAll_congr (h : ∀ s ∈ ss, f s = g s) : TakesAll source f c c' ss ↔ TakesAll source g c c' ss :=
  and_congr_left' (forall₂_congr fun s hs => by rw [h s hs])

theorem takesAll_cons {s : Setting} (hs : s ∉ ss) : TakesAll source f c c' (s :: ss) ↔
    ∃ x, Takes source s (c.get s) (f s) x ∧ TakesAll source f (c.set s x) c' ss := by
  have hset (x : s.Value) {t : Setting} (ht : t ∈ ss) : (c.set s x).get t = c.get t :=
    get_set_of_ne c x fun he => hs (he ▸ ht)
  constructor
  · rintro ⟨htakes, hkeeps⟩
    -- What `s` takes is what it has in the end, since no later setting is `s`.
    refine ⟨c'.get s, htakes s (List.mem_cons_self ..), fun t ht => ?_, fun t ht => ?_⟩
    · rw [hset _ ht]
      exact htakes t (List.mem_cons_of_mem _ ht)
    · by_cases hts : t = s
      · subst hts
        rw [get_set_self]
      · rw [get_set_of_ne c _ hts]
        exact hkeeps t (by simp [hts, ht])
  · rintro ⟨x, hx, htakes, hkeeps⟩
    have hself : c'.get s = x := by rw [hkeeps s hs, get_set_self]
    refine ⟨fun t ht => ?_, fun t ht => ?_⟩
    · rcases List.mem_cons.mp ht with rfl | ht
      · rw [hself]
        exact hx
      · have htake := htakes t ht
        rwa [hset x ht] at htake
    · rw [List.mem_cons, not_or] at ht
      rw [hkeeps t ht.2, get_set_of_ne c x ht.1]

theorem takesAll_append {ss' : List Setting} (h : (ss ++ ss').Nodup) : TakesAll source f c c' (ss ++ ss') ↔
    ∃ c₁, TakesAll source f c c₁ ss ∧ TakesAll source f c₁ c' ss' := by
  induction ss generalizing c with
  | nil =>
    have hnone (c₁ : Config) : TakesAll source f c c₁ [] ↔ c₁ = c := takesAll_of_not_found (by simp)
    simp only [List.nil_append, hnone, exists_eq_left]
  | cons s ss ih =>
    rw [List.cons_append] at h ⊢
    obtain ⟨hs, hrest⟩ := List.nodup_cons.mp h
    have hs' : s ∉ ss := fun hmem => hs (List.mem_append_left _ hmem)
    rw [takesAll_cons hs]
    simp only [takesAll_cons hs', ih hrest]
    constructor
    · rintro ⟨x, hx, c₁, hc₁, hc'⟩
      exact ⟨c₁, ⟨x, hx, hc₁⟩, hc'⟩
    · rintro ⟨c₁, ⟨x, hx, hc₁⟩, hc'⟩
      exact ⟨x, hx, c₁, hc₁, hc'⟩

end TakesAll

/-! ## Sections -/

theorem set_get (c : Config) (s : Setting) : c.set s (c.get s) = c := by cases s <;> rfl

/-- **The settings of a table** are taken over one by one. -/
theorem readEntries_eq_some_iff {ss : List Setting} (hss : ss.Nodup) :
    readEntries source c es ss = some c' ↔ TakesAll source (fun s => get? es s.key) c c' ss := by
  induction ss generalizing c with
  | nil => rw [readEntries, Option.some_inj, takesAll_of_not_found (by simp), eq_comm]
  | cons s ss ih =>
    obtain ⟨hs, hss⟩ := List.nodup_cons.mp hss
    rw [readEntries, takesAll_cons hs]
    simp only [← ih hss]
    cases hv : get? es s.key with
    | none => simp only [Takes, exists_eq_left, set_get]
    | some v => exact Option.bind_eq_some_iff

/-- **The settings of an array** are taken over in order; only a text may have items beyond them. -/
theorem readItems_eq_some_iff {ss : List Setting} (hss : ss.Nodup) (items : List Toml) :
    readItems source c ss items = some c' ↔
      (source = .text ∨ items.length ≤ ss.length) ∧ TakesAll source (fun s => items[ss.idxOf s]?) c c' ss := by
  induction ss generalizing c items with
  | nil =>
    rw [takesAll_of_not_found (by simp)]
    cases items <;> simp [readItems, eq_comm]
  | cons s ss ih =>
    cases items with
    | nil =>
      rw [takesAll_of_not_found (by simp), readItems]
      simp [eq_comm]
    | cons v vs =>
      obtain ⟨hs, hss⟩ := List.nodup_cons.mp hss
      have hlater : ∀ t ∈ ss, (v :: vs)[(s :: ss).idxOf t]? = vs[ss.idxOf t]? := fun t ht => by
        have hne : s ≠ t := fun he => hs (he ▸ ht)
        rw [List.idxOf_cons_ne _ hne, List.getElem?_cons_succ]
      rw [readItems, takesAll_cons hs, List.idxOf_cons_self]
      simp only [takesAll_congr hlater, List.length_cons, Nat.add_le_add_iff_right, Option.bind_eq_some_iff, ih hss]
      constructor
      · rintro ⟨x, hx, hlength, hrest⟩
        exact ⟨hlength, x, hx, hrest⟩
      · rintro ⟨hlength, x, hx, hrest⟩
        exact ⟨x, hx, hlength, hrest⟩

/-- The forms that a section can have. -/
def Shaped (source : TreeSource) (s : ConfigSection) : Toml → Prop
  | .table _ => True
  | .array items => source = .text ∨ items.length ≤ s.settings.length
  | .datetime _ => source = .text
  | _ => False

/-- What a section holds for a setting: under its key, or in an array at its turn. -/
def foundIn (s : Setting) : Toml → Option Toml
  | .table es => get? es s.key
  | .array items => items[s.inSection.settings.idxOf s]?
  | _ => none

def found (es : Toml.Entries) (s : Setting) : Option Toml := (get? es s.inSection.name).bind (foundIn s)

theorem nodup_settings (s : ConfigSection) : s.settings.Nodup := by cases s <;> decide

theorem readSection_eq_some_iff {s : ConfigSection} {v : Toml} : readSection source c s v = some c' ↔
    Shaped source s v ∧ TakesAll source (fun t => foundIn t v) c c' s.settings := by
  cases v with
  | table sub =>
    rw [and_iff_right (show Shaped source s (.table sub) from trivial)]
    exact readEntries_eq_some_iff (nodup_settings s)
  | array items =>
    have hplace : ∀ t ∈ s.settings, items[s.settings.idxOf t]? = foundIn t (.array items) := fun t ht => by
      rw [foundIn, Setting.mem_settings_iff.mp ht]
    rw [← takesAll_congr hplace]
    exact readItems_eq_some_iff (nodup_settings s) items
  | datetime d =>
    have hnone : TakesAll source (fun t => foundIn t (.datetime d)) c c' s.settings ↔ c' = c :=
      takesAll_of_not_found fun _ _ => rfl
    simp [readSection, Shaped, hnone, eq_comm]
  | _ => simp [readSection, Shaped]

/-- **A section** has a form that it can have, and gives its settings what it holds for them. -/
theorem readSections_cons (s : ConfigSection) (ss : List ConfigSection) :
    readSections source c es (s :: ss) = some c' ↔ (∀ v, get? es s.name = some v → Shaped source s v) ∧
      ∃ c₁, TakesAll source (found es) c c₁ s.settings ∧ readSections source c₁ es ss = some c' := by
  have hfound : ∀ t ∈ s.settings, found es t = (get? es s.name).bind (foundIn t) := fun t ht => by
    rw [found, Setting.mem_settings_iff.mp ht]
  rw [readSections]
  simp only [takesAll_congr hfound]
  cases hv : get? es s.name with
  | none =>
    have hnone (c₁ : Config) : TakesAll source (fun t => Option.bind none (foundIn t)) c c₁ s.settings ↔ c₁ = c :=
      takesAll_of_not_found fun _ _ => rfl
    simp only [hnone, reduceCtorEq, false_implies, implies_true, true_and, exists_eq_left]
  | some v =>
    simp only [Option.bind_eq_some_iff, Option.bind_some, readSection_eq_some_iff, Option.some_inj, forall_eq', and_assoc,
      exists_and_left]

theorem nodup_flatMap_settings {ss : List ConfigSection} (h : ss.Nodup) : (ss.flatMap ConfigSection.settings).Nodup := by
  refine List.nodup_flatMap.2 ⟨fun s _ => nodup_settings s, h.imp fun {s t} hne x hs ht => hne ?_⟩
  rw [← Setting.mem_settings_iff.mp hs, Setting.mem_settings_iff.mp ht]

theorem readSections_eq_some_iff {ss : List ConfigSection} (hss : ss.Nodup) :
    readSections source c es ss = some c' ↔ (∀ s ∈ ss, ∀ v, get? es s.name = some v → Shaped source s v) ∧
      TakesAll source (found es) c c' (ss.flatMap ConfigSection.settings) := by
  induction ss generalizing c with
  | nil => rw [readSections, Option.some_inj, takesAll_of_not_found (by simp), eq_comm]; simp
  | cons s ss ih =>
    have hnodup := nodup_flatMap_settings hss
    rw [List.flatMap_cons] at hnodup ⊢
    rw [readSections_cons, takesAll_append hnodup, List.forall_mem_cons]
    simp only [ih (List.nodup_cons.mp hss).2]
    constructor
    · rintro ⟨hs, c₁, hc₁, hrest, hc'⟩
      exact ⟨⟨hs, hrest⟩, c₁, hc₁, hc'⟩
    · rintro ⟨⟨hs, hrest⟩, c₁, hc₁, hc'⟩
      exact ⟨hs, c₁, hc₁, hrest, hc'⟩

/-! ## Trees -/

/-- **A tree fits** when its sections have forms that they can have, and each setting takes what the tree holds for it,
or else stays the built-in one. -/
theorem ofTree?_table_eq_some_iff : ofTree? source (.table es) = some c ↔
    (∀ (s : ConfigSection) v, get? es s.name = some v → Shaped source s v) ∧
      ∀ s : Setting, Takes source s (builtIn.get s) (found es s) (c.get s) := by
  have hsections : ∀ s : ConfigSection, s ∈ ConfigSection.all := by intro s; cases s <;> decide
  have hsettings : ∀ s : Setting, s ∈ ConfigSection.all.flatMap ConfigSection.settings := by intro s; cases s <;> decide
  rw [ofTree?, readSections_eq_some_iff (by decide)]
  exact ⟨fun ⟨hs, ht, _⟩ => ⟨fun s => hs s (hsections s), fun s => ht s (hsettings s)⟩,
    fun ⟨hs, ht⟩ => ⟨fun s _ => hs s, fun s _ => ht s, fun s hn => absurd (hsettings s) hn⟩⟩

theorem clearInputOf?_table {p : ClearInput} (h : clearInputOf? (.table es) = some p) :
    ∃ k v, es = [(k, v)] ∧ policy? k = some p ∧ (v = .table [] ∨ v = .array []) := by
  unfold clearInputOf? at h
  split at h
  next he => cases he
  next k he =>
    cases he
    exact ⟨k, _, rfl, h, .inl rfl⟩
  next k he =>
    cases he
    exact ⟨k, _, rfl, h, .inr rfl⟩
  · cases h

/-- Each setting has the value that the tree has at its path, or else the built-in one. -/
def Tells (source : TreeSource) (t : Toml) (c : Config) : Prop :=
  ∀ s : Setting, Takes source s (builtIn.get s) (at? s.path t) (c.get s)

theorem at?_path_of_table {s : Setting} {sub : Toml.Entries} (h : get? es s.inSection.name = some (.table sub)) :
    at? s.path (.table es) = get? sub s.key := by
  unfold Setting.path
  rw [Toml.at?_cons, h, Option.bind_some, Toml.at?_cons]
  cases get? sub s.key <;> rfl

theorem found_eq_at? {s : Setting} (h : ∀ v, get? es s.inSection.name = some v → v.isTable) :
    found es s = at? s.path (.table es) := by
  cases hv : get? es s.inSection.name with
  | none => rw [found, Setting.path, Toml.at?_cons, hv]; rfl
  | some v =>
    obtain ⟨sub, rfl⟩ := isTable_iff.mp (h v hv)
    rw [at?_path_of_table hv, found, hv]
    rfl

/-- **The settings of a tree** whose sections are tables are those that it tells. -/
theorem ofTree?_eq_some_iff (htables : ∀ (s : ConfigSection) v, get? es s.name = some v → v.isTable) :
    ofTree? source (.table es) = some c ↔ Tells source (.table es) c := by
  have hshaped : ∀ (s : ConfigSection) v, get? es s.name = some v → Shaped source s v := fun s v hv => by
    obtain ⟨sub, rfl⟩ := isTable_iff.mp (htables s v hv)
    trivial
  rw [ofTree?_table_eq_some_iff, and_iff_right hshaped]
  exact forall_congr' fun s => by rw [found_eq_at? (htables s.inSection)]

/-! ## Variables -/

def said (lookup : String → Option String) (s : Setting) : Option s.Value := (lookup s.envName).bind s.ofVariable?

variable {lookup : String → Option String}

theorem get_override (c : Config) (s t : Setting) :
    (c.override lookup s).get t = if t = s then (said lookup t).getD (c.get t) else c.get t := by
  have hoverride : c.override lookup s = c.set s ((said lookup s).getD (c.get s)) := by
    unfold override said
    cases (lookup s.envName).bind s.ofVariable? with
    | some x => rfl
    | none => exact (set_get c s).symm
  rw [hoverride]
  by_cases h : t = s
  · subst h
    rw [if_pos rfl, get_set_self]
  · rw [if_neg h, get_set_of_ne _ _ h]

theorem get_foldl_override {ss : List Setting} (hss : ss.Nodup) (c : Config) (t : Setting) :
    (ss.foldl (override lookup) c).get t = if t ∈ ss then (said lookup t).getD (c.get t) else c.get t := by
  induction ss generalizing c with
  | nil => simp
  | cons s ss ih =>
    obtain ⟨hs, hss⟩ := List.nodup_cons.mp hss
    rw [List.foldl_cons, ih hss, get_override]
    by_cases h : t = s
    · subst h
      simp [hs]
    · simp [h]

/-- **A setting** is what its variable says, or else what it was. -/
theorem get_overrideAll (c : Config) (t : Setting) :
    (c.overrideAll lookup).get t = (said lookup t).getD (c.get t) := by
  have hall : t ∈ Setting.all := by cases t <;> decide
  unfold overrideAll
  rw [get_foldl_override (by decide), if_pos hall]

end Config
end CalcConsole
