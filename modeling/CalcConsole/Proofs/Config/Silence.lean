import CalcConsole.Proofs.Config.Loading
/-! # What is lost without a warning

A file of settings that is a text and no TOML is named by a warning, and one that is there but is no text, or is a
folder, is passed over without any.  When nothing is warned of, every other file that is there is a layer: what the file
of the folder holds for a setting is used, and so is what the file at home holds where the other one has nothing in its
place (`load_without_warning`). -/
namespace CalcConsole
namespace Config

open Toml (at? get? Ordered mergeValue isTable_iff)
open Toml.merge (mergeEntries)

/-! ## What a layer holds -/

/-- The value that a tree has for a setting, in the table of its section under the key, or in an array at its turn. -/
def held? (t : Setting) : Toml → Option t.Value
  | .table es => (found es t).bind (read? .layers t)
  | _ => none

/-- A tree has nothing that would stand in the place of a setting of the tree under it: nothing in the section, or a
table there without the key, upon a table. -/
def Leaves (t : Setting) (base upper : Toml) : Prop :=
  ∀ v, at? [t.inSection.name] upper = some v →
    v.isTable ∧ foundIn t v = none ∧ ∀ u, at? [t.inSection.name] base = some u → u.isTable

variable {t : Setting} {bs us : Toml.Entries} {c : Config}

theorem found_mergeEntries (hu : Ordered (.table us)) :
    found (mergeEntries bs us) t =
      (mergeValue (get? bs t.inSection.name) (get? us t.inSection.name)).bind (foundIn t) := by
  rw [found, Toml.get?_mergeEntries hu.here]

theorem foundIn_merge {b u : Toml} (hu : Ordered u) (hb : b.isTable = true) (hupper : u.isTable = true) :
    foundIn t (b.merge u) = mergeValue (foundIn t b) (foundIn t u) := by
  obtain ⟨bs, rfl⟩ := isTable_iff.mp hb
  obtain ⟨us, rfl⟩ := isTable_iff.mp hupper
  rw [Toml.merge, foundIn, Toml.get?_mergeEntries hu.here]
  rfl

/-- What the upper tree holds for a setting is there, at most with something of the lower one in it. -/
theorem found_of_upper (hu : Ordered (.table us)) {v : Toml} (h : found us t = some v) :
    ∃ old w, mergeValue old (some v) = some w ∧ found (mergeEntries bs us) t = some w := by
  rw [found_mergeEntries hu]
  obtain ⟨u, hsection, hv⟩ := Option.bind_eq_some_iff.mp h
  rw [hsection]
  cases get? bs t.inSection.name with
  | none => exact ⟨none, v, rfl, hv⟩
  | some b =>
    have hmerge : mergeValue (some b) (some u) = some (b.merge u) := rfl
    rw [hmerge, Option.bind_some]
    by_cases htables : (b.isTable && u.isTable) = true
    · obtain ⟨hb, hupper⟩ := Bool.and_eq_true_iff.mp htables
      rw [foundIn_merge (hu.get? hsection) hb hupper, hv]
      cases foundIn t b with
      | none => exact ⟨none, v, rfl, rfl⟩
      | some old => exact ⟨some old, _, rfl, rfl⟩
    · rw [Toml.merge_of_not_tables (Bool.eq_false_iff.mpr htables), hv]
      exact ⟨none, v, rfl, rfl⟩

theorem found_of_base (hu : Ordered (.table us)) {v : Toml} (h : found bs t = some v)
    (hleaves : Leaves t (.table bs) (.table us)) : found (mergeEntries bs us) t = some v := by
  rw [found_mergeEntries hu]
  obtain ⟨b, hsection, hv⟩ := Option.bind_eq_some_iff.mp h
  rw [hsection]
  cases hupper : get? us t.inSection.name with
  | none => exact hv
  | some u =>
    obtain ⟨htable, hnone, hbase⟩ := hleaves u ((Toml.at?_leaf us _).trans hupper)
    have hb : b.isTable = true := hbase b ((Toml.at?_leaf bs _).trans hsection)
    have hmerge : mergeValue (some b) (some u) = some (b.merge u) := rfl
    rw [hmerge, Option.bind_some, foundIn_merge (hu.get? hupper) hb htable, hnone, hv]
    rfl

/-! ## What is used -/

theorem read?_of_found {es : Toml.Entries} (h : ofTree? .layers (.table es) = some c) {w : Toml}
    (hw : found es t = some w) : read? .layers t w = some (c.get t) := by
  have htakes := (ofTree?_table_eq_some_iff.mp h).2 t
  rwa [hw] at htakes

/-- A policy that is laid upon another one as a table is the only one that both can give. -/
theorem clearInputOf?_merge {p q : ClearInput} (hp : clearInputOf? (.table us) = some p)
    (hq : clearInputOf? ((Toml.table bs).merge (.table us)) = some q) : q = p := by
  obtain ⟨k, v, rfl, hk, -⟩ := clearInputOf?_table hp
  obtain ⟨w, -, hmerge⟩ := Toml.mergeEntries_cons (k, v) bs []
  rw [Toml.merge, hmerge, mergeEntries] at hq
  obtain ⟨k', v', hput, hk', -⟩ := clearInputOf?_table hq
  have hself := Toml.get?_put_self k w bs
  rw [hput, Toml.get?_cons] at hself
  by_cases hkey : k' = k
  · subst hkey
    exact Option.some.inj (hk'.symm.trans hk)
  · rw [if_neg hkey] at hself
    cases hself

/-- **A value that is laid upon another one** and can still be read gives the same as before. -/
theorem eq_of_read?_mergeValue {old : Option Toml} {v w : Toml} {x y : t.Value} (hw : mergeValue old (some v) = some w)
    (hx : read? .layers t v = some x) (hy : read? .layers t w = some y) : y = x := by
  have hsame : ∀ {u}, u = v → read? .layers t u = some y → y = x := by
    rintro u rfl hu
    exact Option.some.inj (hu.symm.trans hx)
  cases old with
  | none => exact hsame (Option.some.inj hw).symm hy
  | some b =>
    cases hw
    by_cases htables : (b.isTable && v.isTable) = true
    · obtain ⟨hb, hv⟩ := Bool.and_eq_true_iff.mp htables
      obtain ⟨bs, rfl⟩ := isTable_iff.mp hb
      obtain ⟨us, rfl⟩ := isTable_iff.mp hv
      -- only a policy can be given as a table
      cases t with
      | clearInput => exact clearInputOf?_merge hx hy
      | _ => cases hx
    · exact hsame (Toml.merge_of_not_tables (Bool.eq_false_iff.mpr htables)) hy

variable {x : t.Value} {base upper : Toml}

theorem held?_eq_some_iff {tree : Toml} : held? t tree = some x ↔
    ∃ es v, tree = .table es ∧ found es t = some v ∧ read? .layers t v = some x := by
  cases tree with
  | table es => simp [held?, Option.bind_eq_some_iff]
  | _ => simp [held?]

/-- **What the upper tree holds** is used. -/
theorem get_of_upper (hu : Ordered upper) (hfits : ofTree? .layers (base.merge upper) = some c)
    (h : held? t upper = some x) : c.get t = x := by
  obtain ⟨us, v, rfl, hv, hx⟩ := held?_eq_some_iff.mp h
  cases base with
  | table bs =>
    obtain ⟨old, w, hw, hfound⟩ := found_of_upper hu hv
    exact eq_of_read?_mergeValue hw hx (read?_of_found hfits hfound)
  | _ =>
    rw [Toml.merge_of_not_tables rfl] at hfits
    exact Option.some.inj ((read?_of_found hfits hv).symm.trans hx)

/-- **What the lower tree holds** is used if the upper one leaves it. -/
theorem get_of_base (hu : Ordered upper) (hfits : ofTree? .layers (base.merge upper) = some c)
    (h : held? t base = some x) (hleaves : Leaves t base upper) : c.get t = x := by
  obtain ⟨bs, v, rfl, hv, hx⟩ := held?_eq_some_iff.mp h
  have htable := isTable_of_fits hfits
  rw [Toml.isTable_merge] at htable
  obtain ⟨us, rfl⟩ := isTable_iff.mp htable
  exact Option.some.inj ((read?_of_found hfits (found_of_base hu hv hleaves)).symm.trans hx)

/-! ## Loading without a warning -/

/-- How a file stands that no warning names: it is missing, it cannot be read as a text, or it is a layer. -/
inductive Unnamed (d : Disk) (cwd : Place) (path : String) : Prop
  | missing (h : d.contains cwd path = false)
  | unreadable (there : d.contains cwd path = true) {e : FileError} (h : d.readText cwd path = .error e)
  | layer {text : String} {tree : Toml} (h : d.readText cwd path = .ok text)
    (htree : Toml.readSettled? text = some tree) (hlayer : (readLayer d cwd path).1 = some tree)

variable {s : Surroundings} {d : Disk} {cwd : Place} {path : String}

theorem unnamed_of_not_malformed (h : isMalformed d cwd path = false) : Unnamed d cwd path := by
  cases hread : d.readText cwd path with
  | error e =>
    cases hthere : d.contains cwd path with
    | false => exact .missing hthere
    | true => exact .unreadable hthere hread
  | ok text =>
    rw [isMalformed_of_readText hread, Option.isNone_eq_false_iff] at h
    obtain ⟨tree, htree⟩ := Option.isSome_iff_exists.mp h
    exact .layer hread htree ((fst_readLayer_of_readText hread).trans htree)

theorem isMalformed_of_no_layer (h : (readLayer d cwd path).1 = none) :
    isMalformed d cwd path = true ↔ ∃ text, d.readText cwd path = .ok text := by
  cases hread : d.readText cwd path with
  | error e => simp [isMalformed, hread]
  | ok text =>
    rw [fst_readLayer_of_readText hread] at h
    simp [isMalformed_of_readText hread, h]

theorem malformed_mem_load_iff (h : path ∈ [s.globalFile, s.projectFile]) :
    .malformed path ∈ (load s d).2 ↔ isMalformed d s.place path = true := by
  have hmisfit : .malformed path ∉ (ofLayers (layered s d)).2 := by
    unfold ofLayers
    cases ofTree? .layers (layered s d) <;> simp
  have hnamed : ∀ file, .malformed path ∈ (if isMalformed d s.place file then [ConfigWarning.malformed file] else []) ↔
      isMalformed d s.place file = true ∧ path = file := by
    intro file
    by_cases hfile : isMalformed d s.place file = true <;> simp [hfile]
  rw [load_eq]
  simp only [List.mem_append, hmisfit, hnamed, or_false]
  simp only [List.mem_cons, List.not_mem_nil, or_false] at h
  constructor
  · rintro (⟨hfile, rfl⟩ | ⟨hfile, rfl⟩) <;> exact hfile
  · intro hpath
    rcases h with rfl | rfl
    · exact .inl ⟨hpath, rfl⟩
    · exact .inr ⟨hpath, rfl⟩

theorem fits_of_no_warning (h : (load s d).2 = []) : ∃ c, ofTree? .layers (layered s d) = some c ∧
    ∀ t : Setting, (load s d).1.get t = (said s.lookup t).getD (c.get t) := by
  rw [load_eq] at h ⊢
  have hlast := (List.append_eq_nil_iff.mp h).2
  unfold ofLayers at hlast ⊢
  cases hc : ofTree? .layers (layered s d) with
  | none => rw [hc] at hlast; cases hlast
  | some c => exact ⟨c, rfl, get_overrideAll c⟩

/-- **What is lost without a warning.**  A file that gives no layer is named by a warning just if it can be read as a
text.  So where nothing is warned of, each of the two files is missing, cannot be read, or is a layer; what the file of
the folder holds for a setting is used unless a variable says something else, and so is what the file at home holds
unless the other file has something in its place. -/
theorem load_without_warning (s : Surroundings) (d : Disk) :
    (∀ path ∈ [s.globalFile, s.projectFile], (readLayer d s.place path).1 = none →
      (.malformed path ∈ (load s d).2 ↔ ∃ text, d.readText s.place path = .ok text)) ∧
    ((load s d).2 = [] →
      (∀ path ∈ [s.globalFile, s.projectFile], Unnamed d s.place path) ∧
      ∀ (t : Setting) (x : t.Value),
        (held? t (treeAt d s.place s.projectFile) = some x → (load s d).1.get t = (said s.lookup t).getD x) ∧
        (held? t (treeAt d s.place s.globalFile) = some x →
          Leaves t (treeAt d s.place s.globalFile) (treeAt d s.place s.projectFile) →
          (load s d).1.get t = (said s.lookup t).getD x)) := by
  refine ⟨fun path hpath hlost => ?_, fun hquiet => ⟨fun path hpath => ?_, fun t x => ?_⟩⟩
  · rw [malformed_mem_load_iff hpath]
    exact isMalformed_of_no_layer hlost
  · refine unnamed_of_not_malformed (Bool.eq_false_iff.mpr fun hmalformed => ?_)
    have hmem := (malformed_mem_load_iff hpath).mpr hmalformed
    rw [hquiet] at hmem
    cases hmem
  · obtain ⟨c, hc, hget⟩ := fits_of_no_warning hquiet
    rw [layered_of_fits hc] at hc
    rw [hget]
    exact ⟨fun h => by rw [get_of_upper ordered_treeAt hc h],
      fun h hleaves => by rw [get_of_base ordered_treeAt hc h hleaves]⟩

/-! ### Files that give nothing -/

/-- A file at home that is no TOML, and one in the working folder that is no text. -/
def spoiled : Disk :=
  ⟨[(["home"], .folder), (["home", ".daec"], .folder), (["work"], .folder),
    (["home", ".daec", "config.toml"], .file "[api\n".toUTF8 0o644), (["work", ".daec.toml"], .file ⟨#[0xff]⟩ 0o644)]⟩

theorem load_without_warning_at_work :
    (.malformed atWork.globalFile ∈ (load atWork spoiled).2 ∧ .malformed atWork.projectFile ∉ (load atWork spoiled).2) ∧
    (load atWork twoFiles).2 = [] ∧ (load atWork twoFiles).1.get .timeoutMs = 7 ∧
    (load atWork twoFiles).1.get .logLevel = "info" := by
  obtain ⟨hnamed, -⟩ := load_without_warning atWork spoiled
  have hglobal : (readLayer spoiled atWork.place atWork.globalFile).1 = none :=
    Option.isNone_iff_eq_none.mp (by decide +kernel)
  have hproject : (readLayer spoiled atWork.place atWork.projectFile).1 = none :=
    Option.isNone_iff_eq_none.mp (by decide +kernel)
  have hquiet : (load atWork twoFiles).2 = [] := by decide +kernel
  obtain ⟨-, hused⟩ := (load_without_warning atWork twoFiles).2 hquiet
  have hleaves : Leaves .logLevel (treeAt twoFiles atWork.place atWork.globalFile)
      (treeAt twoFiles atWork.place atWork.projectFile) := by
    have hnone : (at? [Setting.logLevel.inSection.name] (treeAt twoFiles atWork.place atWork.projectFile)).isNone := by
      decide +kernel
    intro v hv
    rw [hv] at hnone
    cases hnone
  refine ⟨⟨?_, ?_⟩, hquiet, ?_, ?_⟩
  · exact (hnamed _ (.head _) hglobal).mpr ((isMalformed_of_no_layer hglobal).mp (by decide +kernel))
  · exact mt (hnamed _ (.tail _ (.head _)) hproject).mp
      (mt (isMalformed_of_no_layer hproject).mpr (by decide +kernel))
  · exact (hused .timeoutMs 7).1 (by decide +kernel)
  · exact (hused .logLevel "info").2 (by decide +kernel) hleaves

def noText : Disk :=
  ⟨[(["home"], .folder), (["home", ".daec"], .folder), (["home", ".daec", "config.toml"], .file ⟨#[0xff]⟩ 0o644)]⟩

/-- The file is there and gives nothing, and no warning says so. -/
theorem lost_without_warning :
    let s : Surroundings := ⟨"/home", "/work", []⟩
    (load s noText).2 = [] ∧ noText.contains s.place s.globalFile = true ∧
      (readLayer noText s.place s.globalFile).1.isNone = true ∧ load s noText = load s ⟨[(["home"], .folder)]⟩ := by
  decide +kernel

end Config
end CalcConsole
