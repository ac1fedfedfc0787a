import CalcConsole.Proofs.Config.Told
import CalcConsole.Proofs.Toml.Merging
/-! # Loading

Each setting is looked for on its own: in its variable, in the file of the folder, in the file at home, and at last
among the built-in ones. -/
namespace CalcConsole

open Toml (at? isTable_iff)

namespace Config

/-- The tree of a file; one that is missing, cannot be read or is no TOML has an empty tree. -/
def treeAt (d : Disk) (cwd : Place) (path : String) : Toml := ((readLayer d cwd path).1).getD (.table [])

/-- The trees of the two files, as far as there are such, laid upon each other. -/
def layered (s : Surroundings) (d : Disk) : Toml :=
  mergeLayer (mergeLayer (.table []) (readLayer d s.place s.globalFile).1) (readLayer d s.place s.projectFile).1

/-- Whether a file can be read and is no TOML. -/
def isMalformed (d : Disk) (cwd : Place) (path : String) : Bool :=
  match d.readText cwd path with
  | .ok text => (Toml.readSettled? text).isNone
  | .error _ => false

variable {s : Surroundings} {d : Disk} {cwd : Place} {path : String}

theorem fst_readLayer_of_readText {text : String} (h : d.readText cwd path = .ok text) :
    (readLayer d cwd path).1 = Toml.readSettled? text := by
  unfold readLayer
  rw [h]
  cases hread : Toml.readSettled? text <;> simp [hread]

theorem isMalformed_of_readText {text : String} (h : d.readText cwd path = .ok text) :
    isMalformed d cwd path = (Toml.readSettled? text).isNone := by
  unfold isMalformed
  rw [h]

theorem ordered_of_readLayer {t : Toml} (h : (readLayer d cwd path).1 = some t) : Toml.Ordered t := by
  unfold readLayer at h
  split at h
  · cases h
  · split at h
    next hread =>
      cases h
      exact Toml.ordered_readSettled? hread
    · cases h

theorem ordered_treeAt : Toml.Ordered (treeAt d cwd path) := by
  unfold treeAt
  cases h : (readLayer d cwd path).1 with
  | none => exact Toml.ordered_nil
  | some t => exact ordered_of_readLayer h

theorem warnings_readLayer :
    (readLayer d cwd path).2 = if isMalformed d cwd path then [.malformed path] else [] := by
  unfold readLayer isMalformed
  cases d.readText cwd path with
  | error e => rfl
  | ok text => cases h : Toml.readSettled? text <;> simp [h]

/-- The file of the folder lies upon the one at home, which stands alone where the other is missing. -/
theorem layered_eq (s : Surroundings) (d : Disk) :
    layered s d = if (readLayer d s.place s.projectFile).1.isSome
      then (treeAt d s.place s.globalFile).merge (treeAt d s.place s.projectFile)
      else treeAt d s.place s.globalFile := by
  have hglobal : mergeLayer (.table []) (readLayer d s.place s.globalFile).1 = treeAt d s.place s.globalFile := by
    unfold treeAt
    cases hg : (readLayer d s.place s.globalFile).1 with
    | none => rfl
    | some g => exact Toml.merge_empty (ordered_of_readLayer hg)
  have hproject : treeAt d s.place s.projectFile = ((readLayer d s.place s.projectFile).1).getD (.table []) := rfl
  unfold layered
  rw [hglobal, hproject]
  cases (readLayer d s.place s.projectFile).1 <;> rfl

theorem isTable_of_fits {source : TreeSource} {t : Toml} {c : Config} (h : ofTree? source t = some c) : t.isTable := by
  cases t with
  | table es => rfl
  | _ => cases h

theorem tells_of_fits {source : TreeSource} {t : Toml} {c : Config}
    (htables : ∀ (u : ConfigSection) v, at? [u.name] t = some v → v.isTable) (h : ofTree? source t = some c) :
    Tells source t c := by
  obtain ⟨es, rfl⟩ := isTable_iff.mp (isTable_of_fits h)
  exact (ofTree?_eq_some_iff fun u v hv => htables u v ((Toml.at?_leaf es u.name).trans hv)).mp h

theorem at?_path_merge {base upper : Toml} (hu : Toml.Ordered upper) (t : Setting) (htable : (base.merge upper).isTable)
    (hsection : ∀ v, at? [t.inSection.name] (base.merge upper) = some v → v.isTable)
    (hkinds : ∀ b u, at? t.path base = some b → at? t.path upper = some u → (b.isTable && u.isTable) = false) :
    at? t.path (base.merge upper) = (at? t.path upper).or (at? t.path base) := by
  refine Toml.at?_merge_of_tables hu (fun q hq hne v hv => ?_) hkinds
  rcases List.prefix_cons_iff.mp hq with rfl | ⟨r, rfl, hr⟩
  · cases hv
    exact htable
  · rcases List.prefix_cons_iff.mp hr with rfl | ⟨r, rfl, hlast⟩
    · exact hsection v hv
    · rw [List.prefix_nil.mp hlast] at hne
      exact absurd rfl hne

theorem layered_of_fits {c : Config} (h : ofTree? .layers (layered s d) = some c) :
    layered s d = (treeAt d s.place s.globalFile).merge (treeAt d s.place s.projectFile) := by
  have hproject : treeAt d s.place s.projectFile = ((readLayer d s.place s.projectFile).1).getD (.table []) := rfl
  rw [layered_eq] at h ⊢
  cases hp : (readLayer d s.place s.projectFile).1 with
  | some p => rfl
  | none =>
    -- Nothing upon a table leaves it as it is, and what fits is a table.
    rw [hp] at h hproject
    have hglobal : ofTree? .layers (treeAt d s.place s.globalFile) = some c := h
    obtain ⟨es, hes⟩ := isTable_iff.mp (isTable_of_fits hglobal)
    rw [hproject, hes]
    exact (Toml.merge_nothing es).symm

theorem load_eq (s : Surroundings) (d : Disk) :
    load s d = ((ofLayers (layered s d)).1.overrideAll s.lookup,
      (if isMalformed d s.place s.globalFile then [.malformed s.globalFile] else []) ++
      (if isMalformed d s.place s.projectFile then [.malformed s.projectFile] else []) ++
      (ofLayers (layered s d)).2) := by
  rw [← warnings_readLayer, ← warnings_readLayer]
  rfl

/-- **Loading**, with `G` and `P` for the trees of the file at home and of the file in the folder.  When they fit
together, every section of theirs is a table and no setting is one, each setting is what its variable says, or else
what `P` has at its path, or else what `G` has there, or else the built-in value.  When they do not fit, it is what its
variable says, or else the built-in value.  A file that can be read is warned of if it is no TOML, and last both are
if they do not fit.  Where there is no `P`, it is `G` alone that has to fit. -/
theorem load_resolves (s : Surroundings) (d : Disk) :
    let G := treeAt d s.place s.globalFile
    let P := treeAt d s.place s.projectFile
    layered s d = (if (readLayer d s.place s.projectFile).1.isSome then G.merge P else G) ∧
    ((ofTree? .layers (layered s d)).isSome → layered s d = G.merge P ∧
      ((∀ (t : ConfigSection) v, at? [t.name] (G.merge P) = some v → v.isTable) →
        (∀ (t : Setting) v, at? t.path G = some v ∨ at? t.path P = some v → ¬ v.isTable) →
        ∀ t : Setting, ∃ x, Takes .layers t (builtIn.get t) ((at? t.path P).or (at? t.path G)) x ∧
          (load s d).1.get t = (said s.lookup t).getD x)) ∧
    ((ofTree? .layers (layered s d)).isNone →
      ∀ t : Setting, (load s d).1.get t = (said s.lookup t).getD (builtIn.get t)) ∧
    (load s d).2 = (if isMalformed d s.place s.globalFile then [.malformed s.globalFile] else []) ++
      (if isMalformed d s.place s.projectFile then [.malformed s.projectFile] else []) ++
      if (ofTree? .layers (layered s d)).isNone then [.misfit] else [] := by
  intro G P
  refine ⟨layered_eq s d, fun hfits => ?_, fun hmisfit t => ?_, ?_⟩
  · obtain ⟨c, hc⟩ := Option.isSome_iff_exists.mp hfits
    have hmerge : layered s d = G.merge P := layered_of_fits hc
    rw [hmerge] at hc
    refine ⟨hmerge, fun hsections hsettings t => ⟨c.get t, ?_, ?_⟩⟩
    · rw [← at?_path_merge ordered_treeAt t (isTable_of_fits hc) (hsections t.inSection)
        fun b _ hb _ => by simp [hsettings t b (.inl hb)]]
      exact tells_of_fits hsections hc t
    · rw [load_eq, hmerge]
      unfold ofLayers
      rw [hc]
      exact get_overrideAll c t
  · rw [load_eq]
    unfold ofLayers
    rw [Option.isNone_iff_eq_none.mp hmisfit]
    exact get_overrideAll builtIn t
  · rw [load_eq]
    unfold ofLayers
    cases ofTree? .layers (layered s d) <;> rfl

/-! ### Two files -/

/-- A file at home and one in the working folder, which have one setting in common. -/
def twoFiles : Disk :=
  ⟨[(["home"], .folder), (["home", ".daec"], .folder), (["work"], .folder),
    (["home", ".daec", "config.toml"],
      .file "[api]\nbase_url = \"http://home\"\ntimeout_ms = 5\n[logging]\nlevel = \"info\"\n".toUTF8 0o644),
    (["work", ".daec.toml"], .file "[api]\ntimeout_ms = 7\n[session]\nname = \"work\"\n".toUTF8 0o644)]⟩

def atWork : Surroundings := ⟨"/home", "/work", [("DAEC_SESSION", "mine"), ("DAEC_API_TIMEOUT_MS", "soon")]⟩

theorem plain_twoFiles :
    let G := treeAt twoFiles atWork.place atWork.globalFile
    let P := treeAt twoFiles atWork.place atWork.projectFile
    (ofTree? .layers (layered atWork twoFiles)).isSome = true ∧
    (∀ t ∈ ConfigSection.all, (at? [t.name] (G.merge P)).all Toml.isTable = true) ∧
    ∀ t ∈ Setting.all, (at? t.path G).any Toml.isTable = false ∧ (at? t.path P).any Toml.isTable = false := by
  decide +kernel

theorem load_resolves_two_files : (ofTree? .layers (layered atWork twoFiles)).isSome = true ∧
    (∀ t : Setting, ∃ x, Takes .layers t (builtIn.get t)
      ((at? t.path (treeAt twoFiles atWork.place atWork.projectFile)).or
        (at? t.path (treeAt twoFiles atWork.place atWork.globalFile))) x ∧
      (load atWork twoFiles).1.get t = (said atWork.lookup t).getD x) ∧
    load atWork twoFiles = (⟨"http://home", 7, "mine", none, .always, "info"⟩, []) := by
  obtain ⟨hfits, hsections, hsettings⟩ := plain_twoFiles
  refine ⟨hfits, ((load_resolves atWork twoFiles).2.1 hfits).2 (fun t v hv => ?_) fun t v hv => ?_, by decide +kernel⟩
  · have hall := hsections t (by cases t <;> decide)
    rwa [hv] at hall
  · obtain ⟨hglobal, hproject⟩ := hsettings t (by cases t <;> decide)
    rcases hv with hv | hv
    · rw [hv] at hglobal
      simpa using hglobal
    · rw [hv] at hproject
      simpa using hproject

/-! ### A date at home -/

def dateAtHome : Disk :=
  ⟨[(["home"], .folder), (["home", ".daec"], .folder),
    (["home", ".daec", "config.toml"], .file "\"$__toml_private_datetime\" = \"1979-05-27\"\n".toUTF8 0o644)]⟩

/-- The date does not fit, where an empty table upon it would. -/
theorem load_date_misfit :
    let s : Surroundings := ⟨"/home", "/work", []⟩
    let G := treeAt dateAtHome s.place s.globalFile
    let P := treeAt dateAtHome s.place s.projectFile
    (readLayer dateAtHome s.place s.projectFile).1.isNone = true ∧
    isMalformed dateAtHome s.place s.globalFile = false ∧ isMalformed dateAtHome s.place s.projectFile = false ∧
    (ofTree? .layers (G.merge P)).isSome = true ∧
    (∀ t ∈ ConfigSection.all, (at? [t.name] (G.merge P)).isNone = true) ∧
    (∀ t ∈ Setting.all, (at? t.path G).isNone = true ∧ (at? t.path P).isNone = true) ∧
    (load s dateAtHome).2 = [.misfit] := by
  decide +kernel

end Config
end CalcConsole
