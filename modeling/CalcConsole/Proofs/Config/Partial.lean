import CalcConsole.Proofs.Config.Changes
import CalcConsole.Proofs.Toml.EachOnce
/-! # Settings in a file that has only some of them

A file may leave out settings and sections, or have a section as an array.  Loading lays files upon each other and takes
a date for a text; the check of a change reads the new text as it stands and does not.  Where no setting is a date the
two agree (`ofTree?_of_settles`), so a setting can be set in every file that loads, if its section is a table there
(`set_in_partial_file`). -/
namespace CalcConsole

open Disk (absolute destination)
open Toml (get? put Settles Everywhere Distinct)

namespace Config

variable {source : TreeSource} {es fs sub : Toml.Entries} {c : Config} {t u : Setting} {v v' : Toml}

/-! ## What the two readings have in common -/

theorem read?_of_not_date (h : ∀ d, v ≠ .datetime d) (t : Setting) : read? .text t v = read? .layers t v := by
  have htext : textOf? .text v = textOf? .layers v := by
    cases v with
    | datetime d => exact absurd rfl (h d)
    | _ => rfl
  cases t with
  | timeoutMs => rfl
  | clearInput => rfl
  | sessionFolder => simp only [read?, htext]
  | _ => exact htext

theorem clearInputOf?_of_settleEntries? {p : ClearInput} (hd : Distinct es) (hs : Toml.settleEntries? es = some fs)
    (h : clearInputOf? (.table fs) = some p) : clearInputOf? (.table es) = some p := by
  obtain ⟨k, v', rfl, hp, hempty⟩ := clearInputOf?_table h
  obtain ⟨v, rfl, hsettles⟩ := Toml.eq_singleton_of_settleEntries? hd hs
  rcases hempty with rfl | rfl
  · rw [Toml.eq_of_settles_nil hsettles]
    exact hp
  · rw [Toml.eq_of_settles_no_items hsettles]
    exact hp

/-- **A value** that is no date when it is settled is read as it stands like the settled one. -/
theorem read?_of_settles (h : Settles v v') (hd : Everywhere Distinct v) (hdate : ∀ d, v' ≠ .datetime d) {x : t.Value}
    (hx : read? .layers t v' = some x) : read? .text t v = some x := by
  cases v with
  | table es =>
    obtain ⟨d, rfl⟩ | ⟨fs, hfs, rfl⟩ := Toml.settle?_table_cases h
    · exact absurd rfl (hdate d)
    · -- Only a policy can be given as a table.
      cases t with
      | clearInput => exact clearInputOf?_of_settleEntries? hd.here hfs hx
      | _ => cases hx
  | array items =>
    obtain ⟨us, -, rfl⟩ := Toml.settle?_array_cases h
    cases t <;> cases hx
  | datetime d =>
    cases h
    exact absurd rfl (hdate d)
  | _ =>
    cases h
    rw [read?_of_not_date hdate]
    exact hx

theorem takes_of_settles {o o' : Option Toml} {old x : t.Value} (h : Option.Rel Settles o o')
    (hd : ∀ v, o = some v → Everywhere Distinct v) (hdate : ∀ d, o' ≠ some (.datetime d))
    (hx : Takes .layers t old o' x) : Takes .text t old o x := by
  cases h with
  | none => exact hx
  | some hsettles => exact read?_of_settles hsettles (hd _ rfl) (fun d he => hdate d (he ▸ rfl)) hx

/-! ## What the two trees hold -/

theorem rel_foundIn (h : Settles v v') (hdate : ∀ d, v' ≠ .datetime d) (t : Setting) :
    Option.Rel Settles (foundIn t v) (foundIn t v') := by
  cases v with
  | table es =>
    obtain ⟨d, rfl⟩ | ⟨fs, hfs, rfl⟩ := Toml.settle?_table_cases h
    · exact absurd rfl (hdate d)
    · exact Toml.rel_settleEntries? hfs t.key
  | array items =>
    obtain ⟨us, hus, rfl⟩ := Toml.settle?_array_cases h
    exact Toml.rel_settleItems? hus _
  | _ =>
    cases h
    exact .none

theorem rel_found (h : Toml.settleEntries? es = some fs)
    (hdate : ∀ d, get? fs t.inSection.name ≠ some (.datetime d)) : Option.Rel Settles (found es t) (found fs t) := by
  have hrel := Toml.rel_settleEntries? h t.inSection.name
  unfold found
  generalize get? es t.inSection.name = o at hrel ⊢
  generalize get? fs t.inSection.name = o' at hrel hdate ⊢
  cases hrel with
  | none => exact .none
  | some hsettles => exact rel_foundIn hsettles (fun d he => hdate d (he ▸ rfl)) t

theorem distinct_found (h : Everywhere Distinct (.table es)) (hv : found es t = some v) : Everywhere Distinct v := by
  obtain ⟨w, hw, hv⟩ := Option.bind_eq_some_iff.mp hv
  have hdistinct := h.get? hw
  cases w with
  | table sub => exact hdistinct.get? hv
  | array items =>
    cases hdistinct with
    | array parts => exact parts v (List.mem_of_getElem? hv)
  | _ => cases hv

theorem shaped_of_settles {s : ConfigSection} (h : Settles v v') (hs : Shaped .layers s v') : Shaped .text s v := by
  cases v with
  | table es => trivial
  | array items => exact .inl rfl
  | datetime d => rfl
  | _ =>
    cases h
    exact hs

/-- **A tree that fits as layers** when it is settled fits as it stands, if no setting is a date. -/
theorem ofTree?_of_settles (h : Settles v (.table fs)) (hd : Everywhere Distinct v)
    (hfits : ofTree? .layers (.table fs) = some c) (hdates : ∀ t d, found fs t ≠ some (.datetime d)) :
    ofTree? .text v = some c := by
  obtain ⟨hshaped, htakes⟩ := ofTree?_table_eq_some_iff.mp hfits
  cases v with
  | table es =>
    obtain ⟨d, hfs⟩ | ⟨fs, hfs, he⟩ := Toml.settle?_table_cases h
    · cases hfs
    · cases he
      refine ofTree?_table_eq_some_iff.mpr ⟨fun s v hv => ?_, fun t => ?_⟩
      · have hrel := Toml.rel_settleEntries? hfs s.name
        rw [hv] at hrel
        generalize hv' : get? fs s.name = o' at hrel
        cases hrel with
        | some hsettles => exact shaped_of_settles hsettles (hshaped s _ hv')
      · have hrel : Option.Rel Settles (found es t) (found fs t) := rel_found hfs fun d hdate => by cases hshaped _ _ hdate
        exact takes_of_settles hrel (fun v hv => distinct_found hd hv) (hdates t) (htakes t)
  | array items =>
    obtain ⟨us, -, hus⟩ := Toml.settle?_array_cases h
    cases hus
  | _ => cases h

/-! ## A setting in a section that is a table -/

theorem eq_of_inSection {t u : Setting} (hs : u.inSection.name = t.inSection.name) (hk : u.key = t.key) : u = t :=
  Setting.path_injective (by rw [Setting.path_eq, Setting.path_eq, hs, hk])

theorem found_put (hsub : get? es t.inSection.name = some (.table sub)) (v : Toml) (u : Setting) :
    found (put t.inSection.name (.table (put t.key v sub)) es) u = if u = t then some v else found es u := by
  unfold found
  by_cases hs : u.inSection.name = t.inSection.name
  · rw [hs, Toml.get?_put_self, hsub, Option.bind_some, Option.bind_some, foundIn, foundIn]
    by_cases hu : u = t
    · rw [if_pos hu, hu, Toml.get?_put_self]
    · rw [if_neg hu, Toml.get?_put_of_ne v fun hk => hu (eq_of_inSection hs hk)]
  · rw [Toml.get?_put_of_ne _ hs, if_neg fun hu => hs (by rw [hu])]

/-- **A value that is put** in the place of a setting becomes its value, and the other settings stay. -/
theorem ofTree?_put (hfits : ofTree? source (.table es) = some c) (hsub : get? es t.inSection.name = some (.table sub))
    {x : t.Value} (hx : read? source t v = some x) :
    ofTree? source (.table (put t.inSection.name (.table (put t.key v sub)) es)) = some (c.set t x) := by
  obtain ⟨hshaped, htakes⟩ := ofTree?_table_eq_some_iff.mp hfits
  refine ofTree?_table_eq_some_iff.mpr ⟨fun s w hw => ?_, fun u => ?_⟩
  · by_cases hs : s.name = t.inSection.name
    · rw [hs, Toml.get?_put_self] at hw
      cases hw
      trivial
    · rw [Toml.get?_put_of_ne _ hs] at hw
      exact hshaped s w hw
  · rw [found_put hsub]
    by_cases hu : u = t
    · subst hu
      rw [if_pos rfl, get_set_self]
      exact hx
    · rw [if_neg hu, get_set_of_ne _ _ hu]
      exact htakes u

theorem written_not_date {value : String} (h : t.written? value = some v) (d : Toml.Datetime) : v ≠ .datetime d := by
  rintro rfl
  cases leaf_written h

theorem isSome_ofText?_put (hfits : ofTree? .layers (.table es) = some c)
    (hsub : get? es t.inSection.name = some (.table sub)) {value : String} {x : t.Value}
    (hv : t.written? value = some v) (hx : t.ofArgument? value = some x)
    (hdates : ∀ u ≠ t, ∀ d, found es u ≠ some (.datetime d))
    (hback : Toml.readSettled? (Toml.table (put t.inSection.name (.table (put t.key v sub)) es)).print =
      some (.table (put t.inSection.name (.table (put t.key v sub)) es))) :
    (ofText? (Toml.table (put t.inSection.name (.table (put t.key v sub)) es)).print).isSome := by
  -- `w` is the tree as the check reads it, before it is settled.
  obtain ⟨w, hw, hsettles⟩ := Option.bind_eq_some_iff.mp hback
  have hput : ofTree? .layers _ = some (c.set t x) := ofTree?_put hfits hsub ((read?_written hv).trans hx)
  have hdates' : ∀ u d, found (put t.inSection.name (.table (put t.key v sub)) es) u ≠ some (.datetime d) := by
    intro u d
    rw [found_put hsub]
    split
    · exact fun he => written_not_date hv d (Option.some.inj he)
    next hu => exact hdates u hu d
  rw [ofText?, hw, Option.bind_some, ofTree?_of_settles hsettles (Toml.distinct_read? hw) hput hdates']
  rfl

/-- **A timeout that is put as a text** does not fit. -/
theorem ofText?_put_text (hsub : get? es Setting.timeoutMs.inSection.name = some (.table sub)) {value : String}
    (hback : Toml.readSettled?
        (Toml.table (put Setting.timeoutMs.inSection.name (.table (put Setting.timeoutMs.key (.string value) sub)) es)).print =
      some (.table (put Setting.timeoutMs.inSection.name (.table (put Setting.timeoutMs.key (.string value) sub)) es))) :
    ofText? (Toml.table
      (put Setting.timeoutMs.inSection.name (.table (put Setting.timeoutMs.key (.string value) sub)) es)).print = none := by
  obtain ⟨w, hw, hsettles⟩ := Option.bind_eq_some_iff.mp hback
  rw [ofText?, hw, Option.bind_some]
  cases hfits : ofTree? .text w with
  | none => rfl
  | some c =>
    obtain ⟨ws, rfl⟩ := Toml.isTable_iff.mp (isTable_of_fits hfits)
    have htakes := (ofTree?_table_eq_some_iff.mp hfits).2 .timeoutMs
    obtain ⟨date, hdate⟩ | ⟨fs, hfs, he⟩ := Toml.settle?_table_cases hsettles
    · cases hdate
    · cases he
      have hrel := rel_found (t := .timeoutMs) hfs fun date hdate => by
        rw [Toml.get?_put_self] at hdate
        cases hdate
      rw [found_put hsub, if_pos rfl] at hrel
      generalize found ws .timeoutMs = o at hrel htakes
      -- what settles to a text is that text, and no text is a timeout
      cases hrel with
      | @some v _ hv =>
        cases v with
        | table vs => obtain ⟨date, h⟩ | ⟨us, -, h⟩ := Toml.settle?_table_cases hv <;> cases h
        | array vs =>
          obtain ⟨us, -, h⟩ := Toml.settle?_array_cases hv
          cases h
        | string text => cases htakes
        | _ => cases hv

/-! ## The file at home alone -/

variable {s : Surroundings} {d : Disk} {text value : String}

theorem load_of_readText {tree : Toml} (hvariables : ∀ t : Setting, s.lookup t.envName = none)
    (hproject : ∀ content mode, d.at? (destination [] (absolute s.place s.projectFile)) ≠ some (.file content mode))
    (htext : d.readText s.place s.globalFile = .ok text) (htree : Toml.readSettled? text = some tree) :
    load s d = ofLayers tree := by
  obtain ⟨hwarnings, hmerge⟩ := mergeLayer_of_readText htext htree
  unfold load
  rw [readLayer_of_no_file hproject]
  dsimp only
  rw [hwarnings, mergeLayer, hmerge, overrideAll_of_unset hvariables]
  rfl

/-- **A file that loads** without a warning has a tree that fits. -/
theorem fits_of_load (hvariables : ∀ t : Setting, s.lookup t.envName = none)
    (hproject : ∀ content mode, d.at? (destination [] (absolute s.place s.projectFile)) ≠ some (.file content mode))
    (htext : d.readText s.place s.globalFile = .ok text) (hload : (load s d).2 = []) :
    ∃ es, Toml.readSettled? text = some (.table es) ∧ ofTree? .layers (.table es) = some (load s d).1 := by
  cases htree : Toml.readSettled? text with
  | none =>
    rw [load_eq, isMalformed, htext] at hload
    simp [htree] at hload
  | some tree =>
    rw [load_of_readText hvariables hproject htext htree] at hload ⊢
    unfold ofLayers at hload ⊢
    cases hfits : ofTree? .layers tree with
    | none => rw [hfits] at hload; cases hload
    | some c =>
      obtain ⟨es, rfl⟩ := Toml.isTable_iff.mp (isTable_of_fits hfits)
      exact ⟨es, rfl, hfits⟩

theorem setValue_eq_error {e : ConfigError} {tree : Toml} {key : String} (htext : d.readText s.place s.globalFile = .ok text)
    (htree : Toml.readSettled? text = some tree) (h : setKey key value tree = .error e) :
    setValue s key value d = (.error e, d) := by
  rw [setValue_eq (currentText_of_readText htext), edited_eq htree, h]

/-- **To set a setting in a file that has only some of them.**  Take a file at home that loads without a warning, no
file in the folder, no variables, and a value that is valid for the setting.  Where the file has no section for the
setting, or one that is no table, the change is refused.  Otherwise, if the tree that is written is read back, a timeout
that does not stand in the file yet is refused too, because it is put as a text; and any other change is made, if no
other setting is a date.  Loading then gives the setting this value, the other settings the values that they had, and no
warning. -/
theorem set_in_partial_file (hvariables : ∀ t : Setting, s.lookup t.envName = none)
    (hproject : d.at? (destination [] (absolute s.place s.projectFile)) = none)
    (htext : d.readText s.place s.globalFile = .ok text) (hload : (load s d).2 = []) (t : Setting) {x : t.Value}
    (hx : t.ofArgument? value = some x) : ∃ es, Toml.readSettled? text = some (.table es) ∧
      (get? es t.inSection.name = none →
        setValue s t.name value d = (.error (.noSection t.inSection.name t.name), d)) ∧
      (∀ v, get? es t.inSection.name = some v → v.isTable = false →
        setValue s t.name value d = (.error (.noTable t.inSection.name), d)) ∧
      (∀ sub, t = .timeoutMs → get? es t.inSection.name = some (.table sub) → get? sub t.key = none →
        (∀ t', setKey t.name value (.table es) = .ok t' → Toml.readSettled? t'.print = some t') →
        setValue s t.name value d = (.error (.badValue t.name value), d)) ∧
      ∀ sub, get? es t.inSection.name = some (.table sub) → (t = .timeoutMs → get? sub t.key ≠ none) →
        (∀ u ≠ t, ∀ date, found es u ≠ some (.datetime date)) →
        (∀ t', setKey t.name value (.table es) = .ok t' → Toml.readSettled? t'.print = some t') →
        ∃ d', setValue s t.name value d = (.ok (), d') ∧ (load s d').1.get t = x ∧
          (∀ u ≠ t, (load s d').1.get u = (load s d).1.get u) ∧ (load s d').2 = [] := by
  have halone : ∀ content mode, d.at? (destination [] (absolute s.place s.projectFile)) ≠ some (.file content mode) := by
    rw [hproject]
    exact fun _ _ h => by cases h
  obtain ⟨es, htree, hfits⟩ := fits_of_load hvariables halone htext hload
  refine ⟨es, htree, fun hnone => ?_, fun v hv hno => ?_, fun sub ht hsub hnone hback => ?_,
    fun sub hsub htimeout hdates hback => ?_⟩
  · refine setValue_eq_error htext htree ?_
    rw [setKey_name_eq, setAt, hnone]
    rfl
  · refine setValue_eq_error htext htree ?_
    rw [setKey_name_eq, setAt, hv]
    cases v with
    | table sub => cases hno
    | _ => rfl
  · subst ht
    have hset : setKey Setting.timeoutMs.name value (.table es) = .ok (.table
        (put Setting.timeoutMs.inSection.name (.table (put Setting.timeoutMs.key (.string value) sub)) es)) := by
      rw [setKey_name_eq, setAt, hsub]
      dsimp only
      rw [setAt, hnone]
      rfl
    rw [setValue_eq (currentText_of_readText htext), edited_eq htree, hset]
    dsimp only
    rw [ofText?_put_text hsub (hback _ hset)]
    rfl
  · obtain ⟨v, hv⟩ := written?_of_valid hx
    have htakes := (ofTree?_table_eq_some_iff.mp hfits).2 t
    rw [found, hsub, Option.bind_some, foundIn] at htakes
    have hset := setKey_name_of_table hsub htakes htimeout value
    rw [hv] at hset
    have hread := hback _ hset
    have hedited := edited_eq htree t.name value
    rw [hset] at hedited
    dsimp only at hedited
    rw [isSome_ofText?_put hfits hsub hv hx hdates hread, if_pos rfl] at hedited
    obtain ⟨hspeakable, content, hholds⟩ := Disk.holds_of_readText htext
    obtain ⟨d', hstore, hholds', hrest⟩ := store_of_writable (hholds.writable hspeakable) .parentFolder
      (Toml.table (put t.inSection.name (.table (put t.key v sub)) es)).print
    have halone' : ∀ content mode,
        d'.at? (destination [] (absolute s.place s.projectFile)) ≠ some (.file content mode) := fun content mode => by
      rcases hrest _ (projectFile_ne_globalFile s) with hsame | ⟨-, hfolder⟩
      · rw [hsame]
        exact halone content mode
      · rw [hfolder]
        simp
    have hload' : load s d' = ((load s d).1.set t x, []) := by
      rw [load_of_readText hvariables halone' (hholds'.readText hspeakable) hread, ofLayers,
        ofTree?_put hfits hsub ((read?_written hv).trans hx)]
    refine ⟨d', ?_, ?_, fun u hu => ?_, by rw [hload']⟩
    · rw [setValue_eq (currentText_of_readText htext), hedited]
      exact hstore
    · rw [hload', get_set_self]
    · rw [hload', get_set_of_ne _ _ hu]

/-! ### Files with some settings -/

def homeWith (text : String) : Disk :=
  ⟨[(["home"], .folder), (["home", "me"], .folder), (["home", "me", ".daec"], .folder),
    (["home", "me", ".daec", "config.toml"], .file text.toUTF8 0o644)]⟩

theorem readText_homeWith (text : String) :
    (homeWith text).readText newHome.place newHome.globalFile = .ok text :=
  Disk.Holds.readText ⟨by rfl, 0o644, by rfl⟩ (by unfold Disk.Speakable; decide +kernel)

/-- A file with a section that has one setting, and one that has none. -/
def twoSections : String := "[expressions]\nclear_input = \"on-success\"\n[session]\n"

def treeOfTwoSections : Toml.Entries :=
  [("expressions", .table [("clear_input", .string "on-success")]), ("session", .table [])]

theorem set_in_partial_file_two_sections :
    (load newHome (homeWith twoSections)).2 = [] ∧ Setting.ofArgument? .sessionName "work" = some "work" ∧
    ∃ d', setValue newHome Setting.sessionName.name "work" (homeWith twoSections) = (.ok (), d') ∧
      (load newHome d').1.get .sessionName = "work" ∧ (load newHome d').1.get .clearInput = .onSuccess ∧
      (load newHome d').2 = [] := by
  have hload : (load newHome (homeWith twoSections)).2 = [] := by decide +kernel
  have htree : Toml.readSettled? twoSections = some (.table treeOfTwoSections) :=
    Toml.eq_some_of_same (by decide +kernel)
  have hback : (setKey Setting.sessionName.name "work" (.table treeOfTwoSections)).toOption.all
      (fun t' => (Toml.readSettled? t'.print).any (Toml.same t')) = true := by decide +kernel
  obtain ⟨es, hes, -, -, -, hset⟩ := set_in_partial_file (fun _ => rfl) rfl (readText_homeWith twoSections) hload
    .sessionName (x := "work") rfl
  cases htree.symm.trans hes
  obtain ⟨d', hmade, hvalue, hothers, hwarnings⟩ := hset [] rfl (fun h => by cases h)
    (fun u _ date => by cases u <;> simp [found, foundIn, treeOfTwoSections, Setting.inSection, ConfigSection.name, Setting.key])
    fun t' ht' => by
      rw [ht'] at hback
      exact Toml.eq_some_of_same hback
  refine ⟨hload, rfl, d', hmade, hvalue, ?_, hwarnings⟩
  rw [hothers .clearInput (by decide)]
  decide +kernel

def refusal? : Except ConfigError Unit × Disk → Option ConfigError
  | (.error e, _) => some e
  | (.ok (), _) => none

/-- Files that load without a warning, in which a setting cannot be set to a value that is valid for it: a section is
missing, a section is there without the timeout that is set, a section is an array, another setting is a date, and a
number is beyond those of the format.  In the last one, a table is written with the key of a date before all others, and
the file is read no more. -/
theorem set_refused_in_partial_files :
    let missing := homeWith "[api]\nbase_url = \"http://a\"\n"
    let array := homeWith "session = [\"work\"]\n"
    let date := homeWith "[logging]\n[session]\nname = 1979-05-27\n"
    let number := homeWith "[api]\ntimeout_ms = 1\n"
    let marked := homeWith "[session]\n[x]\nb = 1\n\"$__toml_private_datetime\" = \"q\"\n"
    (∀ d ∈ [missing, array, date, number, marked], (load newHome d).2 = []) ∧
    refusal? (setValue newHome Setting.logLevel.name "debug" missing) = some (.noSection "logging" "logging.level") ∧
    refusal? (setValue newHome Setting.timeoutMs.name "250" missing) = some (.badValue "api.timeout_ms" "250") ∧
    refusal? (setValue newHome Setting.sessionName.name "play" array) = some (.noTable "session") ∧
    refusal? (setValue newHome Setting.logLevel.name "debug" date) = some (.badValue "logging.level" "debug") ∧
    Text.readU64? "9223372036854775808" = some 9223372036854775808 ∧
    refusal? (setValue newHome Setting.timeoutMs.name "9223372036854775808" number) =
      some (.notInteger "api.timeout_ms" "9223372036854775808") ∧
    refusal? (setValue newHome Setting.sessionName.name "work" marked) = none ∧
    (load newHome (setValue newHome Setting.sessionName.name "work" marked).2).2 = [.malformed newHome.globalFile] := by
  decide +kernel

end Config
end CalcConsole
