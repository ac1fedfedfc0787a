import CalcConsole.Proofs.Config.Keeping
import CalcConsole.Proofs.Config.Loading
import CalcConsole.Proofs.Disk.Writing
/-! # Changes to the settings

Settings are written anew, or set one key at a time, in a home where nothing was set before.  At every point loading
gives each setting the value that was last set for it since all were last written anew, and warns of nothing. -/
namespace CalcConsole

open Disk (absolute destination)
open Toml (Ascending Leaf Unmarked dateKey)
open Text (splitOn)

namespace Config

/-! ## The settings of a new file -/

def inOrder : Toml.Entries :=
  [("api", .table [("base_url", .string "http://localhost:3000/v1"), ("timeout_ms", .integer 10000)]),
    ("expressions", .table [("clear_input", .string "always")]),
    ("logging", .table [("level", .string "warn")]),
    ("session", .table [("name", .string "default")])]

theorem readSettled?_annotated : Toml.readSettled? annotated = some (.table inOrder) := by
  unfold Toml.readSettled? Toml.read? annotated
  rw [String.toList_intercalate]
  refine Toml.eq_some_of_same ?_
  decide +kernel

theorem readSettled?_builtIn : Toml.readSettled? builtIn.tree.print = some (.table inOrder) := by
  unfold Toml.readSettled? Toml.read? Toml.print
  rw [String.toList_ofList]
  refine Toml.eq_some_of_same ?_
  decide +kernel

theorem keeps_inOrder : Keeps inOrder builtIn := by
  have hleaf (s : String) : Leaf (.string s) := .string s
  have htimeout : Leaf (.integer 10000) := .integer (by decide) (by decide)
  refine ⟨⟨by unfold Ascending inOrder; decide, fun e he => .inr ?_⟩, ⟨by unfold Unmarked; decide, fun e he sub hsub => ?_⟩,
    fun s => by cases s <;> exact ⟨_, rfl⟩, fun k sub hk => ?_, fun s => by cases s <;> rfl⟩
  · simp only [inOrder, List.mem_cons, List.not_mem_nil, or_false] at he
    rcases he with rfl | rfl | rfl | rfl <;>
      exact ⟨_, rfl, by unfold Ascending; decide, by simp [hleaf, htimeout]⟩
  · simp only [inOrder, List.mem_cons, List.not_mem_nil, or_false] at he
    rcases he with rfl | rfl | rfl | rfl <;> cases hsub <;> unfold Unmarked <;> decide
  · have hmem := Toml.mem_of_get? hk
    simp only [inOrder, List.mem_cons, Prod.mk.injEq, List.not_mem_nil, or_false] at hmem
    rcases hmem with ⟨rfl, -⟩ | ⟨rfl, -⟩ | ⟨rfl, -⟩ | ⟨rfl, -⟩
    · exact ⟨.api, rfl⟩
    · exact ⟨.expressions, rfl⟩
    · exact ⟨.logging, rfl⟩
    · exact ⟨.session, rfl⟩

/-! ## What is on the disk -/

theorem projectFile_ne_globalFile (s : Surroundings) :
    destination [] (absolute s.place s.projectFile) ≠ destination [] (absolute s.place s.globalFile) := by
  have hplain : Path.Plain ".daec.toml" := ⟨by decide, by decide, by decide, by decide⟩
  have hplain' : Path.Plain "config.toml" := ⟨by decide, by decide, by decide, by decide⟩
  unfold Surroundings.projectFile Surroundings.globalFile
  rw [Disk.absolute_join _ _ hplain, Disk.absolute_join _ _ hplain', Disk.destination_append _ _ hplain.ne_up, Disk.destination_append _ _ hplain'.ne_up]
  intro he
  have hname := (List.append_inj' he rfl).2
  exact absurd (List.head_eq_of_cons_eq hname) (by decide)

/-- The settings are `c` by the file at home alone: there is none yet and they are the built-in ones, or its tree holds
them. -/
structure Holding (s : Surroundings) (d : Disk) (c : Config) : Prop where
  writable : d.Writable s.place s.globalFile
  alone : ∀ content mode, d.at? (destination [] (absolute s.place s.projectFile)) ≠ some (.file content mode)
  file : d.at? (destination [] (absolute s.place s.globalFile)) = none ∧ c = builtIn ∨
    ∃ text es, d.Holds (absolute s.place s.globalFile) text.toUTF8 ∧ Toml.readSettled? text = some (.table es) ∧
      Keeps es c

variable {s : Surroundings} {d : Disk} {c : Config}

theorem readLayer_of_no_file {cwd : Place} {path : String}
    (h : ∀ content mode, d.at? (destination [] (absolute cwd path)) ≠ some (.file content mode)) :
    readLayer d cwd path = (none, []) := by
  unfold readLayer
  cases hr : d.readText cwd path with
  | error e => rfl
  | ok text =>
    obtain ⟨content, mode, hfile⟩ := Disk.file_of_readText hr
    exact absurd hfile (h content mode)

theorem overrideAll_of_unset (h : ∀ t : Setting, s.lookup t.envName = none) (c : Config) : c.overrideAll s.lookup = c :=
  ext_get fun t => by
    rw [get_overrideAll, said, h t]
    rfl

theorem mergeLayer_of_readText {text : String} {t : Toml} (h : d.readText s.place s.globalFile = .ok text)
    (ht : Toml.readSettled? text = some t) :
    (readLayer d s.place s.globalFile).2 = [] ∧ mergeLayer (.table []) (readLayer d s.place s.globalFile).1 = t := by
  rw [warnings_readLayer, isMalformed_of_readText h, fst_readLayer_of_readText h, ht]
  exact ⟨rfl, Toml.merge_empty (Toml.ordered_readSettled? ht)⟩

theorem ofLayers_of_holding (h : Holding s d c) :
    (readLayer d s.place s.globalFile).2 = [] ∧
      ofLayers (mergeLayer (.table []) (readLayer d s.place s.globalFile).1) = (c, []) := by
  rcases h.file with ⟨habsent, rfl⟩ | ⟨text, es, hholds, hread, hkeeps⟩
  · obtain ⟨e, he⟩ := Disk.readText_of_absent habsent
    unfold readLayer
    rw [he]
    exact ⟨rfl, rfl⟩
  · obtain ⟨hwarnings, hmerge⟩ := mergeLayer_of_readText (hholds.readText h.writable.speakable) hread
    rw [hmerge, ofLayers, hkeeps.ofTree?]
    exact ⟨hwarnings, rfl⟩

/-- **Loading** gives the settings that the file at home holds. -/
theorem load_of_holding (hvariables : ∀ t : Setting, s.lookup t.envName = none) (h : Holding s d c) :
    load s d = (c, []) := by
  obtain ⟨hwarnings, hlayers⟩ := ofLayers_of_holding h
  unfold load
  rw [readLayer_of_no_file h.alone]
  dsimp only
  rw [hwarnings, mergeLayer, hlayers, overrideAll_of_unset hvariables]
  rfl

theorem currentText_of_readText {text : String} (h : d.readText s.place s.globalFile = .ok text) :
    currentText s d = .ok text := by
  obtain ⟨hspeakable, content, hholds⟩ := Disk.holds_of_readText h
  unfold currentText
  rw [hholds.contains hspeakable, h]
  rfl

theorem currentText_of_holding (h : Holding s d c) : ∃ text es,
    currentText s d = .ok text ∧ Toml.readSettled? text = some (.table es) ∧ Keeps es c := by
  rcases h.file with ⟨habsent, rfl⟩ | ⟨text, es, hholds, hread, hkeeps⟩
  · refine ⟨_, inOrder, ?_, readSettled?_builtIn, keeps_inOrder⟩
    unfold currentText
    rw [Disk.contains_of_absent habsent]
    rfl
  · exact ⟨text, es, currentText_of_readText (hholds.readText h.writable.speakable), hread, hkeeps⟩

/-- **Storing a text** where it can be written: the file holds it, and all that is new beside the file are folders. -/
theorem store_of_writable {cwd : Place} {path : String} (h : d.Writable cwd path) (noFolder : FileError → ConfigError)
    (text : String) : ∃ d', store noFolder cwd path text d = (.ok (), d') ∧ d'.Holds (absolute cwd path) text.toUTF8 ∧
      ∀ p ≠ destination [] (absolute cwd path), d'.at? p = d.at? p ∨ d.at? p = none ∧ d'.at? p = some .folder := by
  obtain ⟨d₁, mode, hgrows, hparents, hwrite, hholds, -, -⟩ := h.written text.toUTF8 fileMode none
  refine ⟨_, ?_, hholds, fun p hp => ?_⟩
  · unfold store
    rw [hparents]
    dsimp only
    rw [hwrite]
  · rw [Disk.at?_put_of_ne _ _ hp]
    exact hgrows p

theorem store_of_holding (h : Holding s d c) (noFolder : FileError → ConfigError) {text : String} {es : Toml.Entries}
    {c' : Config} (hread : Toml.readSettled? text = some (.table es)) (hkeeps : Keeps es c') :
    ∃ d', store noFolder s.place s.globalFile text d = (.ok (), d') ∧ Holding s d' c' := by
  obtain ⟨d', hstore, hholds, hrest⟩ := store_of_writable h.writable noFolder text
  refine ⟨d', hstore, hholds.writable h.writable.speakable, fun content mode => ?_, .inr ⟨text, es, hholds, hread, hkeeps⟩⟩
  rcases hrest _ (projectFile_ne_globalFile s) with hsame | ⟨-, hfolder⟩
  · rw [hsame]
    exact h.alone content mode
  · rw [hfolder]
    simp

/-! ## One change -/

inductive Change where
  | init (force : Bool)
  | reset
  | set (key value : String)

namespace Change

def make (s : Surroundings) (d : Disk) : Change → Except ConfigError Unit × Disk
  | .init force => Config.init s force d
  | .reset => Config.reset s d
  | .set key value => Config.setValue s key value d

/-- The disk after a change, whether it was made or not. -/
def after (s : Surroundings) (d : Disk) (ch : Change) : Disk := (ch.make s d).2

/-- A key with the key of a date in it does not have its table read back as a date. -/
def ReadsBack (s : Surroundings) (d : Disk) : Change → Prop
  | .set key value => dateKey ∈ splitOn '.' key → ∀ text t t', currentText s d = .ok text →
      Toml.readSettled? text = some t → setKey key value t = .ok t' → Toml.readSettled? t'.print = some t'
  | _ => True

theorem readsBack_of_not_mem {key : String} (h : dateKey ∉ splitOn '.' key) (value : String) (s : Surroundings)
    (d : Disk) : (set key value).ReadsBack s d := fun hmem => absurd hmem h

def applied (c : Config) : Change → Config
  | .set key value => ofValues fun t => if key = t.name then (t.ofArgument? value).getD (c.get t) else c.get t
  | _ => builtIn

end Change

theorem setValue_eq {text : String} (h : currentText s d = .ok text) (key value : String) :
    setValue s key value d = match edited key value text with
      | .error e => (.error e, d)
      | .ok text => store .parentFolder s.place s.globalFile text d := by
  unfold setValue
  rw [h]
  rfl

/-- **A change that is refused** where the file can be written leaves the disk as it was. -/
theorem Change.after_of_error (h : d.Writable s.place s.globalFile) {ch : Change} {e : ConfigError}
    (he : (ch.make s d).1 = .error e) : ch.after s d = d := by
  have hstored : ∀ noFolder text, (store noFolder s.place s.globalFile text d).1 ≠ .error e := by
    intro noFolder text hstore
    obtain ⟨d', hd, -⟩ := store_of_writable h noFolder text
    rw [hd] at hstore
    cases hstore
  have hinit : ∀ force, (Config.init s force d).1 = .error e → (Config.init s force d).2 = d := by
    intro force he
    unfold Config.init at he ⊢
    split at he
    case isTrue hpresent => rw [if_pos hpresent]
    case isFalse => exact absurd he (hstored _ _)
  cases ch with
  | init force => exact hinit force he
  | reset => exact hinit true he
  | set key value =>
    change (setValue s key value d).1 = _ at he
    show (setValue s key value d).2 = d
    unfold setValue at he ⊢
    generalize (currentText s d).bind (edited key value) = text at he ⊢
    cases text with
    | error e => rfl
    | ok text => exact absurd he (hstored _ _)

/-- **A setting is set** exactly when the value is valid for it. -/
theorem setValue_name (h : Holding s d c) (t : Setting) (value : String) :
    match t.ofArgument? value with
    | some x => ∃ d', setValue s t.name value d = (.ok (), d') ∧ Holding s d' (c.set t x)
    | none => ∃ e, setValue s t.name value d = (.error e, d) := by
  obtain ⟨text, es, htext, hread, hkeeps⟩ := currentText_of_holding h
  rw [setValue_eq htext]
  cases hx : t.ofArgument? value with
  | none =>
    obtain ⟨e, he⟩ := edited_name_of_invalid hkeeps hread hx
    rw [he]
    exact ⟨e, rfl⟩
  | some x =>
    obtain ⟨es', he, hkeeps'⟩ := edited_name_of_valid hkeeps hread hx
    rw [he]
    exact store_of_holding h .parentFolder hkeeps'.readSettled? hkeeps'

theorem setValue_other (h : Holding s d c) {key value : String} (hkey : ∀ t : Setting, key ≠ t.name)
    (hback : (Change.set key value).ReadsBack s d) :
    (∃ e, setValue s key value d = (.error e, d)) ∨
      ∃ d', setValue s key value d = (.ok (), d') ∧ Holding s d' c := by
  obtain ⟨text, es, htext, hread, hkeeps⟩ := currentText_of_holding h
  rw [setValue_eq htext]
  have hcases : (∃ e, edited key value text = .error e) ∨
      ∃ es', edited key value text = .ok (Toml.table es').print ∧ Keeps es' c :=
    edited_of_other hkeeps hread hkey fun hdate t => hback hdate text _ t htext hread
  rcases hcases with ⟨e, he⟩ | ⟨es', he, hkeeps'⟩
  · rw [he]
    exact .inl ⟨e, rfl⟩
  · rw [he]
    exact .inr (store_of_holding h .parentFolder hkeeps'.readSettled? hkeeps')

theorem init_of_holding (h : Holding s d c) (force : Bool) :
    (∃ e, init s force d = (.error e, d)) ∨ ∃ d', init s force d = (.ok (), d') ∧ Holding s d' builtIn := by
  unfold init
  split
  · exact .inl ⟨_, rfl⟩
  · exact .inr (store_of_holding h .folder readSettled?_annotated keeps_inOrder)

theorem init_present (h : d.contains s.place s.globalFile = true) :
    init s false d = (.error (.present s.globalFile), d) := by
  unfold init
  rw [h]
  rfl

theorem name_injective {t t' : Setting} (h : t.name = t'.name) : t = t' :=
  Setting.path_injective (by rw [← t.splitOn_name, ← t'.splitOn_name, h])

theorem applied_name (c : Config) {t : Setting} {value : String} {x : t.Value} (hx : t.ofArgument? value = some x) :
    (Change.set t.name value).applied c = c.set t x := ext_get fun t' => by
  unfold Change.applied
  rw [get_ofValues]
  by_cases ht : t' = t
  · subst ht
    rw [if_pos rfl, hx, get_set_self]
    rfl
  · rw [if_neg fun he => ht (name_injective he).symm, get_set_of_ne _ _ ht]

theorem applied_other (c : Config) {key : String} (hkey : ∀ t : Setting, key ≠ t.name) (value : String) :
    (Change.set key value).applied c = c := ext_get fun t => by
  unfold Change.applied
  rw [get_ofValues, if_neg (hkey t)]

/-- **One change** is refused, or leaves the settings as it says. -/
theorem Holding.change (h : Holding s d c) {ch : Change} (hback : ch.ReadsBack s d) :
    (∃ e, ch.make s d = (.error e, d)) ∨ ∃ d', ch.make s d = (.ok (), d') ∧ Holding s d' (ch.applied c) := by
  cases ch with
  | init force => exact init_of_holding h force
  | reset => exact init_of_holding h true
  | set key value =>
    by_cases hkey : ∃ t : Setting, key = t.name
    · obtain ⟨t, rfl⟩ := hkey
      have hset := setValue_name h t value
      cases hx : t.ofArgument? value with
      | none =>
        rw [hx] at hset
        exact .inl hset
      | some x =>
        rw [hx] at hset
        rw [applied_name c hx]
        exact .inr hset
    · have hne : ∀ t : Setting, key ≠ t.name := fun t he => hkey ⟨t, he⟩
      rw [applied_other c hne]
      exact setValue_other h hne hback

/-! ## Many changes -/

namespace Change

/-- Changes with whether each of them was made. -/
def history (s : Surroundings) (d : Disk) : List Change → List (Change × Bool)
  | [] => []
  | ch :: chs => (ch, (ch.make s d).1.isOk) :: history s (ch.after s d) chs

def AllReadBack (s : Surroundings) (d : Disk) : List Change → Prop
  | [] => True
  | ch :: chs => ch.ReadsBack s d ∧ AllReadBack s (ch.after s d) chs

/-- The text that a setting was last set to, after one more change. -/
def noted (t : Setting) (last : Option String) : Change × Bool → Option String
  | (_, false) => last
  | (.set key value, true) => if key = t.name then some value else last
  | (_, true) => none

/-- The text that a setting was last set to since all were last written anew. -/
def lastSet (t : Setting) (chs : List (Change × Bool)) : Option String := chs.foldl (noted t) none

end Change

open Change (noted history lastSet AllReadBack)

/-- The value of a setting that was last set to a text, if to any. -/
def valueOfLast (t : Setting) (last : Option String) : t.Value := (last.bind t.ofArgument?).getD (builtIn.get t)

theorem get_applied (h : Holding s d c) {ch : Change} {d' : Disk} (hmade : ch.make s d = (.ok (), d')) {t : Setting}
    {last : Option String} (hlast : c.get t = valueOfLast t last) :
    (ch.applied c).get t = valueOfLast t (noted t last (ch, true)) := by
  cases ch with
  | init force => rfl
  | reset => rfl
  | set key value =>
    unfold Change.applied noted
    dsimp only
    rw [get_ofValues]
    by_cases hkey : key = t.name
    · subst hkey
      have hset := setValue_name h t value
      rw [show setValue s t.name value d = (.ok (), d') from hmade] at hset
      rw [if_pos rfl, if_pos rfl]
      cases hx : t.ofArgument? value with
      | none =>
        rw [hx] at hset
        obtain ⟨e, he⟩ := hset
        cases he
      | some x =>
        unfold valueOfLast
        rw [Option.bind_some, hx]
        rfl
    · rw [if_neg hkey, if_neg hkey]
      exact hlast

/-- **Many changes** leave each setting with the value that it was last set to. -/
theorem Holding.changes (h : Holding s d c) (last : Setting → Option String)
    (hlast : ∀ t, c.get t = valueOfLast t (last t)) {chs : List Change} (hback : AllReadBack s d chs) :
    ∃ c', Holding s (chs.foldl (Change.after s) d) c' ∧
      ∀ t, c'.get t = valueOfLast t ((history s d chs).foldl (noted t) (last t)) := by
  induction chs generalizing d c last with
  | nil => exact ⟨c, h, hlast⟩
  | cons ch chs ih =>
    obtain ⟨hfirst, hrest⟩ := hback
    rw [List.foldl_cons, history]
    simp only [List.foldl_cons]
    rcases h.change hfirst with ⟨e, he⟩ | ⟨d', hmade, hholding⟩
    · have hafter : ch.after s d = d := by rw [Change.after, he]
      rw [hafter] at hrest ⊢
      rw [he]
      exact ih h last hlast hrest
    · have hafter : ch.after s d = d' := by rw [Change.after, hmade]
      rw [hafter] at hrest ⊢
      rw [hmade]
      exact ih hholding _ (fun t => get_applied h hmade (hlast t)) hrest

/-- **Settings follow the changes.**  In a home that can be written, without files of settings or variables at first,
and after any changes: nothing is warned of, and each setting has the value that it was last set to since all were
written anew, or else the built-in one.  A setting can be set to what is valid for it and to nothing else; what is
refused leaves the disk as it was; to set another key leaves all settings as they are; and a file that is there is not
written anew without force. -/
theorem settings_follow_changes (hvariables : ∀ t : Setting, s.lookup t.envName = none)
    (habsent : d.at? (destination [] (absolute s.place s.globalFile)) = none)
    (hproject : d.at? (destination [] (absolute s.place s.projectFile)) = none)
    (hwritable : d.Writable s.place s.globalFile) (chs : List Change) (hback : AllReadBack s d chs) :
    let d' := chs.foldl (Change.after s) d
    (load s d').2 = [] ∧
    (∀ t : Setting, (load s d').1.get t =
      ((lastSet t (history s d chs)).bind t.ofArgument?).getD (builtIn.get t)) ∧
    (∀ (t : Setting) value, ((Change.set t.name value).make s d').1.isOk = (t.ofArgument? value).isSome) ∧
    (∀ (ch : Change) e, (ch.make s d').1 = .error e → ch.after s d' = d') ∧
    (∀ key value, (∀ t : Setting, key ≠ t.name) → (Change.set key value).ReadsBack s d' →
      load s ((Change.set key value).after s d') = load s d') ∧
    (d'.contains s.place s.globalFile →
      (Change.init false).make s d' = (.error (.present s.globalFile), d')) := by
  intro d'
  have hstart : Holding s d builtIn := ⟨hwritable, fun _ _ h => (by rw [hproject] at h; cases h), .inl ⟨habsent, rfl⟩⟩
  obtain ⟨c, h, hget⟩ := hstart.changes (fun _ => none) (fun t => rfl) hback
  have hload := load_of_holding hvariables h
  refine ⟨by rw [hload], fun t => ?_, fun t value => ?_, fun ch e he => ?_, fun key value hkey hread => ?_, init_present⟩
  · rw [hload]
    exact hget t
  · have hset := setValue_name h t value
    show (setValue s t.name value d').1.isOk = _
    cases hx : t.ofArgument? value with
    | none =>
      rw [hx] at hset
      obtain ⟨e, he⟩ := hset
      rw [he]
      rfl
    | some x =>
      rw [hx] at hset
      obtain ⟨d'', hd, -⟩ := hset
      rw [hd]
      rfl
  · exact Change.after_of_error h.writable he
  · rcases setValue_other h hkey hread with ⟨e, he⟩ | ⟨d'', hd, h'⟩
    · rw [show (Change.set key value).after s d' = d' by rw [Change.after, Change.make, he]]
    · rw [show (Change.set key value).after s d' = d'' by rw [Change.after, Change.make, hd],
        load_of_holding hvariables h', hload]

/-! ### A home without settings -/

def newHome : Surroundings := ⟨"/home/me", "/work", []⟩

def twoSets : List Change := [.set Setting.timeoutMs.name "soon", .set Setting.timeoutMs.name "250"]

theorem writable_newHome : Disk.empty.Writable newHome.place newHome.globalFile :=
  ⟨((Disk.empty.put ["home"] .folder).put ["home", "me"] .folder).put ["home", "me", ".daec"] .folder, by rfl, by rfl, by
    have hat : (((Disk.empty.put ["home"] .folder).put ["home", "me"] .folder).put ["home", "me", ".daec"] .folder).at?
        (destination [] (absolute newHome.place newHome.globalFile)) = none := by rfl
    rw [hat]
    simp⟩

theorem readsBack_timeoutMs (value : String) (d : Disk) :
    (Change.set Setting.timeoutMs.name value).ReadsBack newHome d :=
  Change.readsBack_of_not_mem (by rw [Setting.splitOn_name]; decide) value newHome d

theorem settings_follow_two_sets :
    Disk.empty.Writable newHome.place newHome.globalFile ∧ AllReadBack newHome Disk.empty twoSets ∧
    (load newHome (twoSets.foldl (Change.after newHome) Disk.empty)).2 = [] ∧
    (load newHome (twoSets.foldl (Change.after newHome) Disk.empty)).1.get .timeoutMs = 250 ∧
    (load newHome (twoSets.foldl (Change.after newHome) Disk.empty)).1.get .baseUrl = "http://localhost:3000/v1" := by
  have hback : AllReadBack newHome Disk.empty twoSets := ⟨readsBack_timeoutMs _ _, readsBack_timeoutMs _ _, trivial⟩
  have hfollow := settings_follow_changes (s := newHome) (d := Disk.empty) (fun _ => rfl) rfl rfl writable_newHome
  obtain ⟨-, -, hfirst, -, -⟩ := hfollow [] trivial
  obtain ⟨-, -, hsecond, -⟩ := hfollow [.set Setting.timeoutMs.name "soon"] ⟨readsBack_timeoutMs _ _, trivial⟩
  have hhistory : history newHome Disk.empty twoSets =
      [(.set Setting.timeoutMs.name "soon", false), (.set Setting.timeoutMs.name "250", true)] := by
    have hno := (hfirst .timeoutMs "soon").trans (by decide : _ = false)
    have hyes := (hsecond .timeoutMs "250").trans (by decide : _ = true)
    simp only [List.foldl_nil, List.foldl_cons] at hno hyes
    rw [twoSets, history, history, history, hno, hyes]
  obtain ⟨hwarnings, hsettings, -⟩ := hfollow twoSets hback
  refine ⟨writable_newHome, hback, hwarnings, ?_, ?_⟩
  · rw [hsettings, hhistory]
    decide
  · rw [hsettings, hhistory]
    decide

end Config
end CalcConsole
