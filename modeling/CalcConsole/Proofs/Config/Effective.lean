import CalcConsole.Proofs.Config.Keeping
/-! # The settings as a text

The settings that hold are shown as the text of a file.  They can be shown just if the time limit fits into an integer
of a file, and then the text says of every setting what it is: a text in whatever form it had to be quoted, and nothing
of a folder where none is set (`effective_reads_back`). -/
namespace CalcConsole
namespace Config

open Toml (Entries Leaf Flat Shallow get? keys)

/-! ## Entries of a section -/

def entriesOf (f : Setting → Option Toml) (ss : List Setting) : Entries := ss.filterMap fun s => (f s).map (s.key, ·)

section EntriesOf

variable {f : Setting → Option Toml} {ss : List Setting}

theorem mem_entriesOf {e : String × Toml} : e ∈ entriesOf f ss ↔ ∃ s ∈ ss, f s = some e.2 ∧ s.key = e.1 := by
  obtain ⟨k, v⟩ := e
  simp [entriesOf, List.mem_filterMap]

theorem entriesOf_cons (s : Setting) (ss : List Setting) :
    entriesOf f (s :: ss) = match f s with
      | some v => (s.key, v) :: entriesOf f ss
      | none => entriesOf f ss := by
  unfold entriesOf
  rw [List.filterMap_cons]
  cases f s <;> rfl

theorem nodup_keys_entriesOf (h : (ss.map Setting.key).Nodup) : (keys (entriesOf f ss)).Nodup := by
  induction ss with
  | nil => exact List.nodup_nil
  | cons s ss ih =>
    obtain ⟨hs, hss⟩ := List.nodup_cons.mp h
    rw [entriesOf_cons]
    cases f s with
    | none => exact ih hss
    | some v =>
      refine List.nodup_cons.mpr ⟨fun hmem => ?_, ih hss⟩
      obtain ⟨e, he, hkey⟩ := List.mem_map.mp hmem
      obtain ⟨t, ht, -, htkey⟩ := mem_entriesOf.mp he
      exact hs (List.mem_map.mpr ⟨t, ht, htkey.trans hkey⟩)

/-- **Under its key** each setting has its value, if it has one. -/
theorem get?_entriesOf (h : (ss.map Setting.key).Nodup) {s : Setting} (hs : s ∈ ss) :
    get? (entriesOf f ss) s.key = f s := by
  refine Option.ext fun v => ?_
  rw [Toml.Distinct.get?_eq_some_iff (nodup_keys_entriesOf h), mem_entriesOf]
  constructor
  · rintro ⟨t, ht, hv, hkey⟩
    rwa [List.inj_on_of_nodup_map h ht hs hkey] at hv
  · intro hv
    exact ⟨s, hs, hv, rfl⟩

end EntriesOf

/-! ## The tree of all settings -/

variable (c : Config)

def writtenOf (s : Setting) : Option Toml := valueOf s (c.get s)

def sections : Entries := ConfigSection.all.map fun s => (s.name, .table (entriesOf c.writtenOf s.settings))

theorem tree_eq : c.tree = .table c.sections := rfl

theorem nodup_section_keys (s : ConfigSection) : (s.settings.map Setting.key).Nodup := by cases s <;> decide

theorem nodup_keys_sections : (keys c.sections).Nodup := by
  have hkeys : keys c.sections = ConfigSection.all.map ConfigSection.name := rfl
  rw [hkeys]
  decide

theorem get?_sections (s : ConfigSection) :
    get? c.sections s.name = some (.table (entriesOf c.writtenOf s.settings)) := by
  have hall : s ∈ ConfigSection.all := by cases s <;> decide
  rw [Toml.Distinct.get?_eq_some_iff c.nodup_keys_sections]
  exact List.mem_map.mpr ⟨s, hall, rfl⟩

/-- **The tree holds each setting** as it is written. -/
theorem found_sections (s : Setting) : found c.sections s = c.writtenOf s := by
  unfold found
  rw [get?_sections, Option.bind_some]
  exact get?_entriesOf (nodup_section_keys _) (Setting.mem_settings_iff.mpr rfl)

variable {c}

theorem leaf_of_writtenOf (h : c.timeoutMs < signedBound) {s : Setting} {v : Toml} (hv : c.writtenOf s = some v) :
    Leaf v := by
  cases s with
  | timeoutMs =>
    cases hv
    have hlow : (0 : Int) ≤ c.timeoutMs := Int.natCast_nonneg _
    exact .integer (by omega) (Int.ofNat_lt.mpr h)
  | sessionFolder =>
    obtain ⟨folder, -, rfl⟩ := Option.map_eq_some_iff.mp hv
    exact .string folder
  | _ =>
    cases hv
    exact .string _

theorem shallow_sections (h : c.timeoutMs < signedBound) : Shallow c.sections := by
  refine ⟨c.nodup_keys_sections, fun e he => .inr ?_⟩
  obtain ⟨s, -, rfl⟩ := List.mem_map.mp he
  refine ⟨_, rfl, nodup_keys_entriesOf (nodup_section_keys s), fun e he => ?_⟩
  obtain ⟨t, -, hv, -⟩ := mem_entriesOf.mp he
  exact leaf_of_writtenOf h hv

theorem listed_sections (c : Config) : Toml.listed c.sections = c.sections := rfl

theorem ofTree?_sections (source : TreeSource) (c : Config) : ofTree? source (.table c.sections) = some c := by
  refine ofTree?_table_eq_some_iff.mpr ⟨fun s v hv => ?_, fun s => ?_⟩
  · rw [get?_sections] at hv
    cases hv
    trivial
  · rw [found_sections]
    exact takes_valueOf source s (c.get s)

theorem ofText?_print_tree (h : c.timeoutMs < signedBound) : ofText? c.tree.print = some c := by
  rw [tree_eq, ofText?_print (shallow_sections h), listed_sections]
  exact ofTree?_sections .text c

theorem effective_eq_ok_iff {text : String} :
    c.effective = .ok text ↔ c.timeoutMs < signedBound ∧ text = c.tree.print := by
  unfold effective text?
  by_cases h : c.timeoutMs < signedBound
  · rw [if_pos h]
    simp [h, eq_comm]
  · rw [if_neg h]
    simp [h]

/-- **The settings can be shown** just if the time limit is one that an integer of a file can hold, and the text that
is shown is read as the same settings. -/
theorem effective_reads_back (c : Config) :
    ((∃ text, c.effective = .ok text) ↔ c.timeoutMs ≤ twoTo 63 - 1) ∧
    ∀ text, c.effective = .ok text → ofText? text = some c := by
  have hbound : c.timeoutMs ≤ twoTo 63 - 1 ↔ c.timeoutMs < signedBound := by
    rw [signedBound_eq]
    exact Nat.le_sub_one_iff_lt (twoTo_pos 63)
  refine ⟨?_, fun text h => ?_⟩
  · rw [hbound]
    exact ⟨fun ⟨_, h⟩ => (effective_eq_ok_iff.mp h).1, fun h => ⟨_, effective_eq_ok_iff.mpr ⟨h, rfl⟩⟩⟩
  · obtain ⟨hfits, rfl⟩ := effective_eq_ok_iff.mp h
    exact ofText?_print_tree hfits

/-- Texts that have to be quoted in different forms, and the longest time limit that can be shown. -/
def everyForm : Config where
  baseUrl := "it's \\ here"
  timeoutMs := twoTo 63 - 1
  sessionName := "a \"name\" \\ of one line"
  sessionFolder := some "'two'\n\"lines\""
  clearInput := .onSuccess
  logLevel := "\x07 ''' \"\"\" \\\r\n\t"

theorem effective_reads_back_every_form :
    (∃ text, everyForm.effective = .ok text ∧ ofText? text = some everyForm) ∧
    ∀ text, ({ everyForm with timeoutMs := twoTo 63 } : Config).effective ≠ .ok text := by
  obtain ⟨hshown, hread⟩ := effective_reads_back everyForm
  obtain ⟨text, htext⟩ := hshown.mpr (Nat.le_refl _)
  refine ⟨⟨text, htext, hread text htext⟩, fun text h => ?_⟩
  have htoo := (effective_reads_back { everyForm with timeoutMs := twoTo 63 }).1.mp ⟨text, h⟩
  exact absurd htoo (by decide)

end Config
end CalcConsole
