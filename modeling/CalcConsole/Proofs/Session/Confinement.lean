import CalcConsole.Proofs.Session.Isolation
/-! # Within the folder

Whatever a session is called, its file stands directly in the folder of sessions, under a name of ASCII letters, digits,
hyphens and underscores.  Reading goes down the way to that folder and into this one file, and writing makes the way and
puts this one file, so that no name leads out of the folder. -/
namespace CalcConsole

open Disk (Paved OnWay absolute destination)

/-! ## Names of files -/

namespace SessionFile

/-- A non-empty run of ASCII letters, digits, hyphens and underscores. -/
structure Stem (s : String) : Prop where
  ne_empty : s ≠ ""
  chars : ∀ c ∈ s.toList, 'a' ≤ c ∧ c ≤ 'z' ∨ 'A' ≤ c ∧ c ≤ 'Z' ∨ '0' ≤ c ∧ c ≤ '9' ∨ c = '-' ∨ c = '_'

theorem isNameChar_iff {c : Char} :
    isNameChar c = true ↔ 'a' ≤ c ∧ c ≤ 'z' ∨ 'A' ≤ c ∧ c ≤ 'Z' ∨ '0' ≤ c ∧ c ≤ '9' ∨ c = '-' ∨ c = '_' := by
  have hclass : c.isAlphanum = (decide ('A'.val ≤ c.val ∧ c.val ≤ 'Z'.val) ||
      decide ('a'.val ≤ c.val) && decide (c.val ≤ 'z'.val) || decide ('0'.val ≤ c.val) && decide (c.val ≤ '9'.val)) := rfl
  unfold isNameChar
  simp only [hclass, Char.le_def, Bool.or_eq_true, Bool.and_eq_true, decide_eq_true_eq, beq_iff_eq, or_assoc]
  exact or_left_comm

theorem stem_of_all {s : String} (hne : s ≠ "") (h : s.toList.all isNameChar = true) : Stem s :=
  ⟨hne, fun c hc => isNameChar_iff.mp (List.all_eq_true.mp h c hc)⟩

/-- **Every name** gives a name for a file. -/
theorem stem_safeName (name : String) : Stem (safeName name) := by
  unfold safeName
  by_cases hname : name = ""
  · rw [if_pos hname]
    exact stem_of_all (by decide) (by decide)
  · rw [if_neg hname]
    refine stem_of_all (by simpa using hname) ?_
    rw [String.toList_ofList, List.all_map, List.all_eq_true]
    intro c _
    rw [Function.comp_apply]
    by_cases hc : isNameChar c = true
    · rwa [if_pos hc]
    · rw [if_neg hc]
      rfl

theorem safeName_of_stem {name : String} (h : Stem name) : safeName name = name := by
  have hmap : name.toList.map (fun c => if isNameChar c then c else '_') = name.toList.map id :=
    List.map_congr_left fun c hc => if_pos (isNameChar_iff.mpr (h.chars c hc))
  unfold safeName
  rw [if_neg h.ne_empty, hmap, List.map_id, String.ofList_toList]

end SessionFile

/-! ## Reading -/

def Entry.bare : Entry → Entry
  | .folder => .folder
  | .file _ _ => .file .empty 0

theorem Entry.cases_of_bare {o o' : Option Entry} (h : o'.map bare = o.map bare) :
    o = none ∧ o' = none ∨ o = some .folder ∧ o' = some .folder ∨
      ∃ content content' mode mode', o = some (.file content mode) ∧ o' = some (.file content' mode') := by
  rcases o with _ | _ | ⟨content, mode⟩ <;> rcases o' with _ | _ | ⟨content', mode'⟩ <;> cases h
  · exact .inl ⟨rfl, rfl⟩
  · exact .inr (.inl ⟨rfl, rfl⟩)
  · exact .inr (.inr ⟨content, content', mode, mode', rfl, rfl⟩)

namespace Disk

variable {cwd : Place} {path : String} {d d' : Disk}

/-- **A way** is as open on disks that have the same on it, but for what the files hold. -/
theorem follow_congr : ∀ {segments : List String} {p : Place},
    (∀ q, q <+: segments → q ≠ segments →
      (d'.at? (destination p q)).map Entry.bare = (d.at? (destination p q)).map Entry.bare) →
    d'.follow p segments = d.follow p segments
  | [], _, _ => rfl
  | s :: rest, p, h => by
    have hhere : (d'.at? p).map Entry.bare = (d.at? p).map Entry.bare := h [] List.nil_prefix (by simp)
    have hbelow : ∀ q, q <+: rest → q ≠ rest → _ := fun q hq hne =>
      h (s :: q) (List.cons_prefix_cons.mpr ⟨rfl, hq⟩) (by simpa using hne)
    simp only [destination] at hbelow
    rw [follow, follow]
    obtain ⟨hp, hp'⟩ | ⟨hp, hp'⟩ | ⟨content, content', mode, mode', hp, hp'⟩ := Entry.cases_of_bare hhere
    · rw [hp, hp']
    · rw [hp, hp']
      dsimp only
      by_cases hs : s = ".."
      · simp only [if_pos hs] at hbelow ⊢
        exact follow_congr hbelow
      · simp only [if_neg hs] at hbelow ⊢
        rw [follow_congr hbelow]
    · rw [hp, hp']

/-- **A file reads the same** on disks that have the same in its place, and the same on the way to its folder but for
what files hold. -/
theorem readText_congr {above : List String} {name : String} (hsegments : absolute cwd path = above ++ [name])
    (hway : ∀ p, OnWay above p → (d'.at? p).map Entry.bare = (d.at? p).map Entry.bare)
    (hfile : d'.at? (destination [] (absolute cwd path)) = d.at? (destination [] (absolute cwd path))) :
    d'.readText cwd path = d.readText cwd path := by
  have hfollow : d'.follow [] (absolute cwd path) = d.follow [] (absolute cwd path) := by
    refine follow_congr fun q hq hne => hway _ ⟨q, ?_, rfl⟩
    rw [hsegments] at hq hne
    exact (List.prefix_concat_iff.mp hq).resolve_left hne
  have hlocate : d'.locate cwd path = d.locate cwd path := by
    unfold locate
    rw [hfollow]
  have hread : d'.read cwd path = d.read cwd path := by
    cases hl : d.locate cwd path with
    | error e =>
      unfold read
      rw [hlocate, hl]
      rfl
    | ok p =>
      rw [read_of_locate hl, read_of_locate (hlocate.trans hl), ← eq_destination_of_locate hl, hfile]
  unfold readText
  rw [hread]

end Disk

/-! ## Writing -/

namespace Storage

variable {cwd : Place} {path : String} {d : Disk}

/-- **A save** makes no more than the way to the folder, apart from the file itself. -/
theorem saveFile_paved (s : SessionState) {p : Place} (hne : p ≠ destination [] (absolute cwd path)) :
    Paved (absolute cwd path).dropLast d (saveFile cwd path s d).2 p := by
  obtain ⟨e, he⟩ | ⟨d₁, hp, ⟨e, -, he⟩ | ⟨mode, -, -, he⟩⟩ := saveFile_cases cwd path s d
  · rw [he]
    exact .refl _ d p
  · rw [he]
    exact Disk.makeParents_paved hp p
  · rw [he]
    exact (Disk.makeParents_paved hp p).trans (.inl (d₁.at?_put_of_ne _ hne))

end Storage

namespace Session

/-- **A whole run** makes no more than the way to the folder either. -/
theorem uses_paved {cwd : Place} {path : String} {p : Place} (hne : p ≠ destination [] (absolute cwd path))
    (k : Console Disk) (us : List Use) :
    Paved (absolute cwd path).dropLast k.store (uses (.file cwd path) k us).2.store p := by
  induction us using List.reverseRecOn with
  | nil =>
    have hstore : (uses (.file cwd path) k []).2.store = k.store := (Session.open_quiet _ k).2.1
    rw [hstore]
    exact .refl _ _ p
  | append_singleton us u ih =>
    have hstorage := storage_uses (.file cwd path) k us
    rw [uses_append]
    cases u with
    | change c =>
      unfold use change
      dsimp only
      rw [hstorage]
      exact ih.trans (Storage.saveFile_paved _ hne)
    | reload =>
      have hstore := (Session.open_quiet (uses (.file cwd path) k us).1.storage (uses (.file cwd path) k us).2).2.1
      unfold use
      dsimp only
      rw [hstore]
      exact ih

/-- **A session stays in its folder**, whatever its name is.  Its file stands directly in the folder, under a name of
ASCII letters, digits, hyphens and underscores.  What is opened depends on nothing but this file and what leads to the
folder, and all that is ever changed anywhere else is that the way to the folder is made.  A name that may stand for a
file has that file, and shares it with no other such name. -/
theorem stays_in_folder (home : String) (folder : Option String) (name : String) :
    let dir := folder.getD (SessionFile.defaultFolder home)
    ∃ stem, SessionFile.Stem stem ∧ SessionFile.path home folder name = Path.join dir (stem ++ ".json") ∧
      (∀ cwd, let storage := named cwd home folder name
        let file := destination [] (absolute cwd dir) ++ [stem ++ ".json"]
        absolute cwd storage.location = absolute cwd dir ++ [stem ++ ".json"] ∧
        destination [] (absolute cwd storage.location) = file ∧
        (∀ d d' : Disk, (∀ p, OnWay (absolute cwd dir) p → (d'.at? p).map Entry.bare = (d.at? p).map Entry.bare) →
          d'.at? file = d.at? file → storage.load d' = storage.load d) ∧
        ∀ k us, ∀ p ≠ file, Paved (absolute cwd dir) k.store (uses storage k us).2.store p) ∧
      (SessionFile.Stem name → stem = name ∧ ∀ m, SessionFile.Stem m → m ≠ name → ∀ cwd,
        destination [] (absolute cwd (SessionFile.path home folder m)) ≠
          destination [] (absolute cwd (SessionFile.path home folder name))) := by
  intro dir
  refine ⟨SessionFile.safeName name, SessionFile.stem_safeName name, rfl, fun cwd => ?_, fun hstem => ?_⟩
  · have hplain := SessionFile.plain_file name
    have hsegments : absolute cwd (SessionFile.path home folder name) =
        absolute cwd dir ++ [SessionFile.safeName name ++ ".json"] := Disk.absolute_join cwd dir hplain
    have hfile : destination [] (absolute cwd (SessionFile.path home folder name)) =
        destination [] (absolute cwd dir) ++ [SessionFile.safeName name ++ ".json"] := by
      rw [hsegments, Disk.destination_append _ _ hplain.ne_up]
    refine ⟨hsegments, hfile, fun d d' hway hsame => ?_, fun k us p hne => ?_⟩
    · rw [← hfile] at hsame
      show Storage.loadFile cwd _ d' = Storage.loadFile cwd _ d
      unfold Storage.loadFile
      rw [Disk.readText_congr hsegments hway hsame]
    · rw [← hfile] at hne
      have hpaved := uses_paved hne k us
      rwa [hsegments, List.dropLast_concat] at hpaved
  · have hself := SessionFile.safeName_of_stem hstem
    refine ⟨hself, fun m hm hne cwd => SessionFile.destination_ne ?_ cwd home folder⟩
    rw [hself, SessionFile.safeName_of_stem hm]
    exact Ne.symm hne

/-- A name that tries to lead out of the folder. -/
example : SessionFile.path "/home/me" (some "/tmp/daec") "../evil name" = "/tmp/daec/___evil_name.json" := by decide

end Session
end CalcConsole
