import Mathlib.Data.List.Forall2
import CalcConsole.Proofs.Session.Durability
/-! # Sessions by name

Two names have one file between them if they differ only in characters that stand as underscores in its name, and then
what is saved under the one is opened under the other.  Any other two names have files of their own, and nothing that is
done under the one changes what opens under the other. -/
namespace CalcConsole

open Disk (Grows KeepsFolders absolute destination)

/-! ## Names with one file -/

namespace SessionFile

/-- Whether a character stands as an underscore in the name of a file. -/
def isMasked (c : Char) : Bool := !isNameChar c || c == '_'

/-- Two names that differ only in characters that stand as underscores. -/
def Confused (n m : String) : Prop :=
  List.Forall₂ (fun c c' => c = c' ∨ isMasked c = true ∧ isMasked c' = true) n.toList m.toList

theorem safeChar_of_masked {c : Char} (h : isMasked c = true) : (if isNameChar c then c else '_') = '_' := by
  by_cases hc : isNameChar c = true
  · rw [if_pos hc]
    simpa [isMasked, hc] using h
  · rw [if_neg hc]

theorem safeChar_of_unmasked {c : Char} (h : ¬ isMasked c = true) :
    (if isNameChar c then c else '_') = c ∧ c ≠ '_' := by
  simp only [isMasked, Bool.or_eq_true, Bool.not_eq_true', beq_iff_eq, not_or, Bool.not_eq_false] at h
  exact ⟨if_pos h.1, h.2⟩

theorem safeChar_eq_iff {c c' : Char} : (if isNameChar c then c else '_') = (if isNameChar c' then c' else '_') ↔
    c = c' ∨ isMasked c = true ∧ isMasked c' = true := by
  constructor
  · intro h
    by_cases hc : isMasked c = true <;> by_cases hc' : isMasked c' = true
    · exact .inr ⟨hc, hc'⟩
    · obtain ⟨heq, hne⟩ := safeChar_of_unmasked hc'
      rw [safeChar_of_masked hc, heq] at h
      exact absurd h.symm hne
    · obtain ⟨heq, hne⟩ := safeChar_of_unmasked hc
      rw [safeChar_of_masked hc', heq] at h
      exact absurd h hne
    · rw [(safeChar_of_unmasked hc).1, (safeChar_of_unmasked hc').1] at h
      exact .inl h
  · rintro (rfl | ⟨hc, hc'⟩)
    · rfl
    · rw [safeChar_of_masked hc, safeChar_of_masked hc']

/-- **Names that are confused** are those that have the same name for a file. -/
theorem safeName_eq_iff {n m : String} (hn : n ≠ "") (hm : m ≠ "") : safeName n = safeName m ↔ Confused n m := by
  unfold safeName Confused
  rw [if_neg hn, if_neg hm, String.ofList_inj, ← List.forall₂_eq_eq_eq, List.forall₂_map_left_iff,
    List.forall₂_map_right_iff]
  simp only [safeChar_eq_iff]

theorem destination_ne {n m : String} (h : safeName n ≠ safeName m) (cwd : Place) (home : String)
    (folder : Option String) :
    destination [] (absolute cwd (path home folder m)) ≠ destination [] (absolute cwd (path home folder n)) := by
  unfold path
  rw [Disk.absolute_join _ _ (plain_file n), Disk.absolute_join _ _ (plain_file m), Disk.destination_append _ _ (plain_file n).ne_up,
    Disk.destination_append _ _ (plain_file m).ne_up]
  intro he
  have hfile : safeName m ++ ".json" = safeName n ++ ".json" := List.head_eq_of_cons_eq (List.append_inj' he rfl).2
  exact h (String.append_left_inj _ |>.mp hfile).symm

end SessionFile

/-! ## What leaves a file alone -/

namespace Disk

variable {p q : Place} {d d' d'' : Disk}

/-- No folder is lost, and the file at a place, if there is one, is the same. -/
structure Spares (p : Place) (d d' : Disk) : Prop where
  folders : KeepsFolders d d'
  file : ∀ content mode, d'.at? p = some (.file content mode) ↔ d.at? p = some (.file content mode)

namespace Spares

theorem refl (p : Place) (d : Disk) : Spares p d d := ⟨fun _ h => h, fun _ _ => Iff.rfl⟩

theorem trans (h : Spares p d d') (h' : Spares p d' d'') : Spares p d d'' :=
  ⟨fun q hq => h'.folders q (h.folders q hq), fun content mode => (h'.file content mode).trans (h.file content mode)⟩

theorem of_grows (h : Grows d d') : Spares p d d' := by
  refine ⟨h.keepsFolders, fun content mode => ?_⟩
  rcases h p with hp | ⟨hp, hp'⟩
  · rw [hp]
  · rw [hp, hp']
    simp

theorem put (hq : d.at? q ≠ some .folder) (hne : p ≠ q) (e : Entry) : Spares p d (d.put q e) :=
  ⟨keepsFolders_put hq e, fun content mode => by rw [d.at?_put_of_ne e hne]⟩

end Spares
end Disk

namespace Storage

variable {cwd : Place} {path path' : String} {d d' : Disk}

/-- **A save** in another file leaves the file alone, whether it goes through or not. -/
theorem saveFile_spares (s : SessionState) {p : Place} (hne : p ≠ destination [] (absolute cwd path)) :
    Disk.Spares p d (saveFile cwd path s d).2 := by
  obtain ⟨e, he⟩ | ⟨d₁, hp, ⟨e, -, he⟩ | ⟨mode, -, hfolder, he⟩⟩ := saveFile_cases cwd path s d
  · rw [he]
    exact .refl p d
  · rw [he]
    exact .of_grows (Disk.makeParents_ok hp).2
  · rw [he]
    exact (Disk.Spares.of_grows (Disk.makeParents_ok hp).2).trans (.put hfolder hne _)

/-- The path leads to the file in its place, if there is one.  Only a path with `..` may fail to, through a folder that
is missing; to make that folder would open the way. -/
def Reached (cwd : Place) (path : String) (d : Disk) : Prop :=
  ∀ content mode, d.at? (destination [] (absolute cwd path)) = some (.file content mode) →
    d.Holds (absolute cwd path) content

theorem readText_of_spares (hreached : Reached cwd path d)
    (h : Disk.Spares (destination [] (absolute cwd path)) d d') {text : String} :
    d'.readText cwd path = .ok text ↔ d.readText cwd path = .ok text := by
  constructor
  · intro hread
    obtain ⟨hs, content, hholds'⟩ := Disk.holds_of_readText hread
    obtain ⟨mode, hfile⟩ := hholds'.file
    have hholds := hreached content mode ((h.file content mode).mp hfile)
    rwa [hholds.readText_eq hholds' hs] at hread
  · intro hread
    obtain ⟨hs, content, hholds⟩ := Disk.holds_of_readText hread
    obtain ⟨mode, hfile⟩ := hholds.file
    have hholds' : d'.Holds (absolute cwd path) content :=
      ⟨Disk.follow_of_keepsFolders h.folders hholds.way, mode, (h.file content mode).mpr hfile⟩
    rwa [hholds.readText_eq hholds' hs]

theorem opens_of_spares (hreached : Reached cwd path d)
    (h : Disk.Spares (destination [] (absolute cwd path)) d d') :
    (file cwd path).opens d' = (file cwd path).opens d := by
  by_cases hread : ∃ text, d.readText cwd path = .ok text
  · obtain ⟨text, hread⟩ := hread
    unfold opens file loadFile
    dsimp only
    rw [hread, (readText_of_spares hreached h).mpr hread]
  · have hnone : ∀ text, d.readText cwd path ≠ .ok text := fun text ht => hread ⟨text, ht⟩
    rw [opens_file_of_unreadable hnone,
      opens_file_of_unreadable fun text ht => hnone text ((readText_of_spares hreached h).mp ht)]

end Storage

/-! ## Sessions with different files -/

namespace Session

open SessionState (Change)
open SessionFile (Confused)

variable {cwd : Place} {home : String} {folder : Option String} {n m : String} {k : Console Disk}

/-- The session of a name is kept in the file of that name. -/
def named (cwd : Place) (home : String) (folder : Option String) (name : String) : Storage Disk :=
  .file cwd (SessionFile.path home folder name)

theorem changed_spares {path : String} {p : Place} (hne : p ≠ destination [] (absolute cwd path)) (k : Console Disk)
    (cs : List Change) : Disk.Spares p k.store (changed (.file cwd path) k cs).2.store := by
  induction cs using List.reverseRecOn with
  | nil =>
    have hstore : (changed (.file cwd path) k []).2.store = k.store := (Session.open_quiet _ k).2.1
    rw [hstore]
    exact .refl p _
  | append_singleton cs c ih =>
    have hstorage := storage_changed (.file cwd path) k cs
    rw [changed_concat]
    unfold use change
    dsimp only
    rw [hstorage]
    exact ih.trans (Storage.saveFile_spares _ hne)

theorem opens_of_other_name (hname : SessionFile.safeName n ≠ SessionFile.safeName m)
    (hreached : Storage.Reached cwd (SessionFile.path home folder m) k.store) (cs : List Change) :
    (named cwd home folder m).opens (changed (named cwd home folder n) k cs).2.store =
      (named cwd home folder m).opens k.store :=
  Storage.opens_of_spares hreached (changed_spares (SessionFile.destination_ne hname cwd home folder) k cs)

theorem token_opens_named (hw : k.store.Writable cwd (SessionFile.path home folder n)) (t : Token) :
    ((named cwd home folder n).opens (changed (named cwd home folder n) k [.setToken t]).2.store).token = some t := by
  have hsaved : answer (changed (named cwd home folder n) k []) (.setToken t) = .ok () := by
    obtain ⟨d, hsave, -⟩ := Storage.saveFile_of_writable hw (((named cwd home folder n).opens k.store).apply (.setToken t))
    have hstore : (changed (named cwd home folder n) k []).2.store = k.store := (Session.open_quiet _ k).2.1
    unfold answer change
    rw [changed_fst, hstore]
    exact congrArg Prod.fst hsave
  have hdurable : (named cwd home folder n).Durable := Storage.durable_file _ _
  have hopens := opens_of_saved hdurable hsaved
  rw [List.nil_append] at hopens
  rw [hopens, changed_fst]
  rfl

/-- **Independent names.**  Where the file of `n` can be written, nothing that is changed under `n` changes the view or
the token that open under `m`, exactly when the two names are not confused. -/
theorem independent_iff_not_confused (hn : n ≠ "") (hm : m ≠ "")
    (hw : k.store.Writable cwd (SessionFile.path home folder n))
    (hreached : Storage.Reached cwd (SessionFile.path home folder m) k.store) :
    (∀ cs : List Change,
      let before := (Session.«open» (named cwd home folder m) k).1
      let after := (Session.«open» (named cwd home folder m) (changed (named cwd home folder n) k cs).2).1
      after.view = before.view ∧ after.token = before.token) ↔ ¬ Confused n m := by
  rw [← SessionFile.safeName_eq_iff hn hm]
  simp only [Session.open_fst]
  constructor
  · intro hsame hname
    have hnamed : named cwd home folder m = named cwd home folder n := by
      unfold named SessionFile.path
      rw [hname]
    obtain ⟨t, ht⟩ : ∃ t, ((named cwd home folder n).opens k.store).token ≠ some t := by
      by_cases ha : ((named cwd home folder n).opens k.store).token = some ⟨"a"⟩
      · exact ⟨⟨"b"⟩, by rw [ha]; decide⟩
      · exact ⟨⟨"a"⟩, ha⟩
    have hafter := (hsame [.setToken t]).2
    unfold token at hafter
    dsimp only at hafter
    rw [hnamed, token_opens_named hw t] at hafter
    exact ht hafter.symm
  · intro hname cs
    unfold view token
    dsimp only
    rw [opens_of_other_name hname hreached cs]
    exact ⟨rfl, rfl⟩

/-! ### A blank and an underscore -/

def atHome : Console Disk := ⟨⟨[(["home"], .folder), (["home", "s"], .folder)]⟩, ⟨[], .refused, []⟩, []⟩

theorem writable_atHome : atHome.store.Writable [] (SessionFile.path "/home" (some "/home/s") "work") :=
  ⟨atHome.store, by rfl, by rfl, by
    have hat : atHome.store.at? (destination [] (absolute [] (SessionFile.path "/home" (some "/home/s") "work"))) = none := by
      rfl
    rw [hat]
    simp⟩

theorem reached_atHome : Storage.Reached [] (SessionFile.path "/home" (some "/home/s") "play") atHome.store := by
  intro content mode hfile
  have hat : atHome.store.at? (destination [] (absolute [] (SessionFile.path "/home" (some "/home/s") "play"))) = none := by
    rfl
  rw [hat] at hfile
  cases hfile

theorem independent_work_play : ¬ Confused "work" "play" ∧
    atHome.store.Writable [] (SessionFile.path "/home" (some "/home/s") "work") ∧
    Storage.Reached [] (SessionFile.path "/home" (some "/home/s") "play") atHome.store ∧
    ∀ cs : List Change,
      (Session.«open» (named [] "/home" (some "/home/s") "play")
        (changed (named [] "/home" (some "/home/s") "work") atHome cs).2).1.token = none := by
  have hn : "work" ≠ "" := by decide
  have hm : "play" ≠ "" := by decide
  have hconfused : ¬ Confused "work" "play" := by
    rw [← SessionFile.safeName_eq_iff hn hm]
    decide
  have hindependent := (independent_iff_not_confused hn hm writable_atHome reached_atHome).mpr hconfused
  exact ⟨hconfused, writable_atHome, reached_atHome, fun cs => (hindependent cs).2⟩

/-- The two names are not the same, and a login under the one is a login under the other. -/
theorem token_of_other_name : "work 1" ≠ "work_1" ∧
    (Session.«open» (named [] "/home" (some "/home/s") "work_1") atHome).1.token = none ∧
    (Session.«open» (named [] "/home" (some "/home/s") "work_1")
      (changed (named [] "/home" (some "/home/s") "work 1") atHome [.setToken ⟨"abc"⟩]).2).1.token = some ⟨"abc"⟩ := by
  decide +kernel

end Session
end CalcConsole
