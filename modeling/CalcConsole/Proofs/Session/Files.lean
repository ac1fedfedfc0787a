import CalcConsole.Config.Edit
import CalcConsole.Proofs.Disk.Writing
import CalcConsole.Proofs.Session.Text
import CalcConsole.Session.Basic
import CalcConsole.Session.Location
/-! # The file of a session on a disk

`Shows` says what the file of a session holds: a text that reads as the session, or nothing at all.  A save that goes
through makes the file show the session, and what is done to the settings leaves the file alone, since the two never
have one name. -/
namespace CalcConsole

namespace Storage

open Disk (Speakable absolute)

variable {cwd : Place} {path : String} {d : Disk}

/-- **What a save does**: it fails before anything is done, or once the folders are made, or puts the file. -/
theorem saveFile_cases (cwd : Place) (path : String) (s : SessionState) (d : Disk) :
    (∃ e, saveFile cwd path s d = (.error e, d)) ∨
    ∃ d₁, d.makeParents cwd path = .ok d₁ ∧
      ((∃ e, d₁.write cwd path s.render.toUTF8 privateMode (some privateMode) = .error e ∧
          saveFile cwd path s d = (.error ⟨path, e⟩, d₁)) ∨
        ∃ mode, d₁.follow [] (absolute cwd path) = .ok (Disk.destination [] (absolute cwd path)) ∧
          d₁.at? (Disk.destination [] (absolute cwd path)) ≠ some .folder ∧
          saveFile cwd path s d =
            (.ok (), d₁.put (Disk.destination [] (absolute cwd path)) (.file s.render.toUTF8 mode))) := by
  unfold saveFile
  cases hp : d.makeParents cwd path with
  | error e => exact .inl ⟨_, rfl⟩
  | ok d₁ =>
    refine .inr ⟨d₁, rfl, ?_⟩
    dsimp only
    cases hw : d₁.write cwd path s.render.toUTF8 privateMode (some privateMode) with
    | error e => exact .inl ⟨e, rfl, rfl⟩
    | ok d₂ =>
      obtain ⟨p, mode, hf, hfolder, rfl⟩ := Disk.write_ok (Disk.speakable_of_makeParents hp) hw
      have hdest := Disk.eq_destination_of_follow hf
      subst hdest
      exact .inr ⟨mode, hf, hfolder, rfl⟩

/-- **A save that goes through** leaves the text of the session in its file. -/
theorem saveFile_ok {s : SessionState} (h : (saveFile cwd path s d).1 = .ok ()) :
    Speakable path ∧ (saveFile cwd path s d).2.Holds (absolute cwd path) s.render.toUTF8 := by
  obtain ⟨e, he⟩ | ⟨d₁, hp, ⟨e, -, he⟩ | ⟨mode, hf, hfolder, he⟩⟩ := saveFile_cases cwd path s d
  · rw [he] at h
    cases h
  · rw [he] at h
    cases h
  · rw [he]
    exact ⟨Disk.speakable_of_makeParents hp, Disk.holds_put hf hfolder mode⟩

theorem save_file_eq : (file cwd path).save = saveFile cwd path := rfl

theorem save_file {s : SessionState} (h : (saveFile cwd path s d).1 = .ok ()) :
    (file cwd path).save s d = (.ok (), (saveFile cwd path s d).2) := Prod.ext h rfl

theorem at?_ne_folder_of_saveFile {s : SessionState} (h : (saveFile cwd path s d).1 = .ok ()) :
    d.at? (Disk.destination [] (absolute cwd path)) ≠ some .folder := by
  obtain ⟨e, he⟩ | ⟨d₁, hp, ⟨e, -, he⟩ | ⟨mode, -, hfolder, -⟩⟩ := saveFile_cases cwd path s d
  · rw [he] at h
    cases h
  · rw [he] at h
    cases h
  · exact fun hat => hfolder ((Disk.makeParents_ok hp).2.at?_of_some hat)

theorem saveFile_of_holds {content : ByteArray} (hs : Speakable path) (h : d.Holds (absolute cwd path) content)
    (s : SessionState) : (saveFile cwd path s d).1 = .ok () := by
  obtain ⟨mode, hfile⟩ := h.file
  have hwrite : ∃ mode, d.write cwd path s.render.toUTF8 privateMode (some privateMode) =
      .ok (d.put (Disk.destination [] (absolute cwd path)) (.file s.render.toUTF8 mode)) :=
    Disk.write_of_open hs h.way (by rw [hfile]; simp)
  obtain ⟨mode', hw⟩ := hwrite
  unfold saveFile
  rw [Disk.makeParents_eq hs, Disk.makeFolders_of_open h.way h.ne_nil]
  dsimp only
  rw [hw]

/-! ## What a storage opens as -/

variable {σ : Type}

/-- The state in which a session over the storage opens: an empty one where nothing can be read. -/
def opens (storage : Storage σ) (store : σ) : SessionState := (storage.load store).1.toOption.getD .empty

/-- A save that fails leaves what the storage opens as. -/
def Steady (storage : Storage σ) : Prop :=
  ∀ s store e, (storage.save s store).1 = .error e → storage.opens (storage.save s store).2 = storage.opens store

theorem opens_file_of_unreadable (h : ∀ text, d.readText cwd path ≠ .ok text) :
    (file cwd path).opens d = .empty := by
  unfold opens file
  dsimp only
  unfold loadFile
  cases hr : d.readText cwd path with
  | ok text => exact absurd hr (h text)
  | error e => cases e <;> rfl

/-- **A file that could not be saved** opens as before: what can be read can be written. -/
theorem steady_file (cwd : Place) (path : String) : (file cwd path).Steady := by
  intro s d e h
  have hbefore : ∀ text, d.readText cwd path ≠ .ok text := by
    intro text hr
    obtain ⟨hs, content, hholds⟩ := Disk.holds_of_readText hr
    have hok : ((file cwd path).save s d).1 = .ok () := saveFile_of_holds hs hholds s
    rw [hok] at h
    cases h
  rw [opens_file_of_unreadable hbefore]
  rw [save_file_eq] at h ⊢
  obtain ⟨e₁, he⟩ | ⟨d₁, hp, ⟨e₁, hw, he⟩ | ⟨mode, -, -, he⟩⟩ := saveFile_cases cwd path s d
  · rw [he]
    exact opens_file_of_unreadable hbefore
  · rw [he]
    refine opens_file_of_unreadable fun text hr => ?_
    obtain ⟨hs, content, hholds⟩ := Disk.holds_of_readText hr
    obtain ⟨mode, hfile⟩ := hholds.file
    have hopen : ∃ mode', d₁.write cwd path s.render.toUTF8 privateMode (some privateMode) =
        .ok (d₁.put (Disk.destination [] (absolute cwd path)) (.file s.render.toUTF8 mode')) :=
      Disk.write_of_open hs hholds.way (by rw [hfile]; simp)
    obtain ⟨mode', hok⟩ := hopen
    rw [hok] at hw
    cases hw
  · rw [he] at h
    cases h

end Storage

namespace SessionFile

/-! ## The name of the file -/

theorem not_slash_of_isNameChar {c : Char} (h : isNameChar c = true) : c ≠ '/' := by
  rintro rfl
  cases h

theorem getLast?_file (name : String) : (safeName name ++ ".json").toList.getLast? = some 'n' := by
  rw [String.toList_append, List.getLast?_append]
  rfl

theorem file_ne (name : String) {s : String} (h : s.toList.getLast? ≠ some 'n') : safeName name ++ ".json" ≠ s := by
  rintro rfl
  exact h (getLast?_file name)

theorem plain_file (name : String) : Path.Plain (safeName name ++ ".json") := by
  refine ⟨?_, file_ne name (by decide), file_ne name (by decide), file_ne name (by decide)⟩
  rw [String.toList_append, List.mem_append, not_or]
  refine ⟨?_, by decide⟩
  unfold safeName
  by_cases hname : name = ""
  · rw [if_pos hname]
    decide
  · rw [if_neg hname, String.toList_ofList, List.mem_map]
    rintro ⟨c, -, hc⟩
    by_cases hsafe : isNameChar c = true
    · rw [if_pos hsafe] at hc
      exact not_slash_of_isNameChar hsafe hc
    · rw [if_neg hsafe] at hc
      cases hc

theorem destination_ne_of_plain (cwd cwd' : Place) (home : String) (folder : Option String) (name folder' : String)
    {file : String} (hfile : Path.Plain file) (hend : file.toList.getLast? ≠ some 'n') :
    Disk.destination [] (Disk.absolute cwd (path home folder name)) ≠
      Disk.destination [] (Disk.absolute cwd' (Path.join folder' file)) := by
  unfold path
  rw [Disk.absolute_join _ _ (plain_file name), Disk.absolute_join _ _ hfile, Disk.destination_append _ _ (plain_file name).ne_up, Disk.destination_append _ _ hfile.ne_up]
  intro he
  have hname := (List.append_inj' he rfl).2
  exact file_ne name hend (List.head_eq_of_cons_eq hname)

section

variable (cwd : Place) (home : String) (folder : Option String) (name : String) (s : Surroundings)

theorem destination_ne_settings : Disk.destination [] (Disk.absolute cwd (path home folder name)) ≠
    Disk.destination [] (Disk.absolute s.place s.globalFile) :=
  destination_ne_of_plain cwd s.place home folder name _ ⟨by decide, by decide, by decide, by decide⟩ (by decide)

end

/-! ## What the file shows -/

/-- What the file that `segments` lead to shows of a session: nothing, or a text that reads as the state. -/
def Shows (segments : List String) (d : Disk) : Option SessionState → Prop
  | none => d.at? (Disk.destination [] segments) = none
  | some s => ∃ text : String, d.Holds segments text.toUTF8 ∧ SessionState.read text = (.ok s, none)

variable {segments : List String} {d d' : Disk} {m : Option SessionState}

theorem Shows.of_save {cwd : Place} {path : String} {s : SessionState}
    (h : (Storage.saveFile cwd path s d).1 = .ok ()) :
    Shows (Disk.absolute cwd path) (Storage.saveFile cwd path s d).2 (some s) :=
  ⟨s.render, (Storage.saveFile_ok h).2, s.read_render⟩

theorem Shows.grows (h : Shows segments d m) (hg : Disk.Grows d d')
    (hfolder : d'.at? (Disk.destination [] segments) ≠ some .folder) : Shows segments d' m := by
  cases m with
  | none =>
    rcases hg (Disk.destination [] segments) with he | ⟨-, he⟩
    · exact he.trans h
    · exact absurd he hfolder
  | some s =>
    obtain ⟨text, hholds, hread⟩ := h
    exact ⟨text, hholds.grows hg, hread⟩

theorem Shows.put (h : Shows segments d m) {p : Place} (hp : d.at? p ≠ some .folder)
    (hne : Disk.destination [] segments ≠ p) (e : Entry) : Shows segments (d.put p e) m := by
  cases m with
  | none => exact (d.at?_put_of_ne e hne).trans h
  | some s =>
    obtain ⟨text, hholds, hread⟩ := h
    exact ⟨text, hholds.put hp hne e, hread⟩

end SessionFile

theorem Session.open_fst {σ : Type} (storage : Storage σ) (k : Console σ) :
    (Session.«open» storage k).1 = ⟨storage.opens k.store, storage⟩ := by
  unfold Session.«open» Storage.opens
  rcases storage.load k.store with ⟨e | state, events⟩ <;> rfl

/-! ## Changes of the settings -/

namespace Config

variable {d : Disk}

/-- How a text is put into a file: not at all, for want of its folder; or only the folders are made; or the file holds it
in a place where no folder is. -/
theorem store_cases (noFolder : FileError → ConfigError) (cwd : Place) (path text : String) (d : Disk) :
    (∃ e, store noFolder cwd path text d = (.error (noFolder e), d)) ∨ ∃ d₁, Disk.Grows d d₁ ∧
      ((∃ e, store noFolder cwd path text d = (.error (.unwritable e), d₁)) ∨
        ∃ mode, d₁.at? (Disk.destination [] (Disk.absolute cwd path)) ≠ some .folder ∧
          store noFolder cwd path text d =
            (.ok (), d₁.put (Disk.destination [] (Disk.absolute cwd path)) (.file text.toUTF8 mode))) := by
  unfold store
  cases hp : d.makeParents cwd path with
  | error e => exact .inl ⟨e, rfl⟩
  | ok d₁ =>
    obtain ⟨hs, hgrows⟩ := Disk.makeParents_ok hp
    refine .inr ⟨d₁, hgrows, ?_⟩
    dsimp only
    cases hw : d₁.write cwd path text.toUTF8 fileMode none with
    | error e => exact .inl ⟨e, rfl⟩
    | ok d₂ =>
      obtain ⟨p, mode, hf, hfolder, rfl⟩ := Disk.write_ok hs hw
      rw [Disk.eq_destination_of_follow hf] at hfolder ⊢
      exact .inr ⟨mode, hfolder, rfl⟩

/-- **The settings are written** without a change of the file of any session. -/
theorem shows_store {noFolder : FileError → ConfigError} {cwd : Place} {path text : String} {segments : List String}
    {m : Option SessionState} (hm : SessionFile.Shows segments d m)
    (hne : Disk.destination [] segments ≠ Disk.destination [] (Disk.absolute cwd path))
    (hfolder : (store noFolder cwd path text d).2.at? (Disk.destination [] segments) ≠ some .folder) :
    SessionFile.Shows segments (store noFolder cwd path text d).2 m := by
  obtain ⟨e, h⟩ | ⟨d₁, hgrows, ⟨e, h⟩ | ⟨mode, hp, h⟩⟩ := store_cases noFolder cwd path text d
  · rw [h]
    exact hm
  · rw [h] at hfolder ⊢
    exact hm.grows hgrows hfolder
  · rw [h] at hfolder ⊢
    dsimp only at hfolder ⊢
    rw [d₁.at?_put_of_ne _ hne] at hfolder
    exact (hm.grows hgrows hfolder).put hp hne _

end Config
end CalcConsole
