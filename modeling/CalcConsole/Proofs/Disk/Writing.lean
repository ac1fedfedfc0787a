import CalcConsole.Proofs.Disk.Ways
/-! # What writing changes

Making folders adds folders where nothing stood, on the way to the last one, and writing a file changes the place of the
file alone.  A file that was written can be read and written again by the same path. -/
namespace CalcConsole
namespace Disk

variable {d d' d'' : Disk}

/-! ## Making folders -/

def OnWay (segments : List String) (p : Place) : Prop := ∃ q, q <+: segments ∧ p = destination [] q

/-- What stood at a place stands there, or a folder is new there, on the way of the segments. -/
def Paved (segments : List String) (d d' : Disk) (p : Place) : Prop :=
  d'.at? p = d.at? p ∨ d.at? p = none ∧ d'.at? p = some .folder ∧ OnWay segments p

namespace Paved

variable {segments longer : List String} {p : Place}

theorem refl (segments : List String) (d : Disk) (p : Place) : Paved segments d d p := .inl rfl

theorem trans (h : Paved segments d d' p) (h' : Paved segments d' d'' p) : Paved segments d d'' p := by
  rcases h with hp | ⟨hp, hp', hway⟩ <;> rcases h' with hq | ⟨hq, hq', hway'⟩
  · exact .inl (hq.trans hp)
  · exact .inr ⟨hp ▸ hq, hq', hway'⟩
  · exact .inr ⟨hp, hq.trans hp', hway⟩
  · rw [hp'] at hq
    cases hq

theorem mono (h : Paved segments d d' p) (hl : segments <+: longer) : Paved longer d d' p :=
  h.imp id fun ⟨hp, hp', q, hq, he⟩ => ⟨hp, hp', q, hq.trans hl, he⟩

end Paved

/-- Nothing is lost, and folders are all that is new. -/
def Grows (d d' : Disk) : Prop := ∀ p, d'.at? p = d.at? p ∨ d.at? p = none ∧ d'.at? p = some .folder

theorem Grows.of_paved {segments : List String} (h : ∀ p, Paved segments d d' p) : Grows d d' :=
  fun p => (h p).imp id fun ⟨hp, hp', _⟩ => ⟨hp, hp'⟩

theorem Grows.at?_of_some (h : Grows d d') {p : Place} {e : Entry} (hp : d.at? p = some e) : d'.at? p = some e := by
  rcases h p with hq | ⟨hq, -⟩
  · rw [hq, hp]
  · rw [hq] at hp
    cases hp

theorem Grows.keepsFolders (h : Grows d d') : KeepsFolders d d' := fun _ hp => h.at?_of_some hp

theorem at?_root (d : Disk) : d.at? [] = some .folder := rfl

theorem paved_put {segments : List String} {p : Place} (h : d.at? p = none) (hway : OnWay segments p) (q : Place) :
    Paved segments d (d.put p .folder) q := by
  by_cases hq : q = p
  · have hp : p ≠ [] := fun hp => by rw [hp, at?_root] at h; cases h
    rw [hq]
    exact .inr ⟨h, d.at?_put_self p .folder hp, hway⟩
  · exact .inl (d.at?_put_of_ne .folder hq)

theorem makeFolder_of_follow {segments : List String} {p : Place} (h : d.follow [] segments = .ok p) :
    d.makeFolder segments = match d.at? p with
      | some _ => .error .exists
      | none => .ok (d.put p .folder) := by
  unfold makeFolder
  rw [h]
  rfl

theorem makeFolder_ok {segments : List String} (h : d.makeFolder segments = .ok d') (p : Place) :
    Paved segments d d' p := by
  cases hf : d.follow [] segments with
  | error e =>
    unfold makeFolder at h
    rw [hf] at h
    cases h
  | ok r =>
    rw [makeFolder_of_follow hf] at h
    cases hr : d.at? r with
    | some e => rw [hr] at h; cases h
    | none =>
      rw [hr] at h
      cases h
      exact paved_put hr ⟨segments, List.prefix_rfl, eq_destination_of_follow hf⟩ p

/-- **Making folders** makes no more than the way to the last one. -/
theorem makeFolders_ok : ∀ {reversed : List String} {d' : Disk}, d.makeFolders reversed = .ok d' →
    ∀ p, Paved reversed.reverse d d' p
  | [], d', h, p => by
    cases h
    exact .refl [] d p
  | s :: above, d', h, p => by
    rw [makeFolders] at h
    split at h
    · rename_i d₁ h₁
      cases h
      exact makeFolder_ok h₁ p
    · -- the folder above is missing, and is made first
      split at h
      · cases h
      · rename_i d₁ h₁
        have habove : Paved (s :: above).reverse d d₁ p :=
          (makeFolders_ok h₁ p).mono (by rw [List.reverse_cons]; exact List.prefix_append ..)
        split at h
        · rename_i d₂ h₂
          cases h
          exact habove.trans (makeFolder_ok h₂ p)
        · split at h
          · cases h
            exact habove
          · cases h
    · split at h
      · cases h
        exact .refl _ d p
      · cases h

theorem makeFolders_of_follow {reversed : List String} {r : Place} (hf : d.follow [] reversed.reverse = .ok r)
    (hr : d.at? r = some .folder) : d.makeFolders reversed = .ok d := by
  cases reversed with
  | nil => rfl
  | cons s above =>
    have hmake : d.makeFolder (s :: above).reverse = .error .exists := by
      rw [makeFolder_of_follow hf, hr]
    have hfolder : d.isFolder (s :: above).reverse = true := by
      unfold isFolder
      rw [hf]
      dsimp only
      rw [hr]
    rw [makeFolders, hmake]
    dsimp only
    rw [if_pos hfolder]

theorem makeFolders_of_open {segments : List String} {p : Place} (hf : d.follow [] segments = .ok p)
    (hne : segments ≠ []) : d.makeFolders segments.reverse.tail = .ok d := by
  have hsplit := List.dropLast_concat_getLast hne
  rw [← hsplit] at hf
  obtain ⟨r, hr, hfolder⟩ := follow_dropLast hf
  refine makeFolders_of_follow ?_ hfolder
  rw [List.tail_reverse, List.reverse_reverse]
  exact hr

/-! ## Writing -/

theorem keepsFolders_put {p : Place} (h : d.at? p ≠ some .folder) (e : Entry) : KeepsFolders d (d.put p e) := by
  intro q hq
  have hne : q ≠ p := fun he => h (he ▸ hq)
  rw [d.at?_put_of_ne e hne, hq]

variable {cwd : Place} {path : String}

def Speakable (path : String) : Prop := path.toList.contains '\x00' = false

theorem makeParents_eq (hs : Speakable path) :
    d.makeParents cwd path = d.makeFolders (absolute cwd path).reverse.tail := by
  unfold makeParents
  rw [if_neg (by rw [hs]; decide)]

theorem speakable_of_makeParents (h : d.makeParents cwd path = .ok d') : Speakable path := by
  unfold makeParents at h
  by_cases hs : path.toList.contains '\x00' = true
  · rw [if_pos hs] at h
    cases h
  · exact Bool.eq_false_iff.mpr hs

theorem makeParents_paved (h : d.makeParents cwd path = .ok d') (p : Place) : Paved (absolute cwd path).dropLast d d' p := by
  rw [makeParents_eq (speakable_of_makeParents h)] at h
  have hpaved := makeFolders_ok h p
  rwa [List.tail_reverse, List.reverse_reverse] at hpaved

theorem makeParents_ok (h : d.makeParents cwd path = .ok d') : Speakable path ∧ Grows d d' :=
  ⟨speakable_of_makeParents h, .of_paved (makeParents_paved h)⟩

theorem locate_eq (hs : Speakable path) : d.locate cwd path = d.follow [] (absolute cwd path) := by
  unfold locate
  rw [if_neg (by rw [hs]; decide)]

theorem read_of_locate {p : Place} (h : d.locate cwd path = .ok p) : d.read cwd path = match d.at? p with
    | none => .error .notFound
    | some .folder => .error .isFolder
    | some (.file content _) => .ok content := by
  unfold read
  rw [h]
  rfl

variable {content : ByteArray} {created : Nat} {forced : Option Nat}

theorem write_of_locate {p : Place} (h : d.locate cwd path = .ok p) :
    d.write cwd path content created forced = match d.at? p with
      | some .folder => .error .isFolder
      | some (.file _ mode) => .ok (d.put p (.file content (forced.getD mode)))
      | none => .ok (d.put p (.file content (forced.getD created))) := by
  unfold write
  rw [h]
  rfl

theorem write_of_follow {p : Place} (hs : Speakable path) (hf : d.follow [] (absolute cwd path) = .ok p) :
    d.write cwd path content created forced = match d.at? p with
      | some .folder => .error .isFolder
      | some (.file _ mode) => .ok (d.put p (.file content (forced.getD mode)))
      | none => .ok (d.put p (.file content (forced.getD created))) :=
  write_of_locate ((locate_eq hs).trans hf)

/-- **Writing a file** changes what stands at its place, which is no folder. -/
theorem write_ok (hs : Speakable path) (h : d.write cwd path content created forced = .ok d') :
    ∃ p mode, d.follow [] (absolute cwd path) = .ok p ∧ d.at? p ≠ some .folder ∧ d' = d.put p (.file content mode) := by
  cases hf : d.follow [] (absolute cwd path) with
  | error e =>
    unfold write at h
    rw [locate_eq hs, hf] at h
    cases h
  | ok p =>
    rw [write_of_follow hs hf] at h
    cases hp : d.at? p with
    | none =>
      rw [hp] at h
      cases h
      exact ⟨p, _, rfl, by rw [hp]; simp, rfl⟩
    | some e =>
      rw [hp] at h
      cases e with
      | folder => cases h
      | file old mode =>
        cases h
        exact ⟨p, _, rfl, by rw [hp]; simp, rfl⟩

theorem write_of_open {p : Place} (hs : Speakable path) (hf : d.follow [] (absolute cwd path) = .ok p)
    (hp : d.at? p ≠ some .folder) :
    ∃ mode, d.write cwd path content created forced = .ok (d.put p (.file content mode)) := by
  rw [write_of_follow hs hf]
  cases h : d.at? p with
  | none => exact ⟨_, rfl⟩
  | some e =>
    cases e with
    | folder => exact absurd h hp
    | file old mode => exact ⟨_, rfl⟩

/-! ## Files that can be reached -/

/-- The segments lead to a file with the given content. -/
structure Holds (d : Disk) (segments : List String) (content : ByteArray) : Prop where
  way : d.follow [] segments = .ok (destination [] segments)
  file : ∃ mode, d.at? (destination [] segments) = some (.file content mode)

namespace Holds

variable {segments : List String}

theorem ne_nil (h : d.Holds segments content) : segments ≠ [] := by
  rintro rfl
  obtain ⟨mode, h⟩ := h.file
  cases h

theorem grows (h : d.Holds segments content) (hg : Grows d d') : d'.Holds segments content := by
  obtain ⟨mode, hf⟩ := h.file
  exact ⟨follow_of_keepsFolders hg.keepsFolders h.way, mode, hg.at?_of_some hf⟩

theorem put (h : d.Holds segments content) {p : Place} (hp : d.at? p ≠ some .folder)
    (hne : destination [] segments ≠ p) (e : Entry) : (d.put p e).Holds segments content := by
  obtain ⟨mode, hf⟩ := h.file
  exact ⟨follow_of_keepsFolders (keepsFolders_put hp e) h.way, mode, by rw [d.at?_put_of_ne e hne, hf]⟩

theorem read (h : d.Holds (absolute cwd path) content) (hs : Speakable path) : d.read cwd path = .ok content := by
  obtain ⟨mode, hf⟩ := h.file
  rw [read_of_locate ((locate_eq hs).trans h.way), hf]

theorem readText {text : String} (h : d.Holds (absolute cwd path) text.toUTF8) (hs : Speakable path) :
    d.readText cwd path = .ok text := by
  have hread := h.read hs
  have htext : String.fromUTF8? text.toUTF8 = some text := by
    exact dif_pos text.isValidUTF8
  unfold Disk.readText
  simp only [hread, htext, bind, Except.bind]
  rfl

theorem readText_eq (h : d.Holds (absolute cwd path) content) (h' : d'.Holds (absolute cwd path) content)
    (hs : Speakable path) : d'.readText cwd path = d.readText cwd path := by
  unfold Disk.readText
  rw [h.read hs, h'.read hs]

end Holds

theorem eq_destination_of_locate {p : Place} (h : d.locate cwd path = .ok p) : destination [] (absolute cwd path) = p := by
  unfold locate at h
  split at h
  · cases h
  · exact (eq_destination_of_follow h).symm

/-- **What can be read** is a file that the path leads to. -/
theorem holds_of_readText {text : String} (h : d.readText cwd path = .ok text) :
    Speakable path ∧ ∃ content, d.Holds (absolute cwd path) content := by
  have hread : ∃ content, d.read cwd path = .ok content := by
    cases hr : d.read cwd path with
    | ok content => exact ⟨content, rfl⟩
    | error e =>
      unfold readText at h
      rw [hr] at h
      cases h
  obtain ⟨content, hread⟩ := hread
  cases hl : d.locate cwd path with
  | error e =>
    unfold read at hread
    rw [hl] at hread
    cases hread
  | ok p =>
    have hspeak : Speakable path := by
      unfold locate at hl
      split at hl
      · cases hl
      · rename_i hs
        exact Bool.eq_false_iff.mpr hs
    have hdest := eq_destination_of_locate hl
    rw [read_of_locate hl] at hread
    rw [locate_eq hspeak] at hl
    cases hat : d.at? p with
    | none => rw [hat] at hread; cases hread
    | some e =>
      cases e with
      | folder => rw [hat] at hread; cases hread
      | file content mode => exact ⟨hspeak, content, by rw [hl, hdest], mode, by rw [hdest, hat]⟩

theorem file_of_readText {text : String} (h : d.readText cwd path = .ok text) :
    ∃ content mode, d.at? (destination [] (absolute cwd path)) = some (.file content mode) := by
  obtain ⟨-, content, hholds⟩ := holds_of_readText h
  exact ⟨content, hholds.file⟩

theorem readText_of_absent (h : d.at? (destination [] (absolute cwd path)) = none) :
    ∃ e, d.readText cwd path = .error e := by
  cases hr : d.readText cwd path with
  | error e => exact ⟨e, rfl⟩
  | ok text =>
    obtain ⟨content, mode, hat⟩ := file_of_readText hr
    rw [h] at hat
    cases hat

theorem contains_of_absent (h : d.at? (destination [] (absolute cwd path)) = none) : d.contains cwd path = false := by
  unfold contains
  cases hl : d.locate cwd path with
  | error e => rfl
  | ok p =>
    rw [eq_destination_of_locate hl] at h
    dsimp only
    rw [h]
    rfl

theorem Holds.contains (h : d.Holds (absolute cwd path) content) (hs : Speakable path) : d.contains cwd path = true := by
  obtain ⟨mode, hfile⟩ := h.file
  unfold Disk.contains
  rw [locate_eq hs, h.way]
  dsimp only
  rw [hfile]
  rfl

theorem holds_put {segments : List String} {p : Place} (hf : d.follow [] segments = .ok p)
    (hp : d.at? p ≠ some .folder) (mode : Nat) : (d.put p (.file content mode)).Holds segments content := by
  have hdest := eq_destination_of_follow hf
  have hroot : p ≠ [] := fun he => hp (he ▸ d.at?_root)
  subst hdest
  exact ⟨follow_of_keepsFolders (keepsFolders_put hp _) hf, mode, d.at?_put_self _ _ hroot⟩

/-! ## Paths that can be written -/

/-- A file can be put at the path: the folders for it are there or can be made, and no folder stands in its place. -/
def Writable (d : Disk) (cwd : Place) (path : String) : Prop :=
  ∃ d₁, d.makeParents cwd path = .ok d₁ ∧ d₁.follow [] (absolute cwd path) = .ok (destination [] (absolute cwd path)) ∧
    d₁.at? (destination [] (absolute cwd path)) ≠ some .folder

theorem Writable.speakable (h : d.Writable cwd path) : Speakable path := by
  obtain ⟨d₁, hp, -, -⟩ := h
  exact speakable_of_makeParents hp

theorem Writable.written (h : d.Writable cwd path) (content : ByteArray) (created : Nat) (forced : Option Nat) :
    ∃ d₁ mode, Grows d d₁ ∧ d.makeParents cwd path = .ok d₁ ∧
      d₁.write cwd path content created forced =
        .ok (d₁.put (destination [] (absolute cwd path)) (.file content mode)) ∧
      (d₁.put (destination [] (absolute cwd path)) (.file content mode)).Holds (absolute cwd path) content ∧
      (d₁.put (destination [] (absolute cwd path)) (.file content mode)).at? (destination [] (absolute cwd path)) =
        some (.file content mode) ∧
      ∀ m, forced = some m → mode = m := by
  obtain ⟨d₁, hp, hf, hfolder⟩ := h
  obtain ⟨hs, hgrows⟩ := makeParents_ok hp
  have hroot : destination [] (absolute cwd path) ≠ [] := fun he => hfolder (by rw [he]; rfl)
  have hwrite : d₁.write cwd path content created forced = _ := write_of_follow hs hf
  cases hat : d₁.at? (destination [] (absolute cwd path)) with
  | none =>
    rw [hat] at hwrite
    exact ⟨d₁, _, hgrows, hp, hwrite, holds_put hf hfolder _, d₁.at?_put_self _ _ hroot, fun m hm => by rw [hm]; rfl⟩
  | some e =>
    cases e with
    | folder => exact absurd hat hfolder
    | file old mode =>
      rw [hat] at hwrite
      exact ⟨d₁, _, hgrows, hp, hwrite, holds_put hf hfolder _, d₁.at?_put_self _ _ hroot, fun m hm => by rw [hm]; rfl⟩

theorem Holds.writable (h : d.Holds (absolute cwd path) content) (hs : Speakable path) : d.Writable cwd path := by
  obtain ⟨mode, hfile⟩ := h.file
  refine ⟨d, ?_, h.way, by rw [hfile]; simp⟩
  rw [makeParents_eq hs, makeFolders_of_open h.way h.ne_nil]

end Disk
end CalcConsole
