import CalcConsole.Proofs.Disk.Writing
/-! # Disks that differ in one file

Two disks are twins if they are the same but for the content of one file.  No way leads through a file, so every path
leads to the same place on both, and whatever is written leaves twins.  Only who reads the one file can tell them
apart. -/
namespace CalcConsole

/-- Two results that are both failures, and the same, or both values, and related. -/
inductive Matched {ε α : Type} (R : α → α → Prop) : Except ε α → Except ε α → Prop
  | error (e : ε) : Matched R (.error e) (.error e)
  | ok {a a' : α} (h : R a a') : Matched R (.ok a) (.ok a')

theorem Matched.of_eq {ε α : Type} {R : α → α → Prop} (hR : ∀ a, R a a) {r r' : Except ε α} (h : r' = r) :
    Matched R r r' := by
  subst h
  cases r' with
  | error e => exact .error e
  | ok a => exact .ok (hR a)

namespace Disk

variable {P : Place} {C : ByteArray → ByteArray → Prop} {d d' : Disk}

/-- The same at every place, except that the file at `P` may have another content, which `C` relates to the first. -/
def Twins (P : Place) (C : ByteArray → ByteArray → Prop) (d d' : Disk) : Prop :=
  ∀ p, d'.at? p = d.at? p ∨ p = P ∧ ∃ content content' mode, C content content' ∧
    d.at? p = some (.file content mode) ∧ d'.at? p = some (.file content' mode)

namespace Twins

theorem refl (d : Disk) : Twins P C d d := fun _ => .inl rfl

variable (h : Twins P C d d')
include h

theorem put (p : Place) (e : Entry) : Twins P C (d.put p e) (d'.put p e) := by
  intro q
  by_cases hq : q = p
  · by_cases hp : p = []
    · rw [hq, hp]
      exact .inl rfl
    · rw [hq, d.at?_put_self p e hp, d'.at?_put_self p e hp]
      exact .inl rfl
  · rw [d.at?_put_of_ne e hq, d'.at?_put_of_ne e hq]
    exact h q

theorem put_file {content content' : ByteArray} (hc : C content content') (hP : P ≠ []) (mode : Nat) :
    Twins P C (d.put P (.file content mode)) (d'.put P (.file content' mode)) := by
  intro q
  by_cases hq : q = P
  · rw [hq, d.at?_put_self P _ hP, d'.at?_put_self P _ hP]
    exact .inr ⟨rfl, content, content', mode, hc, rfl, rfl⟩
  · rw [d.at?_put_of_ne _ hq, d'.at?_put_of_ne _ hq]
    exact h q

/-! ## Ways -/

/-- **Every way is as open on both.** -/
theorem follow_eq : ∀ (segments : List String) (p : Place), d'.follow p segments = d.follow p segments
  | [], _ => rfl
  | s :: rest, p => by
    rw [follow, follow, follow_eq rest p.dropLast, follow_eq rest (p ++ [s])]
    rcases h p with he | ⟨-, content, content', mode, -, hd, hd'⟩
    · rw [he]
    · rw [hd, hd']

theorem locate_eq (cwd : Place) (path : String) : d'.locate cwd path = d.locate cwd path := by
  unfold locate
  rw [h.follow_eq]

theorem isFolder_eq (segments : List String) : d'.isFolder segments = d.isFolder segments := by
  unfold isFolder
  rw [h.follow_eq]
  cases d.follow [] segments with
  | error e => rfl
  | ok p =>
    dsimp only
    rcases h p with he | ⟨-, content, content', mode, -, hd, hd'⟩
    · rw [he]
    · rw [hd, hd']

/-! ## Reading -/

theorem read_matched (cwd : Place) (path : String) :
    Matched (fun b b' => b' = b ∨ destination [] (absolute cwd path) = P ∧ C b b') (d.read cwd path)
      (d'.read cwd path) := by
  cases hl : d.locate cwd path with
  | error e =>
    have hl' : d'.locate cwd path = .error e := (h.locate_eq cwd path).trans hl
    unfold read
    rw [hl, hl']
    exact .error e
  | ok p =>
    rw [read_of_locate hl, read_of_locate ((h.locate_eq cwd path).trans hl)]
    rcases h p with he | ⟨hp, content, content', mode, hc, hd, hd'⟩
    · rw [he]
      exact .of_eq (fun _ => .inl rfl) rfl
    · rw [hd, hd']
      exact .ok (.inr ⟨(eq_destination_of_locate hl).trans hp, hc⟩)

/-- **Any other file reads the same.** -/
theorem readText_eq {cwd : Place} {path : String} (hne : destination [] (absolute cwd path) ≠ P) :
    d'.readText cwd path = d.readText cwd path := by
  have hread : d'.read cwd path = d.read cwd path := by
    have hmatched := h.read_matched cwd path
    generalize d.read cwd path = r, d'.read cwd path = r' at hmatched
    cases hmatched with
    | error e => rfl
    | ok hb =>
      rcases hb with rfl | ⟨hP, -⟩
      · rfl
      · exact absurd hP hne
  unfold readText
  rw [hread]

/-! ## Writing -/

theorem makeFolder_matched (segments : List String) :
    Matched (Twins P C) (d.makeFolder segments) (d'.makeFolder segments) := by
  cases hf : d.follow [] segments with
  | error e =>
    have hf' : d'.follow [] segments = .error e := (h.follow_eq segments []).trans hf
    unfold makeFolder
    rw [hf, hf']
    exact .error e
  | ok p =>
    rw [makeFolder_of_follow hf, makeFolder_of_follow ((h.follow_eq segments []).trans hf)]
    rcases h p with he | ⟨-, content, content', mode, -, hd, hd'⟩
    · rw [he]
      cases d.at? p with
      | none => exact .ok (h.put p .folder)
      | some e => exact .error _
    · rw [hd, hd']
      exact .error _

end Twins

theorem Twins.settled (h : Twins P C d d') (segments : List String) (e : FileError) :
    Matched (Twins P C) (if d.isFolder segments then .ok d else .error e)
      (if d'.isFolder segments then .ok d' else .error e) := by
  rw [h.isFolder_eq]
  by_cases hf : d.isFolder segments = true
  · rw [if_pos hf, if_pos hf]
    exact .ok h
  · rw [if_neg hf, if_neg hf]
    exact .error e

theorem Twins.makeFolders_matched : ∀ (reversed : List String) {d d' : Disk}, Twins P C d d' →
    Matched (Twins P C) (d.makeFolders reversed) (d'.makeFolders reversed)
  | [], _, _, h => .ok h
  | s :: above, d, d', h => by
    rw [makeFolders, makeFolders]
    have hmake := h.makeFolder_matched (s :: above).reverse
    generalize d.makeFolder (s :: above).reverse = r, d'.makeFolder (s :: above).reverse = r' at hmake
    cases hmake with
    | ok h' => exact .ok h'
    | error e =>
      cases e with
      | notFound =>
        have habove := makeFolders_matched above h
        dsimp only
        generalize d.makeFolders above = r, d'.makeFolders above = r' at habove
        cases habove with
        | error e => exact .error e
        | @ok d₁ d₁' h' =>
          have hagain := h'.makeFolder_matched (s :: above).reverse
          dsimp only
          generalize d₁.makeFolder (s :: above).reverse = r, d₁'.makeFolder (s :: above).reverse = r' at hagain
          cases hagain with
          | ok h'' => exact .ok h''
          | error e => exact h'.settled _ e
      | _ => exact h.settled _ _

namespace Twins

variable (h : Twins P C d d')
include h

theorem makeParents_matched (cwd : Place) (path : String) :
    Matched (Twins P C) (d.makeParents cwd path) (d'.makeParents cwd path) := by
  unfold makeParents
  split
  · exact .error _
  · exact h.makeFolders_matched _

/-- **Writing the same keeps twins**, and so does writing what may differ to the one file. -/
theorem write_matched {cwd : Place} {path : String} {content content' : ByteArray}
    (hc : content' = content ∨ destination [] (absolute cwd path) = P ∧ C content content') (created : Nat)
    (forced : Option Nat) :
    Matched (Twins P C) (d.write cwd path content created forced) (d'.write cwd path content' created forced) := by
  cases hl : d.locate cwd path with
  | error e =>
    have hl' : d'.locate cwd path = .error e := (h.locate_eq cwd path).trans hl
    unfold write
    rw [hl, hl']
    exact .error e
  | ok p =>
    rw [write_of_locate hl, write_of_locate ((h.locate_eq cwd path).trans hl)]
    have hput : p ≠ [] → ∀ mode, Twins P C (d.put p (.file content mode)) (d'.put p (.file content' mode)) := by
      intro hp mode
      rcases hc with rfl | ⟨hP, hc⟩
      · exact h.put p _
      · rw [eq_destination_of_locate hl] at hP
        subst hP
        exact h.put_file hc hp mode
    -- The root is a folder on both, which is why the place of a file is another one.
    by_cases hp : p = []
    · rw [hp]
      exact .error _
    rcases h p with he | ⟨-, old, old', mode, -, hd, hd'⟩
    · rw [he]
      cases d.at? p with
      | none => exact .ok (hput hp _)
      | some e =>
        cases e with
        | folder => exact .error _
        | file old mode => exact .ok (hput hp _)
    · rw [hd, hd']
      exact .ok (hput hp _)

end Twins
end Disk
end CalcConsole
