import CalcConsole.Disk
/-! # Where paths lead

Segments name one destination, whatever stands on the way; a disk decides only whether the way there is open.  A way
that is open stays so for as long as the folders stay folders. -/
namespace CalcConsole

/-! ## Segments -/

namespace Text

theorem pieces_append (sep : Char) : ∀ cs ds : List Char,
    pieces sep (cs ++ sep :: ds) = pieces sep cs ++ pieces sep ds
  | [], ds => by
    show (if sep = sep then [] :: pieces sep ds else _) = _
    rw [if_pos rfl]
    rfl
  | c :: cs, ds => by
    rw [List.cons_append, pieces, pieces, pieces_append sep cs ds]
    by_cases hc : c = sep
    · rw [if_pos hc, if_pos hc, List.cons_append]
    · rw [if_neg hc, if_neg hc]
      cases hp : pieces sep cs with
      | nil => exact absurd hp (pieces_ne_nil sep cs)
      | cons p ps => rfl

theorem pieces_of_not_mem (sep : Char) : ∀ {cs : List Char}, sep ∉ cs → pieces sep cs = [cs]
  | [], _ => rfl
  | c :: cs, h => by
    rw [List.mem_cons, not_or] at h
    rw [pieces, if_neg (Ne.symm h.1), pieces_of_not_mem sep h.2]

end Text

namespace Path

/-- A name that may stand alone for a file. -/
structure Plain (name : String) : Prop where
  no_slash : '/' ∉ name.toList
  ne_empty : name ≠ ""
  ne_here : name ≠ "."
  ne_up : name ≠ ".."

theorem segments_of_plain {name : String} (h : Plain name) : segments name = [name] := by
  unfold segments Text.splitOn
  rw [Text.pieces_of_not_mem _ h.no_slash]
  simp [h.ne_empty, h.ne_here]

theorem segments_slash (folder name : String) :
    segments (folder ++ "/" ++ name) = segments folder ++ segments name := by
  have htext : (folder ++ "/" ++ name).toList = folder.toList ++ '/' :: name.toList := by
    rw [String.toList_append, String.toList_append, List.append_assoc]
    rfl
  unfold segments Text.splitOn
  rw [htext, Text.pieces_append, List.map_append, List.filter_append]

theorem isAbsolute_of_plain {name : String} (h : Plain name) : isAbsolute name = false := by
  unfold isAbsolute
  cases hname : name.toList with
  | nil => rfl
  | cons c cs =>
    have hc : c ≠ '/' := fun hc => h.no_slash (by rw [hname, hc]; exact List.mem_cons_self ..)
    simp [hc]

/-- **A file in a folder** has the segments of the folder, and then its name. -/
theorem segments_join (folder : String) {name : String} (h : Plain name) :
    segments (join folder name) = segments folder ++ [name] := by
  unfold join
  rw [if_neg (by rw [isAbsolute_of_plain h]; decide)]
  by_cases hempty : folder = ""
  · rw [if_pos hempty, hempty, segments_of_plain h]
    rfl
  rw [if_neg hempty]
  by_cases hslash : folder.toList.getLast? = some '/'
  · obtain ⟨cs, hcs⟩ := List.getLast?_eq_some_iff.mp hslash
    have hfolder : folder = String.ofList cs ++ "/" := by
      rw [← String.ofList_toList (s := folder), hcs, String.ofList_append]
    have hsegments : segments folder = segments (String.ofList cs) := by
      have hslash := segments_slash (String.ofList cs) ""
      rw [String.append_empty, ← hfolder] at hslash
      exact hslash.trans (List.append_nil _)
    rw [if_pos hslash, hsegments, hfolder, segments_slash, segments_of_plain h]
  · rw [if_neg hslash, segments_slash, segments_of_plain h]

theorem isAbsolute_join (folder : String) {name : String} (h : Plain name) :
    isAbsolute (join folder name) = isAbsolute folder := by
  have happend (s : String) (hne : folder ≠ "") : isAbsolute (folder ++ s) = isAbsolute folder := by
    obtain ⟨c, cs, hcs⟩ := List.exists_cons_of_ne_nil (l := folder.toList) (by simpa using hne)
    unfold isAbsolute
    rw [String.toList_append, hcs]
    rfl
  unfold join
  rw [if_neg (by rw [isAbsolute_of_plain h]; decide)]
  by_cases hempty : folder = ""
  · rw [if_pos hempty, hempty, isAbsolute_of_plain h]
    rfl
  · rw [if_neg hempty]
    by_cases hslash : folder.toList.getLast? = some '/'
    · rw [if_pos hslash, happend name hempty]
    · rw [if_neg hslash, String.append_assoc, happend _ hempty]

end Path

namespace Disk

theorem absolute_join (cwd : Place) (folder : String) {name : String} (h : Path.Plain name) :
    absolute cwd (Path.join folder name) = absolute cwd folder ++ [name] := by
  unfold absolute
  rw [Path.isAbsolute_join folder h, Path.segments_join folder h]
  split
  · rfl
  · rw [List.append_assoc]

/-! ## Destinations -/

/-- The place that segments name, whatever stands on the way. -/
def destination (p : Place) : List String → Place
  | [] => p
  | s :: rest => if s = ".." then destination p.dropLast rest else destination (p ++ [s]) rest

theorem destination_append (p : Place) (ss : List String) {s : String} (h : s ≠ "..") :
    destination p (ss ++ [s]) = destination p ss ++ [s] := by
  induction ss generalizing p with
  | nil => exact if_neg h
  | cons t ss ih =>
    rw [List.cons_append, destination, destination]
    by_cases ht : t = ".."
    · rw [if_pos ht, if_pos ht, ih]
    · rw [if_neg ht, if_neg ht, ih]

variable {d d' : Disk}

theorem follow_cons {p q : Place} {s : String} {rest : List String} (h : d.follow p (s :: rest) = .ok q) :
    d.at? p = some .folder ∧
      (s = ".." ∧ d.follow p.dropLast rest = .ok q ∨
        s ≠ ".." ∧ s.utf8ByteSize ≤ maxName ∧ d.follow (p ++ [s]) rest = .ok q) := by
  rw [follow] at h
  cases hp : d.at? p with
  | none => rw [hp] at h; cases h
  | some e =>
    rw [hp] at h
    cases e with
    | file content mode => cases h
    | folder =>
      dsimp only at h
      refine ⟨rfl, ?_⟩
      by_cases hs : s = ".."
      · rw [if_pos hs] at h
        exact .inl ⟨hs, h⟩
      · rw [if_neg hs] at h
        by_cases hn : maxName < s.utf8ByteSize
        · rw [if_pos hn] at h
          cases h
        · rw [if_neg hn] at h
          exact .inr ⟨hs, Nat.le_of_not_lt hn, h⟩

/-- **An open way** leads to the destination of its segments. -/
theorem eq_destination_of_follow : ∀ {segments : List String} {p q : Place},
    d.follow p segments = .ok q → q = destination p segments
  | [], p, q, h => by
    cases h
    rfl
  | s :: rest, p, q, h => by
    rw [destination]
    rcases (follow_cons h).2 with ⟨hs, h⟩ | ⟨hs, -, h⟩
    · rw [if_pos hs, eq_destination_of_follow h]
    · rw [if_neg hs, eq_destination_of_follow h]

def KeepsFolders (d d' : Disk) : Prop := ∀ p, d.at? p = some .folder → d'.at? p = some .folder

theorem follow_of_keepsFolders (hk : KeepsFolders d d') : ∀ {segments : List String} {p q : Place},
    d.follow p segments = .ok q → d'.follow p segments = .ok q
  | [], _, _, h => h
  | s :: rest, p, q, h => by
    obtain ⟨hp, h⟩ := follow_cons h
    rw [follow, hk p hp]
    dsimp only
    rcases h with ⟨hs, h⟩ | ⟨hs, hn, h⟩
    · rw [if_pos hs]
      exact follow_of_keepsFolders hk h
    · rw [if_neg hs, if_neg (Nat.not_lt.mpr hn)]
      exact follow_of_keepsFolders hk h

theorem follow_dropLast : ∀ {above : List String} {s : String} {p q : Place}, d.follow p (above ++ [s]) = .ok q →
    ∃ r, d.follow p above = .ok r ∧ d.at? r = some .folder
  | [], _, p, _, h => ⟨p, rfl, (follow_cons h).1⟩
  | t :: above, s, p, q, h => by
    obtain ⟨hp, h⟩ := follow_cons h
    rw [follow, hp]
    dsimp only
    rcases h with ⟨ht, h⟩ | ⟨ht, hn, h⟩
    · rw [if_pos ht]
      exact follow_dropLast h
    · rw [if_neg ht, if_neg (Nat.not_lt.mpr hn)]
      exact follow_dropLast h

end Disk
end CalcConsole
