import CalcConsole.Text.Blank
/-! # Trimmed texts

A text that is trimmed has lost blanks at its two ends, and no others: what is left begins and ends with characters that
are none, unless nothing is left. -/
namespace CalcConsole
namespace Text

def Blanked (cs : List Char) : Prop := ∀ c ∈ cs, isBlank c = true

/-- Neither the first character nor the last one is blank. -/
def Bare (cs : List Char) : Prop :=
  (∀ c, cs.head? = some c → isBlank c = false) ∧ ∀ c, cs.getLast? = some c → isBlank c = false

/-- What a text holds between the blanks at its two ends. -/
def Encloses (s t : String) : Prop :=
  ∃ lead trail, s.toList = lead ++ (t.toList ++ trail) ∧ Blanked lead ∧ Blanked trail ∧ Bare t.toList

theorem trimStart_append {lead : List Char} (h : Blanked lead) (cs : List Char) :
    trimStart (lead ++ cs) = trimStart cs := by
  unfold trimStart
  rw [List.dropWhile_append_of_pos h]

theorem trimStart_of_head {cs : List Char} (h : ∀ c, cs.head? = some c → isBlank c = false) : trimStart cs = cs := by
  cases cs with
  | nil => rfl
  | cons c cs => exact List.dropWhile_cons_of_neg (by rw [h c rfl]; decide)

theorem exists_trimStart (cs : List Char) : ∃ lead, Blanked lead ∧ cs = lead ++ trimStart cs ∧
    ∀ c, (trimStart cs).head? = some c → isBlank c = false := by
  refine ⟨cs.takeWhile isBlank, List.all_eq_true.mp List.all_takeWhile, List.takeWhile_append_dropWhile.symm,
    fun c hc => ?_⟩
  have hhead := List.head?_dropWhile_not isBlank cs
  rw [show cs.dropWhile isBlank = trimStart cs from rfl, hc] at hhead
  exact hhead

theorem trimEnd_eq (cs : List Char) : trimEnd cs = (trimStart cs.reverse).reverse := rfl

/-- **A text is trimmed** to what it encloses. -/
theorem trim_eq_iff {s t : String} : trim s = t ↔ Encloses s t := by
  have hto : trim s = t ↔ trimEnd (trimStart s.toList) = t.toList := by
    unfold trim
    rw [← String.toList_inj, String.toList_ofList]
  rw [hto]
  constructor
  · intro h
    obtain ⟨lead, hlead, hs, hfirst⟩ := exists_trimStart s.toList
    obtain ⟨trail, htrail, hrest, hlast⟩ := exists_trimStart (trimStart s.toList).reverse
    rw [trimEnd_eq] at h
    rw [← List.reverse_eq_iff.mpr h.symm] at hrest hlast
    have hsplit : trimStart s.toList = t.toList ++ trail.reverse := by
      rw [← List.reverse_reverse (trimStart s.toList), hrest, List.reverse_append, List.reverse_reverse]
    refine ⟨lead, trail.reverse, by rw [← hsplit]; exact hs, hlead,
      fun c hc => htrail c (List.mem_reverse.mp hc), fun c hc => hfirst c ?_, fun c hc => hlast c ?_⟩
    · rw [hsplit, List.head?_append, hc]
      rfl
    · rw [List.head?_reverse, hc]
  · rintro ⟨lead, trail, hs, hlead, htrail, hfirst, hlast⟩
    have hback : Blanked trail.reverse := fun c hc => htrail c (List.mem_reverse.mp hc)
    rw [hs, trimStart_append hlead]
    cases ht : t.toList with
    | nil =>
      have hnone : trimStart trail = [] := by
        have h := trimStart_append htrail []
        rw [List.append_nil] at h
        exact h
      rw [List.nil_append, hnone]
      rfl
    | cons c cs =>
      rw [ht] at hfirst hlast
      have hfront : trimStart (c :: cs ++ trail) = c :: cs ++ trail := trimStart_of_head hfirst
      have hend : trimStart (c :: cs).reverse = (c :: cs).reverse := by
        refine trimStart_of_head fun d hd => hlast d ?_
        rw [← List.head?_reverse]
        exact hd
      rw [hfront, trimEnd_eq, List.reverse_append, trimStart_append hback, hend, List.reverse_reverse]

end Text
end CalcConsole
