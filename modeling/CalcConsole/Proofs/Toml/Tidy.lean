import CalcConsole.Proofs.Toml.RoundTrip
/-! # Tidy trees

A tidy table is one of texts, integers, and tables of these, with all keys in order.  It is its own settled form when it
is written and read again, unless a table in it begins with the key of a date; and it stays tidy when a text or an
integer is put into it, or into a table in it. -/
namespace CalcConsole
namespace Toml

variable {es sub : Entries} {k : String} {v x : Toml}

/-! ## Putting -/

theorem exists_put (k : String) (v : Toml) (es : Entries) : ∃ before behind,
    put k v es = before ++ (k, v) :: behind ∧
      (es = before ++ behind ∨ ∃ old, es = before ++ (k, old) :: behind) := by
  induction es with
  | nil => exact ⟨[], [], rfl, .inl rfl⟩
  | cons e es ih =>
    unfold put
    split
    next hk =>
      subst hk
      exact ⟨[], es, rfl, .inr ⟨e.2, rfl⟩⟩
    next hk =>
      split
      next hlt => exact ⟨[], e :: es, rfl, .inl rfl⟩
      next hlt =>
        obtain ⟨before, behind, hput, hes⟩ := ih
        refine ⟨e :: before, behind, by rw [hput, List.cons_append], ?_⟩
        rcases hes with rfl | ⟨old, rfl⟩
        · exact .inl rfl
        · exact .inr ⟨old, rfl⟩

theorem put_inserts (ha : Ascending es) (h : get? es k = none) (v : Toml) :
    ∃ before behind, es = before ++ behind ∧ put k v es = before ++ (k, v) :: behind := by
  obtain ⟨before, behind, hput, hes | ⟨old, hes⟩⟩ := exists_put k v es
  · exact ⟨before, behind, hes, hput⟩
  · have hmem : (k, old) ∈ es := by rw [hes]; simp
    rw [ha.distinct.get?_eq_some_iff.mpr hmem] at h
    cases h

theorem put_replaces (ha : Ascending es) {old : Toml} (h : get? es k = some old) (v : Toml) :
    ∃ before behind, es = before ++ (k, old) :: behind ∧ put k v es = before ++ (k, v) :: behind := by
  obtain ⟨before, behind, hput, hes | ⟨old', hes⟩⟩ := exists_put k v es
  · have hdistinct := (ha.put k v).distinct
    rw [hput] at hdistinct
    have hmem : (k, old) ∈ before ++ behind := hes ▸ mem_of_get? h
    have hperm : (before ++ (k, v) :: behind).Perm ((k, v) :: (before ++ behind)) := List.perm_middle
    exact absurd (mem_keys hmem) (hdistinct.perm hperm.symm).head
  · have hmem : (k, old') ∈ es := by rw [hes]; simp
    have hold : old' = old := by
      rw [ha.distinct.get?_eq_some_iff.mpr hmem] at h
      exact Option.some.inj h
    exact ⟨before, behind, hold ▸ hes, hput⟩

/-! ## Tidy tables -/

/-- All keys are in order, and there are tables only beside texts and integers. -/
structure Tidy (es : Entries) : Prop where
  ascending : Ascending es
  values : ∀ e ∈ es, Leaf e.2 ∨ ∃ sub, e.2 = .table sub ∧ Ascending sub ∧ ∀ x ∈ sub, Leaf x.2

namespace Tidy

theorem shallow (h : Tidy es) : Shallow es :=
  ⟨h.ascending.distinct, fun e he => (h.values e he).imp_right fun ⟨sub, hsub, hasc, hleaf⟩ =>
    ⟨sub, hsub, hasc.distinct, hleaf⟩⟩

theorem section_of_get? (h : Tidy es) (hk : get? es k = some (.table sub)) :
    Ascending sub ∧ ∀ x ∈ sub, Leaf x.2 := by
  rcases h.values _ (mem_of_get? hk) with hleaf | ⟨sub', hsub, hrest⟩
  · cases hleaf
  · cases hsub
    exact hrest

theorem put_leaf (h : Tidy es) (k : String) (hx : Leaf x) : Tidy (put k x es) :=
  ⟨h.ascending.put k x, fun e he => by
    rcases mem_put he with rfl | he
    · exact .inl hx
    · exact h.values e he⟩

theorem put_below (h : Tidy es) {n : String} (hn : get? es n = some (.table sub)) (k : String) (hx : Leaf x) :
    Tidy (put n (.table (put k x sub)) es) := by
  obtain ⟨hascending, hleaves⟩ := h.section_of_get? hn
  refine ⟨h.ascending.put n _, fun e he => ?_⟩
  rcases mem_put he with rfl | he
  · refine .inr ⟨_, rfl, hascending.put k x, fun y hy => ?_⟩
    rcases mem_put hy with rfl | hy
    · exact hx
    · exact hleaves y hy
  · exact h.values e he

end Tidy

/-! ## Trees that settle to themselves -/

/-- No table begins with the key of a date when it is written. -/
structure Undated (es : Entries) : Prop where
  here : Unmarked (listed es)
  below : ∀ e ∈ es, ∀ sub, e.2 = .table sub → Unmarked sub

theorem unmarked_of_settle? {fs gs : Entries} (h : settle? (.table fs) = some (.table gs)) : Unmarked fs := by
  cases fs with
  | nil => simp [Unmarked, keys]
  | cons e fs =>
    intro hkey
    have hdate : e.1 = dateKey := Option.some.inj hkey
    rw [settle?, if_pos hdate] at h
    obtain ⟨d, -, hd⟩ := Option.map_eq_some_iff.mp h
    cases hd

/-- **A tidy tree** is read back from its text, settled, exactly when it is undated. -/
theorem Tidy.readSettled?_print_iff (h : Tidy es) :
    readSettled? (Toml.table es).print = some (.table es) ↔ Undated es := by
  have hperm := listed_perm es
  have hread : readSettled? (Toml.table es).print = settle? (.table (listed es)) := by
    rw [readSettled?, read?_print h.shallow]
    rfl
  rw [hread]
  constructor
  · intro hsettle
    have hhere := unmarked_of_settle? hsettle
    refine ⟨hhere, fun e he sub hsub => ?_⟩
    rw [settle?_table hhere] at hsettle
    obtain ⟨gs, hgs, hes⟩ := Option.map_eq_some_iff.mp hsettle
    cases hes
    have hrel := rel_settleEntries? hgs e.1
    rw [h.ascending.distinct.get?_perm hperm, h.ascending.distinct.get?_eq_some_iff.mpr he, hsub] at hrel
    cases hrel with
    | some hsettles => exact unmarked_of_settle? hsettles
  · rintro ⟨hhere, hbelow⟩
    refine settle?_perm hperm h.ascending (fun e he => ?_) hhere
    rcases h.values e he with hleaf | ⟨sub, hsub, hascending, hleaves⟩
    · exact hleaf.settle?
    · rw [hsub]
      exact settle?_perm (List.Perm.refl sub) hascending (fun x hx => (hleaves x hx).settle?) (hbelow e he sub hsub)

theorem Tidy.at?_listed (h : Tidy es) (k : String) (path : List String) :
    at? (k :: path) (.table (listed es)) = at? (k :: path) (.table es) := by
  rw [at?_cons, at?_cons, h.ascending.distinct.get?_perm (listed_perm es)]

theorem Unmarked.put (h : Unmarked es) (hk : k ≠ dateKey) (v : Toml) : Unmarked (put k v es) := by
  obtain ⟨before, behind, hput, hes⟩ := exists_put k v es
  unfold Unmarked at h ⊢
  rw [hput]
  cases before with
  | nil => simpa [keys] using hk
  | cons e before => rcases hes with rfl | ⟨old, rfl⟩ <;> simpa [keys] using h

theorem unmarked_listed_insert {before behind : Entries} (h : Unmarked (listed (before ++ behind))) (hk : k ≠ dateKey)
    (hx : Leaf x) : Unmarked (listed (before ++ (k, x) :: behind)) := by
  have hold : keys (listed (before ++ behind)) =
      keys (leaves before) ++ keys (leaves behind ++ (tables before ++ tables behind)) := by simp [listed]
  have hnew : keys (listed (before ++ (k, x) :: behind)) =
      keys (leaves before) ++ k :: keys (leaves behind ++ (tables before ++ tables behind)) := by
    simp [listed, leaves_cons, tables_cons, hx.not_table]
  unfold Unmarked at h ⊢
  rw [hold] at h
  rw [hnew]
  -- The key comes first only where no text or integer stands before it.
  cases hbefore : keys (leaves before) with
  | nil => simpa using hk
  | cons j more => simpa [hbefore] using h

theorem unmarked_listed_replace {before behind : Entries} {old : Toml}
    (h : Unmarked (listed (before ++ (k, old) :: behind))) (hx : isTable x = isTable old) :
    Unmarked (listed (before ++ (k, x) :: behind)) := by
  have hkeys : keys (listed (before ++ (k, x) :: behind)) = keys (listed (before ++ (k, old) :: behind)) := by
    cases hkind : isTable old <;> simp [listed, leaves_cons, tables_cons, hx, hkind]
  unfold Unmarked at h ⊢
  rwa [hkeys]

namespace Undated

theorem put_leaf (h : Undated es) (ha : Ascending es) (hk : k ≠ dateKey) (hx : Leaf x)
    (hold : ∀ sub, get? es k ≠ some (.table sub)) : Undated (put k x es) := by
  refine ⟨?_, fun e he sub hsub => ?_⟩
  · cases hget : get? es k with
    | none =>
      obtain ⟨before, behind, hes, hput⟩ := put_inserts ha hget x
      rw [hput]
      exact unmarked_listed_insert (hes ▸ h.here) hk hx
    | some old =>
      have hleaf : isTable old = false := Bool.eq_false_iff.mpr fun htable => by
        obtain ⟨sub, rfl⟩ := isTable_iff.mp htable
        exact hold sub hget
      obtain ⟨before, behind, hes, hput⟩ := put_replaces ha hget x
      rw [hput]
      exact unmarked_listed_replace (hes ▸ h.here) (hx.not_table.trans hleaf.symm)
  · rcases mem_put he with rfl | he
    · cases hsub
      cases hx
    · exact h.below e he sub hsub

theorem put_below (h : Undated es) (ha : Ascending es) {n : String} (hn : get? es n = some (.table sub))
    (hk : k ≠ dateKey) (x : Toml) : Undated (put n (.table (put k x sub)) es) := by
  have hsub := h.below _ (mem_of_get? hn) sub rfl
  refine ⟨?_, fun e he sub' hsub' => ?_⟩
  · obtain ⟨before, behind, hes, hput⟩ := put_replaces ha hn (.table (put k x sub))
    have hhere := h.here
    rw [hes] at hhere
    rw [hput]
    exact unmarked_listed_replace hhere rfl
  · rcases mem_put he with rfl | he
    · cases hsub'
      exact hsub.put hk x
    · exact h.below e he sub' hsub'

end Undated

end Toml
end CalcConsole
