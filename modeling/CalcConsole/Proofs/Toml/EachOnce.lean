import CalcConsole.Proofs.Toml.Order
/-! # Each key once

No table of a tree that was read from a text has a key twice (`distinct_read?`).  The drafts have each key once from the
start, every statement keeps them so, and the values of the statements are read piece by piece. -/
namespace CalcConsole
namespace Toml

variable {k : String} {v t : Toml}

/-! ## Drafts -/

namespace Draft

variable {es es' : Drafts} {d : Draft} {o : Origin} {path : List String} {key : String}

/-- No table in the draft has a key twice. -/
inductive Single : Draft → Prop
  | value {v : Toml} (h : Everywhere Distinct v) : Single (.value v)
  | table {o : Origin} {es : Drafts} (once : (keys es).Nodup) (parts : ∀ e ∈ es, Single e.2) : Single (.table o es)
  | tables {items : List Drafts} (once : ∀ es ∈ items, (keys es).Nodup) (parts : ∀ es ∈ items, ∀ e ∈ es, Single e.2) :
    Single (.tables items)

structure AllSingle (es : Drafts) : Prop where
  once : (keys es).Nodup
  parts : ∀ e ∈ es, Single e.2

theorem Single.entries (h : Single (.table o es)) : AllSingle es := by
  cases h with
  | table once parts => exact ⟨once, parts⟩

theorem Single.items {items : List Drafts} (h : Single (.tables items)) (hes : es ∈ items) : AllSingle es := by
  cases h with
  | tables once parts => exact ⟨once es hes, parts es hes⟩

theorem single_tables {items : List Drafts} (h : ∀ es ∈ items, AllSingle es) : Single (.tables items) :=
  .tables (fun es hes => (h es hes).once) fun es hes => (h es hes).parts

theorem mem_of_find? (h : find? es k = some d) : (k, d) ∈ es := by
  unfold find? at h
  obtain ⟨e, he, rfl⟩ := Option.map_eq_some_iff.mp h
  have hk : e.1 = k := by simpa using List.find?_some he
  subst hk
  exact List.mem_of_find?_eq_some he

theorem not_mem_keys_of_find? (h : find? es k = none) : k ∉ keys es := by
  intro hmem
  obtain ⟨e, he, rfl⟩ := List.mem_map.mp hmem
  have hnone := List.find?_eq_none.mp (Option.map_eq_none_iff.mp h) e he
  simp at hnone

theorem mem_put {e : String × Draft} (h : e ∈ put k d es) : e = (k, d) ∨ e ∈ es := by
  induction es with
  | nil => exact .inl (List.mem_singleton.mp h)
  | cons f es ih =>
    unfold put at h
    split at h
    · exact (List.mem_cons.mp h).imp id (List.mem_cons_of_mem _)
    · rcases List.mem_cons.mp h with rfl | h
      · exact .inr (List.mem_cons_self ..)
      · exact (ih h).imp id (List.mem_cons_of_mem _)

theorem nodup_keys_put (h : (keys es).Nodup) (k : String) (d : Draft) : (keys (put k d es)).Nodup := by
  induction es with
  | nil => simp [put, keys]
  | cons f es ih =>
    obtain ⟨hf, hes⟩ := List.nodup_cons.mp h
    unfold put
    split
    next hk => exact hk ▸ h
    next hk =>
      refine List.nodup_cons.mpr ⟨fun hmem => ?_, ih hes⟩
      obtain ⟨e, he, hkey⟩ := List.mem_map.mp hmem
      rcases mem_put he with rfl | he
      · exact hk hkey.symm
      · exact hf (hkey ▸ mem_keys he)

namespace AllSingle

theorem nil : AllSingle [] := ⟨List.nodup_nil, by simp⟩

theorem find? (h : AllSingle es) (hd : find? es k = some d) : Single d := h.parts _ (mem_of_find? hd)

theorem put (h : AllSingle es) (k : String) (hd : Single d) : AllSingle (put k d es) :=
  ⟨nodup_keys_put h.once k d, fun e he => by
    rcases mem_put he with rfl | he
    · exact hd
    · exact h.parts e he⟩

theorem concat (h : AllSingle es) (hk : k ∉ keys es) (hd : Single d) : AllSingle (es ++ [(k, d)]) := by
  refine ⟨?_, fun e he => ?_⟩
  · rw [keys_append]
    refine List.nodup_append.mpr ⟨h.once, by simp [keys], fun a ha b hb hab => hk ?_⟩
    rw [hab, List.mem_singleton.mp hb] at ha
    exact ha
  · rcases List.mem_append.mp he with he | he
    · exact h.parts e he
    · rw [List.mem_singleton.mp he]
      exact hd

/-- **A change in the depth** keeps each key once, if the change itself does. -/
theorem descend {dotted : Bool} {f : Origin → Drafts → Option Drafts}
    (hf : ∀ {o es es'}, AllSingle es → f o es = some es' → AllSingle es') (h : AllSingle es)
    (hd : descend dotted f path o es = some es') : AllSingle es' := by
  induction path generalizing o es es' with
  | nil => exact hf h hd
  | cons k path ih =>
    rw [Draft.descend] at hd
    cases hk : Draft.find? es k with
    | none =>
      rw [hk] at hd
      obtain ⟨sub, hsub, rfl⟩ := Option.map_eq_some_iff.mp hd
      have hall := ih .nil hsub
      exact h.put k (.table hall.once hall.parts)
    | some part =>
      have hpart := h.find? hk
      rw [hk] at hd
      cases part with
      | value v => cases hd
      | table o' sub =>
        dsimp only at hd
        split at hd
        · cases hd
        · obtain ⟨sub', hsub, rfl⟩ := Option.map_eq_some_iff.mp hd
          have hall := ih hpart.entries hsub
          exact h.put k (.table hall.once hall.parts)
      | tables items =>
        dsimp only at hd
        -- The last table of the array gives way to a changed one, and the others stay.
        cases hlast : items.getLast? with
        | none => rw [hlast] at hd; cases hd
        | some sub =>
          rw [hlast] at hd
          obtain ⟨sub', hsub, rfl⟩ := Option.map_eq_some_iff.mp hd
          have hall := ih (hpart.items (List.mem_of_getLast? hlast)) hsub
          refine h.put k (single_tables fun es hes => ?_)
          rcases List.mem_append.mp hes with hes | hes
          · exact hpart.items (List.dropLast_subset _ hes)
          · rw [List.mem_singleton.mp hes]
            exact hall

theorem addPair (h : AllSingle es) (hv : Everywhere Distinct v) (ha : addPair path key v o es = some es') :
    AllSingle es' := by
  refine h.descend (fun {o es es'} h hadd => ?_) ha
  split at hadd
  · cases hadd
  next hno =>
    cases hadd
    simp only [Bool.or_eq_true, not_or, Bool.not_eq_true, Option.isSome_eq_false_iff, Option.isNone_iff_eq_none] at hno
    exact h.concat (not_mem_keys_of_find? hno.2) (.value hv)

theorem openTable (h : AllSingle es) (ho : openTable key o es = some es') : AllSingle es' := by
  unfold Draft.openTable at ho
  split at ho
  next hk =>
    cases ho
    exact h.concat (not_mem_keys_of_find? hk) (.table List.nodup_nil (by simp))
  next sub hk =>
    cases ho
    have hfiltered : AllSingle (es.filter (·.1 ≠ key)) :=
      ⟨h.once.sublist (List.filter_sublist.map _), fun e he => h.parts e (List.mem_of_mem_filter he)⟩
    have hsub := (h.find? hk).entries
    refine hfiltered.concat (fun hmem => ?_) (.table hsub.once hsub.parts)
    obtain ⟨e, he, hkey⟩ := List.mem_map.mp hmem
    simpa [hkey] using (List.mem_filter.mp he).2
  · cases ho

theorem openItem (h : AllSingle es) (ho : openItem key o es = some es') : AllSingle es' := by
  unfold Draft.openItem at ho
  split at ho
  next hk =>
    cases ho
    exact h.concat (not_mem_keys_of_find? hk) (single_tables fun es hes => List.mem_singleton.mp hes ▸ .nil)
  next items hk =>
    cases ho
    refine h.put key (single_tables fun es hes => ?_)
    rcases List.mem_append.mp hes with hes | hes
    · exact (h.find? hk).items hes
    · exact List.mem_singleton.mp hes ▸ .nil
  · cases ho

end AllSingle

theorem keys_doneEntries (es : Drafts) : keys (doneEntries es) = keys es := by
  induction es with
  | nil => rfl
  | cons e es ih => rw [doneEntries, keys_cons, ih, keys_cons]

mutual

theorem distinct_done : {d : Draft} → Single d → Everywhere Distinct (done d)
  | .value v, h => by
    cases h with
    | value h => exact h
  | .table o es, h => .table (by rw [Distinct, keys_doneEntries]; exact h.entries.once)
      (distinct_doneEntries h.entries.parts)
  | .tables items, h => .array (distinct_doneItems fun es hes => h.items hes)

theorem distinct_doneEntries : {es : List (String × Draft)} → (∀ e ∈ es, Single e.2) →
    ∀ e ∈ doneEntries es, Everywhere Distinct e.2
  | [], _ => by simp [doneEntries]
  | e :: es, h => by
    obtain ⟨hhead, htail⟩ := List.forall_mem_cons.mp h
    rw [doneEntries]
    exact List.forall_mem_cons.mpr ⟨distinct_done hhead, distinct_doneEntries htail⟩

theorem distinct_doneItems : {items : List (List (String × Draft))} → (∀ es ∈ items, AllSingle es) →
    ∀ v ∈ doneItems items, Everywhere Distinct v
  | [], _ => by simp [doneItems]
  | es :: items, h => by
    obtain ⟨hhead, htail⟩ := List.forall_mem_cons.mp h
    rw [doneItems]
    refine List.forall_mem_cons.mpr ⟨.table ?_ (distinct_doneEntries hhead.parts), distinct_doneItems htail⟩
    rw [Distinct, keys_doneEntries]
    exact hhead.once

end

theorem AllSingle.done (h : AllSingle es) : Everywhere Distinct (.table (doneEntries es)) :=
  .table (by rw [Distinct, keys_doneEntries]; exact h.once) (distinct_doneEntries h.parts)

end Draft

/-! ## Statements -/

namespace Statement

open Draft (AllSingle)

def Single : Statement → Prop
  | .pair _ _ v => Everywhere Distinct v
  | _ => True

/-- **A statement** keeps each key once. -/
theorem single_run {s s' : State} {x : Statement} (h : AllSingle s.root) (hx : x.Single) (hr : run s x = some s') :
    AllSingle s'.root := by
  cases x with
  | pair path key v =>
    obtain ⟨root, hroot, rfl⟩ := Option.map_eq_some_iff.mp hr
    exact h.descend (fun h => h.addPair hx) hroot
  | header path key =>
    obtain ⟨root, hroot, rfl⟩ := Option.map_eq_some_iff.mp hr
    exact h.descend (fun h => h.openTable) hroot
  | item path key =>
    obtain ⟨root, hroot, rfl⟩ := Option.map_eq_some_iff.mp hr
    exact h.descend (fun h => h.openItem) hroot

theorem single_runAll {s s' : State} {xs : List Statement} (h : AllSingle s.root) (hxs : ∀ x ∈ xs, x.Single)
    (hr : runAll s xs = some s') : AllSingle s'.root := by
  induction xs generalizing s with
  | nil =>
    cases hr
    exact h
  | cons x xs ih =>
    obtain ⟨hhead, htail⟩ := List.forall_mem_cons.mp hxs
    obtain ⟨s₁, hrun, hrest⟩ := Option.bind_eq_some_iff.mp hr
    exact ih (single_run h hhead hrun) htail hrest

theorem distinct_table? {xs : List Statement} (hxs : ∀ x ∈ xs, x.Single) (h : table? xs = some t) :
    Everywhere Distinct t := by
  obtain ⟨s, hs, rfl⟩ := Option.map_eq_some_iff.mp h
  exact (single_runAll .nil hxs hs).done

theorem single_foldlM {pairs : List (List String × String × Toml)} {es es' : Draft.Drafts} (h : AllSingle es)
    (hpairs : ∀ p ∈ pairs, Everywhere Distinct p.2.2)
    (hf : pairs.foldlM (fun es p => Draft.addPair p.1 p.2.1 p.2.2 .header es) es = some es') : AllSingle es' := by
  induction pairs generalizing es with
  | nil =>
    cases hf
    exact h
  | cons p pairs ih =>
    obtain ⟨hhead, htail⟩ := List.forall_mem_cons.mp hpairs
    rw [List.foldlM_cons] at hf
    obtain ⟨es₁, hadd, hrest⟩ := Option.bind_eq_some_iff.mp hf
    exact ih (h.addPair hhead hadd) htail hrest

theorem distinct_inlineTable? {pairs : List (List String × String × Toml)}
    (hpairs : ∀ p ∈ pairs, Everywhere Distinct p.2.2) (h : inlineTable? pairs = some t) : Everywhere Distinct t := by
  obtain ⟨es, hes, rfl⟩ := Option.map_eq_some_iff.mp h
  exact (single_foldlM .nil hpairs hes).done

end Statement

/-! ## Values -/

theorem distinct_scalar? {cs rest : List Char} (h : scalar? cs = some (v, rest)) : Everywhere Distinct v := by
  unfold scalar? at h
  split at h
  · cases h
  · split at h
    · obtain ⟨r, -, hr⟩ := Option.map_eq_some_iff.mp h
      cases hr
      exact .string _
    · split at h
      · obtain ⟨r, -, hr⟩ := Option.map_eq_some_iff.mp h
        cases hr
        exact .boolean _
      · split at h
        · obtain ⟨r, -, hr⟩ := Option.map_eq_some_iff.mp h
          cases hr
          exact .boolean _
        · split at h <;> cases h
          · exact .datetime _
          · exact .real _
          · exact .integer _

/-- What is read with some fuel has each key once: a value, the items of an array, and the pairs of an inline table. -/
structure ReadsOnce (fuel : Nat) : Prop where
  value : ∀ {depth cs v rest}, value? fuel depth cs = some (v, rest) → Everywhere Distinct v
  items : ∀ {depth cs vs rest}, items? fuel depth cs = some (vs, rest) → ∀ v ∈ vs, Everywhere Distinct v
  pairs : ∀ {depth cs ps rest}, pairs? fuel depth cs = some (ps, rest) → ∀ p ∈ ps, Everywhere Distinct p.2.2

namespace ReadsOnce

variable {fuel depth : Nat} {cs rest : List Char}

theorem value_succ (h : ReadsOnce fuel) (hv : value? (fuel + 1) depth cs = some (v, rest)) : Everywhere Distinct v := by
  rw [value?.eq_def] at hv
  dsimp only at hv
  split at hv
  · split at hv
    · cases hv
    · obtain ⟨r, hr, he⟩ := Option.map_eq_some_iff.mp hv
      cases he
      exact .array (h.items hr)
  · split at hv
    · cases hv
    · split at hv
      · cases hv
        exact .table List.nodup_nil (by simp)
      · obtain ⟨⟨ps, cs₁⟩, hr, htable⟩ := Option.bind_eq_some_iff.mp hv
        obtain ⟨t, ht, he⟩ := Option.map_eq_some_iff.mp htable
        cases he
        exact Statement.distinct_inlineTable? (h.pairs hr) ht
  · exact distinct_scalar? hv

theorem items_succ (h : ReadsOnce fuel) {vs : List Toml} (hvs : items? (fuel + 1) depth cs = some (vs, rest)) :
    ∀ v ∈ vs, Everywhere Distinct v := by
  rw [items?] at hvs
  obtain ⟨cs₁, -, hvs⟩ := Option.bind_eq_some_iff.mp hvs
  split at hvs
  · cases hvs
    simp
  · obtain ⟨⟨v, cs₂⟩, hv, hvs⟩ := Option.bind_eq_some_iff.mp hvs
    obtain ⟨cs₃, -, hvs⟩ := Option.bind_eq_some_iff.mp hvs
    split at hvs
    · obtain ⟨⟨us, cs₄⟩, hus, hvs⟩ := Option.bind_eq_some_iff.mp hvs
      cases hvs
      exact List.forall_mem_cons.mpr ⟨h.value hv, h.items hus⟩
    · cases hvs
      simpa using h.value hv
    · cases hvs

theorem pairs_succ (h : ReadsOnce fuel) {ps : List (List String × String × Toml)}
    (hps : pairs? (fuel + 1) depth cs = some (ps, rest)) : ∀ p ∈ ps, Everywhere Distinct p.2.2 := by
  rw [pairs?] at hps
  obtain ⟨⟨⟨path, key⟩, cs₁⟩, -, hps⟩ := Option.bind_eq_some_iff.mp hps
  obtain ⟨cs₂, -, hps⟩ := Option.bind_eq_some_iff.mp hps
  obtain ⟨⟨v, cs₃⟩, hv, hps⟩ := Option.bind_eq_some_iff.mp hps
  dsimp only at hps
  split at hps
  · obtain ⟨⟨qs, cs₄⟩, hqs, hps⟩ := Option.bind_eq_some_iff.mp hps
    cases hps
    exact List.forall_mem_cons.mpr ⟨h.value hv, h.pairs hqs⟩
  · cases hps
    simpa using h.value hv
  · cases hps

end ReadsOnce

theorem readsOnce (fuel : Nat) : ReadsOnce fuel := by
  induction fuel with
  | zero => constructor <;> intro _ _ _ _ h <;> cases h
  | succ fuel ih => exact ⟨ih.value_succ, ih.items_succ, ih.pairs_succ⟩

/-! ## Texts -/

theorem single_pair? {cs rest : List Char} {x : Statement} (h : pair? cs = some (x, rest)) : x.Single := by
  unfold pair? at h
  obtain ⟨⟨⟨path, key⟩, cs₁⟩, -, h⟩ := Option.bind_eq_some_iff.mp h
  obtain ⟨cs₂, -, h⟩ := Option.bind_eq_some_iff.mp h
  obtain ⟨⟨v, cs₃⟩, hv, h⟩ := Option.bind_eq_some_iff.mp h
  obtain ⟨cs₄, -, h⟩ := Option.bind_eq_some_iff.mp h
  cases h
  exact (readsOnce _).value hv

theorem single_header? {cs rest : List Char} {x : Statement} (h : header? cs = some (x, rest)) : x.Single := by
  unfold header? at h
  split at h
  · obtain ⟨⟨⟨path, key⟩, cs₁⟩, -, h⟩ := Option.bind_eq_some_iff.mp h
    obtain ⟨cs₂, -, h⟩ := Option.bind_eq_some_iff.mp h
    obtain ⟨cs₃, -, h⟩ := Option.bind_eq_some_iff.mp h
    cases h
    trivial
  · obtain ⟨cs₁, -, h⟩ := Option.bind_eq_some_iff.mp h
    obtain ⟨⟨⟨path, key⟩, cs₂⟩, -, h⟩ := Option.bind_eq_some_iff.mp h
    obtain ⟨cs₃, -, h⟩ := Option.bind_eq_some_iff.mp h
    obtain ⟨cs₄, -, h⟩ := Option.bind_eq_some_iff.mp h
    cases h
    trivial

theorem single_statements? {fuel : Nat} {cs : List Char} {xs : List Statement} (h : statements? fuel cs = some xs) :
    ∀ x ∈ xs, x.Single := by
  induction fuel generalizing cs xs with
  | zero => cases h
  | succ fuel ih =>
    rw [statements?] at h
    split at h
    · cases h
      simp
    · split at h
      · obtain ⟨cs₁, -, h⟩ := Option.bind_eq_some_iff.mp h
        exact ih h
      · dsimp only at h
        split at h
        · obtain ⟨⟨x, cs₁⟩, hx, h⟩ := Option.bind_eq_some_iff.mp h
          obtain ⟨ys, hys, h⟩ := Option.bind_eq_some_iff.mp h
          cases h
          exact List.forall_mem_cons.mpr ⟨single_header? hx, ih hys⟩
        · obtain ⟨⟨x, cs₁⟩, hx, h⟩ := Option.bind_eq_some_iff.mp h
          obtain ⟨ys, hys, h⟩ := Option.bind_eq_some_iff.mp h
          cases h
          exact List.forall_mem_cons.mpr ⟨single_pair? hx, ih hys⟩

/-- **A text** is read as a tree in which no table has a key twice. -/
theorem distinct_read? {s : String} (h : read? s = some t) : Everywhere Distinct t := by
  obtain ⟨xs, hxs, ht⟩ := Option.bind_eq_some_iff.mp h
  exact Statement.distinct_table? (single_statements? hxs) ht

end Toml
end CalcConsole
