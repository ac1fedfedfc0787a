import CalcConsole.Proofs.Toml.Order
/-! # Trees upon trees

Where one tree is laid upon another, each path is looked up in both (`at?_merge`), unless a value of the upper tree that
is no table stands on the way and hides what lies below (`Blocks`).  So an empty table changes nothing, above or below,
and a tree that is laid on twice stays as it was after the first time. -/
namespace CalcConsole
namespace Toml

open merge (mergeEntries)

variable {base upper t v : Toml} {es bs us : Entries} {k : String} {path : List String}

/-- What stands in one place of two trees that are laid upon each other. -/
def mergeValue : (base upper : Option Toml) → Option Toml
  | some b, some u => some (b.merge u)
  | base, none => base
  | none, upper => upper

theorem mergeValue_none_left (upper : Option Toml) : mergeValue none upper = upper := by cases upper <;> rfl

theorem mergeValue_none_right (base : Option Toml) : mergeValue base none = base := by cases base <;> rfl

theorem merge_of_not_tables {base upper : Toml} (h : (base.isTable && upper.isTable) = false) :
    base.merge upper = upper := by
  cases base with
  | table es =>
    cases upper with
    | table fs => cases h
    | _ => simp [merge]
  | _ => simp [merge]

theorem mergeValue_of_not_table (h : v.isTable = false) (base : Option Toml) : mergeValue base (some v) = some v := by
  cases base with
  | none => rfl
  | some b =>
    have hmerge : b.merge v = v := merge_of_not_tables (by rw [h, Bool.and_false])
    rw [mergeValue, hmerge]

theorem isTable_merge (base upper : Toml) : (base.merge upper).isTable = upper.isTable := by
  by_cases h : (base.isTable && upper.isTable) = true
  · obtain ⟨hb, hu⟩ := Bool.and_eq_true_iff.mp h
    obtain ⟨bs, rfl⟩ := isTable_iff.mp hb
    obtain ⟨us, rfl⟩ := isTable_iff.mp hu
    rw [merge]
    rfl
  · rw [merge_of_not_tables (by simpa using h)]

theorem mergeEntries_cons (e : String × Toml) (base upper : Entries) :
    ∃ v, mergeValue (get? base e.1) (some e.2) = some v ∧
      mergeEntries base (e :: upper) = mergeEntries (put e.1 v base) upper := by
  rw [mergeEntries]
  cases get? base e.1 with
  | none => exact ⟨_, rfl, rfl⟩
  | some old => exact ⟨_, rfl, rfl⟩

/-- **Every key** of tables laid upon each other is looked up in both. -/
theorem get?_mergeEntries {upper : Entries} (h : Ascending upper) (base : Entries) (k : String) :
    get? (mergeEntries base upper) k = mergeValue (get? base k) (get? upper k) := by
  induction upper generalizing base with
  | nil => cases hk : get? base k <;> exact hk
  | cons e upper ih =>
    obtain ⟨v, hv, hmerge⟩ := mergeEntries_cons e base upper
    rw [hmerge, ih h.tail, get?_cons]
    by_cases hk : e.1 = k
    · subst hk
      rw [if_pos rfl, h.distinct.get?_head, get?_put_self, hv]
      rfl
    · rw [if_neg hk, get?_put_of_ne v (Ne.symm hk)]

/-! ## Paths into both -/

theorem at?_cons_merge (hu : Ascending us) (k : String) (path : List String) :
    at? (k :: path) ((Toml.table bs).merge (.table us)) = (mergeValue (get? bs k) (get? us k)).bind (at? path) := by
  rw [merge, at?_cons, get?_mergeEntries hu]

/-- A value that is no table stands on the way, before the end of the path. -/
def Blocks (t : Toml) (path : List String) : Prop :=
  ∃ q v, q <+: path ∧ q ≠ path ∧ at? q t = some v ∧ v.isTable = false

theorem Blocks.at? (h : Blocks t path) : at? path t = none := by
  obtain ⟨q, v, ⟨r, rfl⟩, hne, hv, htable⟩ := h
  rw [at?_append, hv, Option.bind_some]
  cases r with
  | nil => exact absurd (List.append_nil q).symm hne
  | cons k r => exact at?_cons_of_not_table htable r

theorem isTable_of_not_blocks (h : ¬ Blocks t (k :: path)) : t.isTable = true := by
  by_contra htable
  exact h ⟨[], t, List.nil_prefix, by simp, rfl, by simpa using htable⟩

theorem blocks_cons_iff : Blocks (.table es) (k :: path) ↔ ∃ v, get? es k = some v ∧ Blocks v path := by
  constructor
  · rintro ⟨q, w, hq, hne, hw, htable⟩
    rcases List.prefix_cons_iff.mp hq with rfl | ⟨r, rfl, hr⟩
    · cases hw
      cases htable
    · obtain ⟨v, hv, hw⟩ := Option.bind_eq_some_iff.mp hw
      exact ⟨v, hv, r, w, hr, by simpa using hne, hw, htable⟩
  · rintro ⟨v, hv, q, w, hq, hne, hw, htable⟩
    refine ⟨k :: q, w, List.cons_prefix_cons.mpr ⟨rfl, hq⟩, by simpa using hne, ?_, htable⟩
    rw [at?_cons, hv]
    exact hw

/-- **Every path** that the upper tree does not block is looked up in both. -/
theorem at?_merge (hu : Ordered upper) (h : ¬ Blocks upper path) :
    at? path (base.merge upper) = mergeValue (at? path base) (at? path upper) := by
  induction path generalizing base upper with
  | nil => rfl
  | cons k path ih =>
    obtain ⟨us, rfl⟩ := isTable_iff.mp (isTable_of_not_blocks h)
    cases hb : base.isTable with
    | false =>
      rw [merge_of_not_tables (by rw [hb]; rfl), at?_cons_of_not_table hb, mergeValue_none_left]
    | true =>
      obtain ⟨bs, rfl⟩ := isTable_iff.mp hb
      rw [at?_cons_merge hu.here, at?_cons, at?_cons]
      cases hbk : get? bs k with
      | none => rw [mergeValue_none_left, Option.bind_none, mergeValue_none_left]
      | some b =>
        cases huk : get? us k with
        | none => rw [mergeValue_none_right, Option.bind_none, mergeValue_none_right]
        | some u => exact ih (hu.get? huk) fun hblocks => h (blocks_cons_iff.mpr ⟨u, huk, hblocks⟩)

theorem Blocks.merge (hu : Ordered upper) (h : Blocks upper path) : Blocks (base.merge upper) path := by
  obtain ⟨q, v, hq, hne, hv, htable⟩ := h
  have hopen : ¬ Blocks upper q := fun hblocks => by
    rw [hblocks.at?] at hv
    cases hv
  refine ⟨q, v, hq, hne, ?_, htable⟩
  rw [at?_merge hu hopen, hv, mergeValue_of_not_table htable]

/-- A value at the end of a path stands as the upper tree has it, or else as the lower one has it, when all on the way
are tables and not both have a table at the end. -/
theorem at?_merge_of_tables (hu : Ordered upper)
    (hway : ∀ q : List String, q <+: path → q ≠ path → ∀ v, at? q (base.merge upper) = some v → v.isTable)
    (hend : ∀ b u, at? path base = some b → at? path upper = some u → (b.isTable && u.isTable) = false) :
    at? path (base.merge upper) = (at? path upper).or (at? path base) := by
  have hopen : ¬ Blocks upper path := fun h => by
    have hblocks : Blocks (base.merge upper) path := h.merge hu
    obtain ⟨q, v, hq, hne, hv, htable⟩ := hblocks
    rw [hway q hq hne v hv] at htable
    cases htable
  rw [at?_merge hu hopen]
  cases hpb : at? path base with
  | none => rw [mergeValue_none_left, Option.or_none]
  | some b =>
    cases hpu : at? path upper with
    | none => rfl
    | some u => rw [mergeValue, merge_of_not_tables (hend b u hpb hpu)]; rfl

/-! ## Trees in order -/

/-- Trees in order as merging takes them: tables entry by entry, and anything else as a whole. -/
@[elab_as_elim]
theorem Ordered.byTables {motive : (t : Toml) → Ordered t → Prop}
    (other : ∀ t (h : Ordered t), t.isTable = false → motive t h)
    (table : ∀ es (h : Ordered (.table es)), (∀ e (he : e ∈ es), motive e.2 (h.parts e he)) → motive (.table es) h)
    {t : Toml} (h : Ordered t) : motive t h := by
  induction h with
  | table here parts ih => exact table _ (.table here parts) ih
  | _ => exact other _ _ rfl

theorem Ascending.mergeEntries (h : Ascending bs) (us : Entries) : Ascending (mergeEntries bs us) := by
  induction us generalizing bs with
  | nil => exact h
  | cons e us ih =>
    obtain ⟨v, -, hmerge⟩ := mergeEntries_cons e bs us
    rw [hmerge]
    exact ih (h.put e.1 v)

/-- **Trees in order**, laid upon each other, are in order again. -/
theorem Ordered.merge (hb : Ordered base) (hu : Ordered upper) : Ordered (base.merge upper) := by
  induction hu using Ordered.byTables generalizing base with
  | other upper hu htable =>
    rw [merge_of_not_tables (by rw [htable, Bool.and_false])]
    exact hu
  | table us hu ih =>
    cases hbase : base.isTable with
    | false =>
      rw [merge_of_not_tables (by rw [hbase]; rfl)]
      exact hu
    | true =>
      obtain ⟨bs, rfl⟩ := isTable_iff.mp hbase
      have hentries : Ascending (Toml.merge.mergeEntries bs us) := hb.here.mergeEntries us
      rw [Toml.merge]
      refine .table hentries fun ⟨k, v⟩ he => ?_
      have hvalue := hentries.distinct.get?_eq_some_iff.mpr he
      rw [get?_mergeEntries hu.here] at hvalue
      cases huk : get? us k with
      | none =>
        rw [huk, mergeValue_none_right] at hvalue
        exact hb.get? hvalue
      | some u =>
        rw [huk] at hvalue
        cases hbk : get? bs k with
        | none =>
          rw [hbk, mergeValue_none_left] at hvalue
          cases hvalue
          exact hu.get? huk
        | some b =>
          rw [hbk] at hvalue
          cases hvalue
          exact ih _ (mem_of_get? huk) (hb.get? hbk)

theorem ordered_nil : Ordered (.table []) := .table .nil (by simp)

theorem merge_empty {t : Toml} (h : Ordered t) : (Toml.table []).merge t = t := by
  cases t with
  | table es =>
    have hes : mergeEntries [] es = es := Ascending.ext (Ascending.nil.mergeEntries es) h.here fun k => by
      rw [get?_mergeEntries h.here, get?_nil, mergeValue_none_left]
    rw [merge, hes]
  | _ => simp [merge]

theorem merge_nothing (es : Entries) : (Toml.table es).merge (.table []) = .table es := by rw [merge, mergeEntries]

/-- **A tree that is laid on twice** stays as it was after the first time. -/
theorem merge_twice (hb : Ordered base) (hu : Ordered upper) : (base.merge upper).merge upper = base.merge upper := by
  induction hu using Ordered.byTables generalizing base with
  | other upper hu htable =>
    rw [merge_of_not_tables (by rw [htable, Bool.and_false]), merge_of_not_tables (by rw [htable, Bool.and_false])]
  | table us hu ih =>
    have htables : ∀ bs, Ordered (.table bs) →
        ((Toml.table bs).merge (.table us)).merge (.table us) = (Toml.table bs).merge (.table us) := by
      intro bs hb
      have hentries : mergeEntries (mergeEntries bs us) us = mergeEntries bs us := by
        refine Ascending.ext ((hb.here.mergeEntries us).mergeEntries us) (hb.here.mergeEntries us) fun k => ?_
        rw [get?_mergeEntries hu.here, get?_mergeEntries hu.here]
        cases huk : get? us k with
        | none => rw [mergeValue_none_right, mergeValue_none_right]
        | some u =>
          have hagain : ∀ {b}, Ordered b → (b.merge u).merge u = b.merge u := ih (k, u) (mem_of_get? huk)
          cases hbk : get? bs k with
          | none =>
            -- What is new was laid upon nothing the first time.
            have hself := hagain ordered_nil
            rw [merge_empty (hu.get? huk)] at hself
            exact congrArg some hself
          | some b => exact congrArg some (hagain (hb.get? hbk))
      rw [merge, merge, hentries]
    cases hbase : base.isTable with
    | false =>
      have hmerge : base.merge (.table us) = .table us := merge_of_not_tables (by rw [hbase]; rfl)
      have hself := htables [] ordered_nil
      rw [merge_empty hu] at hself
      rw [hmerge, hself]
    | true =>
      obtain ⟨bs, rfl⟩ := isTable_iff.mp hbase
      exact htables bs hb

/-- **Merging, path by path.**  A value of the upper tree that is no table stands at its path in the result and hides
all that lies below it; a table of the upper tree is merged with a table that stands there in the lower one, and else
stands as it is; and wherever the upper tree has nothing, and nothing that hides, the lower tree shows through.  So an
empty table changes nothing, above or below, and a table that is laid on twice counts once. -/
theorem merge_at_every_path (hb : Ordered (.table bs)) (hu : Ordered (.table us)) :
    let base := Toml.table bs
    let upper := Toml.table us
    let merged := base.merge upper
    Ordered merged ∧
    (∀ path : List String,
      (∀ v, at? path upper = some v → v.isTable = false → at? path merged = some v) ∧
      (∀ u, at? path upper = some u → u.isTable = true →
        (∀ b, at? path base = some b → b.isTable = true → at? path merged = some (b.merge u)) ∧
        ((∀ b, at? path base = some b → b.isTable = false) → at? path merged = some u)) ∧
      (Blocks upper path → at? path upper = none ∧ at? path merged = none) ∧
      (at? path upper = none → ¬ Blocks upper path → at? path merged = at? path base)) ∧
    (Toml.table []).merge upper = upper ∧ base.merge (.table []) = base ∧ merged.merge upper = merged := by
  intro base upper merged
  refine ⟨hb.merge hu, fun path => ?_, merge_empty hu, merge_nothing bs, merge_twice hb hu⟩
  have hopen : ∀ {u}, at? path upper = some u → at? path merged = mergeValue (at? path base) (some u) := by
    intro u h
    have hnot : ¬ Blocks upper path := fun hblocks => by
      rw [hblocks.at?] at h
      cases h
    rw [at?_merge hu hnot, h]
  refine ⟨fun v hv htable => ?_, fun u h htable => ⟨fun b hb _ => ?_, fun hno => ?_⟩, fun h => ⟨h.at?, (h.merge hu).at?⟩,
    fun hnone hnot => ?_⟩
  · rw [hopen hv, mergeValue_of_not_table htable]
  · rw [hopen h, hb]
    rfl
  · rw [hopen h]
    cases hpb : at? path base with
    | none => rfl
    | some b => rw [mergeValue, merge_of_not_tables (by rw [hno b hpb]; rfl)]
  · rw [at?_merge hu hnot, hnone, mergeValue_none_right]

/-! ### A section hidden and a section merged -/

def lowerLayer : Entries :=
  [("api", .table [("base_url", .string "http://home"), ("timeout_ms", .integer 5)]),
    ("logging", .integer 1), ("session", .table [("name", .string "work")])]

def upperLayer : Entries :=
  [("api", .table [("timeout_ms", .integer 7)]), ("logging", .table []), ("session", .array [])]

theorem merge_at_every_path_two_layers :
    let merged := (Toml.table lowerLayer).merge (.table upperLayer)
    Ordered (.table lowerLayer) ∧ Ordered (.table upperLayer) ∧
    at? ["api", "timeout_ms"] merged = some (.integer 7) ∧
    at? ["api", "base_url"] merged = some (.string "http://home") ∧
    at? ["logging"] merged = some (.table []) ∧
    at? ["session", "name"] merged = none ∧
    merged.merge (.table upperLayer) = merged := by
  intro merged
  have hlower : readSettled? "logging = 1\n[api]\nbase_url = \"http://home\"\ntimeout_ms = 5\n[session]\nname = \"work\"\n" =
      some (.table lowerLayer) := eq_some_of_same (by decide +kernel)
  have hupper : readSettled? "session = []\n[api]\ntimeout_ms = 7\n[logging]\n" = some (.table upperLayer) :=
    eq_some_of_same (by decide +kernel)
  have hb := ordered_readSettled? hlower
  have hu := ordered_readSettled? hupper
  obtain ⟨-, hpath, -, -, htwice⟩ := merge_at_every_path hb hu
  have hshown : ¬ Blocks (.table upperLayer) ["api", "base_url"] := by
    rw [blocks_cons_iff]
    rintro ⟨sub, hsub, h⟩
    cases hsub
    obtain ⟨v, hv, -⟩ := blocks_cons_iff.mp h
    cases hv
  have hhidden : Blocks (.table upperLayer) ["session", "name"] :=
    ⟨["session"], .array [], by decide, by decide, rfl, rfl⟩
  refine ⟨hb, hu, (hpath _).1 _ rfl rfl, (hpath _).2.2.2 rfl hshown, ((hpath _).2.1 _ rfl rfl).2 fun b h => ?_,
    ((hpath _).2.2.1 hhidden).2, htwice⟩
  cases h
  rfl

end Toml
end CalcConsole
