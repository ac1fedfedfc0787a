import CalcConsole.Proofs.Toml.Lines
import CalcConsole.Proofs.Toml.Order
/-! # Trees read back

A table of texts, integers, and tables of these is written with the tables behind all else, and is read back in that
order.  Settled, it is the same tree again if its keys were in order, unless the key of a date comes first somewhere. -/
namespace CalcConsole
namespace Toml

variable {es fs : Entries} {k : String} {v : Toml}

/-! ## Drafts -/

namespace Draft

theorem find?_eq_none {root : Drafts} (h : k ∉ keys root) : find? root k = none := by
  unfold find?
  rw [List.find?_eq_none.mpr fun e he hk => h (by
    have hkey : e.1 = k := by simpa using hk
    exact hkey ▸ mem_keys he)]
  rfl

theorem find?_append {root : Drafts} (h : k ∉ keys root) (x : Draft) : find? (root ++ [(k, x)]) k = some x := by
  have hnone := Option.map_eq_none_iff.mp (find?_eq_none h)
  unfold find?
  rw [List.find?_append, hnone]
  simp

theorem put_append {root : Drafts} (h : k ∉ keys root) (x y : Draft) :
    put k y (root ++ [(k, x)]) = root ++ [(k, y)] := by
  induction root with
  | nil => simp [put]
  | cons e root ih =>
    obtain ⟨hne, hroot⟩ : k ≠ e.1 ∧ k ∉ keys root := by simpa [keys] using h
    rw [List.cons_append, put, if_neg hne.symm, ih hroot]
    rfl

/-- The drafts of entries that were read as they stand. -/
def ofEntries (es : Entries) : Drafts := es.map fun e => (e.1, .value e.2)

theorem doneEntries_append (ds ds' : Drafts) : doneEntries (ds ++ ds') = doneEntries ds ++ doneEntries ds' := by
  induction ds with
  | nil => rfl
  | cons d ds ih => rw [List.cons_append, doneEntries, ih, doneEntries, List.cons_append]

theorem doneEntries_ofEntries (es : Entries) : doneEntries (ofEntries es) = es := by
  induction es with
  | nil => rfl
  | cons e es ih =>
    have hhead : ofEntries (e :: es) = (e.1, .value e.2) :: ofEntries es := rfl
    rw [hhead, doneEntries, ih, done]

theorem keys_ofEntries (es : Entries) : keys (ofEntries es) = keys es := by
  simp [keys, ofEntries, Function.comp_def]

end Draft

namespace Statement

open Draft (ofEntries)

theorem runAll_append (s : State) (xs ys : List Statement) :
    runAll s (xs ++ ys) = (runAll s xs).bind fun s => runAll s ys := by
  induction xs generalizing s with
  | nil => rfl
  | cons x xs ih =>
    rw [List.cons_append, runAll, runAll, Option.bind_assoc]
    exact congrArg _ (funext fun s => ih s)

def pairs (es : Entries) : List Statement := es.map fun e => .pair [] e.1 e.2

theorem addPair_new {ds : Draft.Drafts} (h : k ∉ keys ds) (v : Toml) :
    Draft.addPair [] k v .header ds = some (ds ++ [(k, .value v)]) := by
  simp [Draft.addPair, Draft.descend, Draft.find?_eq_none h]

/-- Entries with new keys go behind what stands in their place; `place` makes the whole draft of what stands there. -/
theorem runAll_pairs (place : Draft.Drafts → Draft.Drafts) {under : List String}
    (hplace : ∀ ds (e : String × Toml), Draft.descend false (Draft.addPair [] e.1 e.2) under .header (place ds) =
      (Draft.addPair [] e.1 e.2 .header ds).map place)
    {ds : Draft.Drafts} (h : (keys ds ++ keys es).Nodup) :
    runAll ⟨place ds, under⟩ (pairs es) = some ⟨place (ds ++ ofEntries es), under⟩ := by
  induction es generalizing ds with
  | nil => simp [pairs, runAll, ofEntries]
  | cons e es ih =>
    obtain ⟨hfresh, hrest⟩ := fresh_of_nodup h (Draft.value e.2)
    have hrun : run ⟨place ds, under⟩ (.pair [] e.1 e.2) = some ⟨place (ds ++ [(e.1, .value e.2)]), under⟩ := by
      rw [run, hplace, addPair_new hfresh]
      rfl
    have hread := ih hrest
    rw [List.append_assoc] at hread
    show runAll _ (.pair [] e.1 e.2 :: pairs es) = _
    rw [runAll, hrun, Option.bind_some, hread]
    rfl

theorem runAll_section {root : Draft.Drafts} (hk : k ∉ keys root) (hes : Distinct es) (under : List String) :
    runAll ⟨root, under⟩ (.header [] k :: pairs es) = some ⟨root ++ [(k, .table .header (ofEntries es))], [k]⟩ := by
  have hrun : run ⟨root, under⟩ (.header [] k) = some ⟨root ++ [(k, .table .header [])], [k]⟩ := by
    rw [run]
    simp [Draft.descend, Draft.openTable, Draft.find?_eq_none hk]
  have hplace (ds : Draft.Drafts) (e : String × Toml) :
      Draft.descend false (Draft.addPair [] e.1 e.2) [k] .header (root ++ [(k, .table .header ds)]) =
        (Draft.addPair [] e.1 e.2 .header ds).map fun ds => root ++ [(k, .table .header ds)] := by
    simp [Draft.descend, Draft.find?_append hk, Draft.put_append hk]
  have hread : runAll ⟨root ++ [(k, .table .header [])], [k]⟩ (pairs es) =
      some ⟨root ++ [(k, .table .header ([] ++ ofEntries es))], [k]⟩ := runAll_pairs _ hplace hes
  rw [runAll, hrun, Option.bind_some, hread, List.nil_append]

end Statement

/-! ## Tables of texts and integers -/

structure Flat (es : Entries) : Prop where
  distinct : Distinct es
  leaves : ∀ e ∈ es, Leaf e.2

/-- A table of texts, integers, and tables of these. -/
structure Shallow (es : Entries) : Prop where
  distinct : Distinct es
  values : ∀ e ∈ es, Leaf e.2 ∨ ∃ sub, e.2 = .table sub ∧ Flat sub

def leaves (es : Entries) : Entries := es.filter fun e => !isTable e.2

def tables (es : Entries) : Entries := es.filter fun e => isTable e.2

@[simp] theorem leaves_append (es fs : Entries) : leaves (es ++ fs) = leaves es ++ leaves fs := List.filter_append ..

@[simp] theorem tables_append (es fs : Entries) : tables (es ++ fs) = tables es ++ tables fs := List.filter_append ..

theorem leaves_cons (e : String × Toml) (es : Entries) :
    leaves (e :: es) = if isTable e.2 then leaves es else e :: leaves es := by
  cases h : isTable e.2 <;> simp [leaves, h]

theorem tables_cons (e : String × Toml) (es : Entries) :
    tables (e :: es) = if isTable e.2 then e :: tables es else tables es := by
  cases h : isTable e.2 <;> simp [tables, h]

/-- The entries in the order in which they are written. -/
def listed (es : Entries) : Entries := leaves es ++ tables es

def entries : Toml → Entries
  | .table es => es
  | _ => []

theorem listed_perm (es : Entries) : (listed es).Perm es :=
  List.perm_append_comm.trans (List.filter_append_perm _ es)

theorem Shallow.leaf (h : Shallow es) : ∀ e ∈ leaves es, Leaf e.2 := by
  intro e he
  obtain ⟨he, hkind⟩ := List.mem_filter.mp he
  refine (h.values e he).resolve_right fun ⟨sub, hsub, _⟩ => ?_
  rw [hsub] at hkind
  cases hkind

theorem Shallow.table (h : Shallow es) : ∀ e ∈ tables es, ∃ sub, e.2 = .table sub ∧ Flat sub := by
  intro e he
  obtain ⟨he, hkind⟩ := List.mem_filter.mp he
  refine (h.values e he).resolve_left fun hleaf => ?_
  rw [hleaf.not_table] at hkind
  cases hkind

namespace Statement

open Draft (ofEntries)

def sections (es : Entries) : List Statement := es.flatMap fun e => .header [] e.1 :: pairs e.2.entries

theorem runAll_sections (root : Draft.Drafts) (under : List String)
    (h : (keys root ++ keys es).Nodup) (hes : ∀ e ∈ es, ∃ sub, e.2 = .table sub ∧ Flat sub) :
    ∃ s, runAll ⟨root, under⟩ (sections es) = some s ∧ Draft.doneEntries s.root = Draft.doneEntries root ++ es := by
  induction es generalizing root under with
  | nil => exact ⟨⟨root, under⟩, rfl, (List.append_nil _).symm⟩
  | cons e es ih =>
    obtain ⟨⟨sub, hsub, hflat⟩, hes⟩ := List.forall_mem_cons.mp hes
    obtain ⟨hfresh, hrest⟩ := fresh_of_nodup h (Draft.table .header (ofEntries sub))
    obtain ⟨s, hrun, hdone⟩ := ih _ [e.1] hrest hes
    have hsections : sections (e :: es) = (.header [] e.1 :: pairs sub) ++ sections es := by
      rw [sections, List.flatMap_cons, hsub]
      rfl
    refine ⟨s, ?_, ?_⟩
    · rw [hsections, runAll_append, runAll_section hfresh hflat.distinct, Option.bind_some, hrun]
    · have hentry : Draft.doneEntries [(e.1, .table .header (ofEntries sub))] = [e] := by
        rw [Draft.doneEntries, Draft.done, Draft.doneEntries_ofEntries, Draft.doneEntries, ← hsub]
      rw [hdone, Draft.doneEntries_append, hentry, List.append_assoc, List.singleton_append]

/-- **The statements** of a table that is written. -/
theorem table?_listed (h : Shallow es) : table? (pairs (leaves es) ++ sections (tables es)) = some (.table (listed es)) := by
  have hdistinct := h.distinct.perm (listed_perm es)
  unfold Distinct listed at hdistinct
  rw [keys_append] at hdistinct
  have hleaves : runAll ⟨[], []⟩ (pairs (leaves es)) = some ⟨ofEntries (leaves es), []⟩ :=
    runAll_pairs id (fun ds e => Option.map_id'.symm) (List.nodup_append.mp hdistinct).1
  obtain ⟨s, hrun, hdone⟩ := runAll_sections (ofEntries (leaves es)) []
    (by rw [Draft.keys_ofEntries]; exact hdistinct) h.table
  unfold table?
  rw [runAll_append, hleaves, Option.bind_some, hrun, Option.map_some, hdone, Draft.doneEntries_ofEntries]
  rfl

end Statement

/-! ## Blocks -/

theorem Leaf.not_block {v : Toml} (h : Leaf v) : isBlockArray v = false := by cases h <;> rfl

theorem Leaf.valueBlocks {v : Toml} (h : Leaf v) (path : List String) : valueBlocks path v = [] := by
  cases h <;> simp [Toml.valueBlocks]

theorem ownLines_eq (h : ∀ e ∈ es, Leaf e.2 ∨ ∃ sub, e.2 = .table sub ∧ Flat sub) :
    ownLines es = (leaves es).flatMap entryLine := by
  have hfilter : (es.filter fun e => !isTable e.2 && !isBlockArray e.2) = leaves es := by
    refine List.filter_congr fun e he => ?_
    rcases h e he with hleaf | ⟨sub, hsub, -⟩
    · simp [hleaf.not_block]
    · simp [hsub, isTable]
  unfold ownLines
  rw [hfilter]

theorem Flat.leaves_eq (h : Flat es) : Toml.leaves es = es :=
  List.filter_eq_self.mpr fun e he => by simp [(h.leaves e he).not_table]

theorem Flat.ownLines (h : Flat es) : ownLines es = es.flatMap entryLine := by
  rw [ownLines_eq fun e he => .inl (h.leaves e he), h.leaves_eq]

theorem Flat.entryBlocks (h : Flat es) (path : List String) : entryBlocks path es = [] := by
  obtain ⟨-, hleaves⟩ := h
  induction es with
  | nil => rfl
  | cons e es ih =>
    obtain ⟨he, hes⟩ := List.forall_mem_cons.mp hleaves
    rw [Toml.entryBlocks, he.valueBlocks, ih hes, List.nil_append]

theorem Flat.showsHeader (h : Flat es) : showsHeader es = true := by
  unfold Toml.showsHeader
  rw [h.ownLines]
  cases es with
  | nil => rfl
  | cons e es => simp [entryLine]

def sectionBlock (e : String × Toml) : List Char := headerLine [e.1] ++ e.2.entries.flatMap entryLine

theorem entryBlocks_eq (h : ∀ e ∈ es, Leaf e.2 ∨ ∃ sub, e.2 = .table sub ∧ Flat sub) :
    entryBlocks [] es = (tables es).map sectionBlock := by
  induction es with
  | nil => rfl
  | cons e es ih =>
    obtain ⟨he, hes⟩ := List.forall_mem_cons.mp h
    rw [entryBlocks, ih hes]
    rcases he with hleaf | ⟨sub, hsub, hflat⟩
    · have htables : tables (e :: es) = tables es := by rw [tables_cons, hleaf.not_table]; rfl
      rw [hleaf.valueBlocks, htables, List.nil_append]
    · have hblocks : valueBlocks ([] ++ [e.1]) e.2 = [sectionBlock e] := by
        rw [hsub, valueBlocks, hflat.showsHeader, hflat.entryBlocks, hflat.ownLines, sectionBlock, hsub]
        rfl
      have htables : tables (e :: es) = e :: tables es := by rw [tables_cons, hsub]; rfl
      rw [hblocks, htables]
      rfl

def spoken (es : Entries) : List (List Char × List Statement) :=
  (if (leaves es).isEmpty then [] else [((leaves es).flatMap entryLine, Statement.pairs (leaves es))]) ++
    (tables es).map fun e => (sectionBlock e, .header [] e.1 :: Statement.pairs e.2.entries)

theorem Shallow.blocks (h : Shallow es) : blocks (.table es) = (spoken es).map (·.1) := by
  have hempty : ((leaves es).flatMap entryLine).isEmpty = (leaves es).isEmpty := by
    cases leaves es with
    | nil => rfl
    | cons e es => simp [entryLine]
  unfold Toml.blocks spoken
  dsimp only
  rw [ownLines_eq h.values, entryBlocks_eq h.values, hempty]
  cases (leaves es).isEmpty <;> simp

theorem flatMap_spoken (es : Entries) :
    (spoken es).flatMap (·.2) = Statement.pairs (leaves es) ++ Statement.sections (tables es) := by
  have htables : ((tables es).map fun e => (sectionBlock e, Statement.header [] e.1 :: Statement.pairs e.2.entries)).flatMap
      (·.2) = Statement.sections (tables es) := by
    rw [List.flatMap_map]
    rfl
  unfold spoken
  rw [List.flatMap_append, htables]
  cases leaves es <;> simp [Statement.pairs]

theorem Shallow.speaks (h : Shallow es) : ∀ b ∈ spoken es, Speaks b.1 b.2 := by
  intro b hb
  rcases List.mem_append.mp hb with hb | hb
  · split at hb
    · cases hb
    · rw [List.mem_singleton.mp hb]
      exact Speaks.entries h.leaf
  · obtain ⟨e, he, rfl⟩ := List.mem_map.mp hb
    obtain ⟨sub, hsub, hflat⟩ := h.table e he
    unfold sectionBlock
    rw [hsub]
    exact (Speaks.header e.1).append (Speaks.entries hflat.leaves)

theorem dropMark_block {b : List Char × List Statement} (hb : b ∈ spoken es) (rest : List Char) :
    dropMark (b.1 ++ rest) = b.1 ++ rest := by
  have hhead : ∃ c t, b.1 = c :: t ∧ c ≠ '\ufeff' := by
    rcases List.mem_append.mp hb with hb | hb
    · split at hb
      · cases hb
      next hleaves =>
        rw [List.mem_singleton.mp hb]
        cases he : leaves es with
        | nil => rw [he] at hleaves; exact absurd rfl hleaves
        | cons e es =>
          obtain ⟨c, t, hline, -, -, -, -, -, hmark⟩ := entryLine_start e
          exact ⟨c, t ++ es.flatMap entryLine, by rw [List.flatMap_cons, hline]; rfl, hmark⟩
    · obtain ⟨e, -, rfl⟩ := List.mem_map.mp hb
      exact ⟨'[', _, rfl, by decide⟩
  obtain ⟨c, t, he, hc⟩ := hhead
  rw [he, List.cons_append]
  unfold dropMark
  split
  next heq => exact absurd (List.cons.inj heq).1 hc
  · rfl

/-! ## The round trip -/

/-- **A written table** is read back with its entries in the order in which they were written. -/
theorem read?_print (h : Shallow es) : read? (Toml.table es).print = some (.table (listed es)) := by
  have hread : statements? ((printChars (.table es)).length + 1) (printChars (.table es)) =
      some (Statement.pairs (leaves es) ++ Statement.sections (tables es)) := by
    have hsays := (Speaks.intercalate _ _ (spoken es) h.speaks).alone
    rw [flatMap_spoken, ← h.blocks] at hsays
    exact hsays _ (Nat.lt_succ_self _)
  have hmark : dropMark (printChars (.table es)) = printChars (.table es) := by
    unfold printChars
    rw [h.blocks]
    have hall : ∀ b ∈ spoken es, ∀ rest, dropMark (b.1 ++ rest) = b.1 ++ rest := fun b hb => dropMark_block hb
    match spoken es, hall with
    | [], _ => rfl
    | [b], hall => simpa using hall b (by simp) []
    | b :: b' :: bs, hall =>
      have hhead := hall b (by simp) (['\n'] ++ ['\n'].intercalate ((b' :: bs).map (·.1)))
      simpa [List.intercalate_cons_of_ne_nil] using hhead
  unfold read? readChars? print
  rw [String.toList_ofList, hmark, hread, Option.bind_some]
  exact Statement.table?_listed h

/-- The first key is not the one of a date. -/
def Unmarked (es : Entries) : Prop := (keys es).head? ≠ some dateKey

theorem Leaf.settle? {v : Toml} (h : Leaf v) : settle? v = some v := by cases h <;> rfl

theorem settle?_table (h : Unmarked fs) : settle? (.table fs) = (settleEntries? fs).map .table := by
  cases fs with
  | nil => rfl
  | cons e fs =>
    have hkey : e.1 ≠ dateKey := fun he => h (congrArg some he)
    rw [settle?, if_neg hkey, settleEntries?, Option.map_bind]
    simp [Function.comp_def]

theorem settleEntries?_of_settled (h : ∀ e ∈ fs, settle? e.2 = some e.2) (hd : Distinct fs) :
    ∃ gs, settleEntries? fs = some gs ∧ Ascending gs ∧ ∀ k, get? gs k = get? fs k := by
  induction fs with
  | nil => exact ⟨[], rfl, .nil, fun _ => rfl⟩
  | cons e fs ih =>
    obtain ⟨he, hfs⟩ := List.forall_mem_cons.mp h
    obtain ⟨gs, hgs, hascending, hget⟩ := ih hfs hd.tail
    refine ⟨put e.1 e.2 gs, by rw [settleEntries?, he, Option.bind_some, hgs, Option.map_some],
      hascending.put e.1 e.2, fun k => ?_⟩
    rw [get?_cons]
    by_cases hk : e.1 = k
    · subst hk
      rw [if_pos rfl, get?_put_self]
    · rw [if_neg hk, get?_put_of_ne _ (Ne.symm hk), hget]

theorem settle?_perm (hp : fs.Perm es) (hes : Ascending es) (hsettled : ∀ e ∈ es, settle? e.2 = some e.2)
    (hmark : Unmarked fs) : settle? (.table fs) = some (.table es) := by
  have hdistinct := hes.distinct
  obtain ⟨gs, hgs, hascending, hget⟩ :=
    settleEntries?_of_settled (fun e he => hsettled e (hp.mem_iff.mp he)) (hdistinct.perm hp)
  have heq : gs = es := Ascending.ext hascending hes fun k => by rw [hget, hdistinct.get?_perm hp]
  rw [settle?_table hmark, hgs, heq]
  rfl

end Toml
end CalcConsole
