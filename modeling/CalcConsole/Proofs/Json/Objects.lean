import CalcConsole.Proofs.Json.Parts
/-! # What an object has to hold

An object gives a record just if each of its keys can be read, each field is given at most once, by a value that is one
for it, and whatever else it holds is well formed (`slots_object_iff`).  In a text that was read to its end all is well
formed (`intact_of_ended`), so there the keys and the values of the fields decide alone. -/
namespace CalcConsole
namespace Json

/-! ## Values under a key -/

def under (key : String) (ms : List Member) : List Json :=
  ms.filterMap fun m => if m.1 = some key then some m.2 else none

theorem mem_under_iff {key : String} {ms : List Member} {v : Json} : v ∈ under key ms ↔ (some key, v) ∈ ms := by
  unfold under
  rw [List.mem_filterMap]
  constructor
  · rintro ⟨m, hm, hv⟩
    by_cases hkey : m.1 = some key
    · rw [if_pos hkey] at hv
      cases hv
      rw [← hkey]
      exact hm
    · rw [if_neg hkey] at hv
      cases hv
  · intro hm
    exact ⟨_, hm, if_pos rfl⟩

theorem under_cons_self {key : String} (v : Json) (ms : List Member) :
    under key ((some key, v) :: ms) = v :: under key ms := by
  unfold under
  rw [List.filterMap_cons_some]
  exact if_pos rfl

theorem under_cons_of_ne {key : String} {m : Member} (h : m.1 ≠ some key) (ms : List Member) :
    under key (m :: ms) = under key ms := by
  unfold under
  rw [List.filterMap_cons_none]
  exact if_neg h

theorem under_eq_nil_iff {key : String} {ms : List Member} : under key ms = [] ↔ ∀ m ∈ ms, m.1 ≠ some key := by
  rw [List.eq_nil_iff_forall_not_mem]
  constructor
  · rintro h ⟨k, v⟩ hm hk
    cases hk
    exact h v (mem_under_iff.mpr hm)
  · exact fun h v hv => h _ (mem_under_iff.mp hv) rfl

/-- How values take a part of a record from `before` to `after`: there is none, and they leave it, or there is one, and
the part was missing and is what this one reads as. -/
def FilledBy {A : Type} (reads : Json → A → Prop) (vs : List Json) (before after : Option A) : Prop :=
  vs = [] ∧ after = before ∨ before = none ∧ ∃ v a, vs = [v] ∧ reads v a ∧ after = some a

theorem filledBy_cons {A : Type} {reads : Json → A → Prop} {v : Json} {vs : List Json} {before after : Option A} :
    FilledBy reads (v :: vs) before after ↔ before = none ∧ ∃ a, reads v a ∧ FilledBy reads vs (some a) after := by
  unfold FilledBy
  constructor
  · rintro (⟨hnil, -⟩ | ⟨hbefore, w, a, hw, ha, hafter⟩)
    · exact absurd hnil (List.cons_ne_nil _ _)
    · obtain ⟨rfl, hvs⟩ := List.cons.inj hw
      exact ⟨hbefore, a, ha, .inl ⟨hvs, hafter⟩⟩
  · rintro ⟨hbefore, a, ha, ⟨hvs, hafter⟩ | ⟨hsome, -⟩⟩
    · exact .inr ⟨hbefore, v, a, by rw [hvs], ha, hafter⟩
    · cases hsome

theorem filledBy_some_iff {A : Type} {reads : Json → A → Prop} {vs : List Json} {a : A} :
    FilledBy reads vs none (some a) ↔ ∃ v, vs = [v] ∧ reads v a := by
  simp [FilledBy]

def Keyed (ms : List Member) : Prop := ∀ m ∈ ms, m.1.isSome = true

theorem keyed_struct (ms : List (String × Json)) : Keyed (ms.map fun m => (some m.1, m.2)) := by
  intro m hm
  obtain ⟨_, -, rfl⟩ := List.mem_map.mp hm
  rfl

namespace Shape

variable {F : Type} {T : F → Type} (sh : Shape F T)

def OthersIntact (ms : List Member) : Prop := ∀ m ∈ ms, m.1.bind sh.field? = none → m.2.intact = true

variable [DecidableEq F]

def given (f : F) (ms : List Member) : List Json :=
  ms.filterMap fun m => if m.1.bind sh.field? = some f then some m.2 else none

/-- How an object takes a slot from `before` to `after`: it leaves the slot, or fills it where it is empty, from the one
value that it gives for the field. -/
def Fills (ms : List Member) (f : F) (before after : Option (T f)) : Prop :=
  sh.given f ms = [] ∧ after = before ∨
    before = none ∧ ∃ v x, sh.given f ms = [v] ∧ sh.decode f v = .ok x ∧ after = some x

variable {sh}

theorem given_eq_under {f : F} {key : String} (h : ∀ k, sh.field? k = some f ↔ k = key) (ms : List Member) :
    sh.given f ms = under key ms := by
  unfold given under
  refine List.filterMap_congr fun m _ => ?_
  obtain ⟨_ | k, v⟩ := m
  · rfl
  · dsimp only [Option.bind_some]
    by_cases hk : k = key
    · rw [if_pos ((h k).mpr hk), if_pos (congrArg some hk)]
    · rw [if_neg (mt (h k).mp hk), if_neg fun he => hk (Option.some.inj he)]

theorem given_cons_self {f : F} {k : String} (h : sh.field? k = some f) (v : Json) (ms : List Member) :
    sh.given f ((some k, v) :: ms) = v :: sh.given f ms := by
  unfold given
  rw [List.filterMap_cons_some]
  exact if_pos h

theorem given_cons_of_ne {f : F} {m : Member} (h : m.1.bind sh.field? ≠ some f) (ms : List Member) :
    sh.given f (m :: ms) = sh.given f ms := by
  unfold given
  rw [List.filterMap_cons_none]
  exact if_neg h

theorem fills_cons_of_ne {f : F} {m : Member} (h : m.1.bind sh.field? ≠ some f) (ms : List Member)
    (before after : Option (T f)) : sh.Fills (m :: ms) f before after ↔ sh.Fills ms f before after := by
  unfold Fills
  rw [given_cons_of_ne h]

theorem fills_cons_self {f : F} {k : String} (h : sh.field? k = some f) (v : Json) (ms : List Member)
    (before after : Option (T f)) : sh.Fills ((some k, v) :: ms) f before after ↔
      before = none ∧ ∃ x, sh.decode f v = .ok x ∧ sh.Fills ms f (some x) after := by
  unfold Fills
  rw [given_cons_self h]
  exact filledBy_cons

@[simp] theorem fills_some_iff {ms : List Member} {f : F} {x : T f} :
    sh.Fills ms f none (some x) ↔ ∃ v, sh.given f ms = [v] ∧ sh.decode f v = .ok x := by
  simp [Fills]

@[simp] theorem fills_none_iff {ms : List Member} {f : F} : sh.Fills ms f none none ↔ sh.given f ms = [] := by
  simp [Fills]

theorem takeAll_cons_eq_some_iff {s s' : Slots T} {m : Member} {ms : List Member} :
    sh.takeAll (some s) (m :: ms) = some s' ↔ ∃ t, sh.take s m = some t ∧ sh.takeAll (some t) ms = some s' := by
  rw [takeAll_cons]
  cases sh.take s m with
  | none => simp
  | some t => simp

theorem fills_cons_unknown_iff {k : String} (h : sh.field? k = none) (v : Json) (ms : List Member) {s s' : Slots T} :
    (∀ f, sh.Fills ((some k, v) :: ms) f (s f) (s' f)) ↔ ∀ f, sh.Fills ms f (s f) (s' f) := by
  have hfills : ∀ f, sh.Fills ((some k, v) :: ms) f (s f) (s' f) ↔ sh.Fills ms f (s f) (s' f) := by
    refine fun f => fills_cons_of_ne ?_ ms _ _
    rw [Option.bind_some, h]
    exact (Option.some_ne_none f).symm
  simp only [hfills]

theorem fills_cons_field_iff {k : String} {g : F} (h : sh.field? k = some g) (v : Json) (ms : List Member)
    {s s' : Slots T} : (∀ f, sh.Fills ((some k, v) :: ms) f (s f) (s' f)) ↔
      s g = none ∧ ∃ x, sh.decode g v = .ok x ∧ ∀ f, sh.Fills ms f (s.set g x f) (s' f) := by
  have hfills : ∀ f ≠ g, ∀ before after,
      sh.Fills ((some k, v) :: ms) f before after ↔ sh.Fills ms f before after := by
    refine fun f hf => fills_cons_of_ne ?_ ms
    rw [Option.bind_some, h]
    exact fun he => hf (Option.some.inj he).symm
  constructor
  · intro hms
    obtain ⟨hempty, x, hx, hg⟩ := (fills_cons_self h v ms _ _).mp (hms g)
    refine ⟨hempty, x, hx, fun f => ?_⟩
    by_cases hfg : f = g
    · subst hfg
      rw [Slots.set_self]
      exact hg
    · rw [Slots.set_of_ne s x hfg]
      exact (hfills f hfg _ _).mp (hms f)
  · rintro ⟨hempty, x, hx, hms⟩ f
    have hf := hms f
    by_cases hfg : f = g
    · subst hfg
      rw [Slots.set_self] at hf
      exact (fills_cons_self h v ms _ _).mpr ⟨hempty, x, hx, hf⟩
    · rw [Slots.set_of_ne s x hfg] at hf
      exact (hfills f hfg _ _).mpr hf

/-- **Members can be taken** just if every key can be read, what names no field is well formed, and each field is given
at most once, by a value that is one for it. -/
theorem takeAll_eq_some_iff {ms : List Member} {s s' : Slots T} : sh.takeAll (some s) ms = some s' ↔
    Keyed ms ∧ sh.OthersIntact ms ∧ ∀ f, sh.Fills ms f (s f) (s' f) := by
  induction ms generalizing s with
  | nil =>
    have hnil : ∀ f, sh.Fills [] f (s f) (s' f) ↔ s' f = s f := by
      intro f
      unfold Fills
      simp [given]
    have hkeyed : Keyed [] := fun _ hm => absurd hm List.not_mem_nil
    have hothers : sh.OthersIntact [] := fun _ hm => absurd hm List.not_mem_nil
    rw [takeAll, List.foldl_nil, Option.some_inj, and_iff_right hkeyed, and_iff_right hothers]
    exact ⟨fun h f => (hnil f).mpr (h ▸ rfl), fun h => funext fun f => ((hnil f).mp (h f)).symm⟩
  | cons m ms ih =>
    have hkeyed : Keyed (m :: ms) ↔ m.1.isSome = true ∧ Keyed ms := List.forall_mem_cons
    have hothers : sh.OthersIntact (m :: ms) ↔
        (m.1.bind sh.field? = none → m.2.intact = true) ∧ sh.OthersIntact ms := List.forall_mem_cons
    rw [takeAll_cons_eq_some_iff, hkeyed, hothers]
    obtain ⟨_ | k, v⟩ := m
    · simp [take]
    cases hk : sh.field? k with
    | none =>
      rw [fills_cons_unknown_iff hk]
      by_cases hv : v.intact = true
      · simp [take_of_unknown hk hv, ih, hv]
      · simp [take, hk, hv]
    | some g =>
      have hnamed : ((some k, v) : Member).1.bind sh.field? ≠ none := by
        rw [Option.bind_some, hk]
        exact Option.some_ne_none g
      rw [fills_cons_field_iff hk]
      simp only [take_of_field hk, put_eq_some_iff]
      constructor
      · rintro ⟨_, ⟨hempty, x, hx, rfl⟩, h⟩
        obtain ⟨hkeys, hrest, hms⟩ := ih.mp h
        exact ⟨⟨rfl, hkeys⟩, ⟨fun hn => absurd hn hnamed, hrest⟩, hempty, x, hx, hms⟩
      · rintro ⟨⟨-, hkeys⟩, ⟨-, hrest⟩, hempty, x, hx, hms⟩
        exact ⟨_, ⟨hempty, x, hx, rfl⟩, ih.mpr ⟨hkeys, hrest, hms⟩⟩

theorem slots_object_iff {ms : List Member} {s : Slots T} : sh.slots (.object ms) = .ok s ↔
    Keyed ms ∧ sh.OthersIntact ms ∧ ∀ f, sh.Fills ms f none (s f) :=
  slots_object_eq_ok_iff.trans takeAll_eq_some_iff

theorem slot_eq_none_iff {ms : List Member} {s : Slots T} {f : F} (h : sh.slots (.object ms) = .ok s) :
    s f = none ↔ sh.given f ms = [] := by
  have hf := (slots_object_iff.mp h).2.2 f
  rcases hf with ⟨hnil, hempty⟩ | ⟨-, v, x, hv, -, hx⟩
  · exact iff_of_true hempty hnil
  · rw [hx, hv]
    exact iff_of_false (Option.some_ne_none x) (List.cons_ne_nil v [])

end Shape

/-! ## Texts that are read to their end -/

theorem intact_of_readWord {word cs rest : List Char} {v w : Json} (hw : w.intact = true)
    (h : readWord word w cs = (v, some rest)) : v.intact = true := by
  unfold readWord at h
  split at h <;> cases h
  exact hw

theorem intact_of_readScalar {cs rest : List Char} {v : Json} (h : readScalar cs = (v, some rest)) :
    v.intact = true := by
  unfold readScalar at h
  split at h
  · split at h <;> cases h
    rfl
  · exact intact_of_readWord rfl h
  · exact intact_of_readWord rfl h
  · exact intact_of_readWord rfl h
  · split at h <;> cases h
    rfl

theorem intact_of_reading (fuel : Nat) :
    (∀ {cs rest v}, readValue fuel cs = (v, some rest) → v.intact = true) ∧
    (∀ {cs rest vs}, readItems fuel cs = (vs, some rest) → intactItems vs = true) ∧
    ∀ {cs rest ms}, readMembers fuel cs = (ms, some rest) → intactMembers ms = true := by
  induction fuel with
  | zero => refine ⟨?_, ?_, ?_⟩ <;> intro _ _ _ h <;> cases h
  | succ fuel ih =>
    obtain ⟨hvalue, hitems, hmembers⟩ := ih
    refine ⟨?value, ?items, ?members⟩
    case value =>
      intro cs rest v h
      rw [readValue] at h
      split at h
      · split at h
        · cases h
          rfl
        · obtain ⟨rfl, hrest⟩ := Prod.mk.inj h
          exact hitems (Prod.ext rfl hrest)
      · split at h
        · cases h
          rfl
        · obtain ⟨rfl, hrest⟩ := Prod.mk.inj h
          exact hmembers (Prod.ext rfl hrest)
      · exact intact_of_readScalar h
    case items =>
      intro cs rest vs h
      rw [readItems] at h
      split at h
      · cases h
      · next v r hv =>
        split at h
        · obtain ⟨rfl, hrest⟩ := Prod.mk.inj h
          exact Bool.and_eq_true_iff.mpr ⟨hvalue hv, hitems (Prod.ext rfl hrest)⟩
        · cases h
          exact Bool.and_eq_true_iff.mpr ⟨hvalue hv, rfl⟩
        · cases h
    case members =>
      intro cs rest ms h
      rw [readMembers] at h
      split at h
      · split at h
        · cases h
        · split at h
          · split at h
            · cases h
            · next v r hv =>
              split at h
              · obtain ⟨rfl, hrest⟩ := Prod.mk.inj h
                exact Bool.and_eq_true_iff.mpr ⟨hvalue hv, hmembers (Prod.ext rfl hrest)⟩
              · cases h
                exact Bool.and_eq_true_iff.mpr ⟨hvalue hv, rfl⟩
              · cases h
          · cases h
      · cases h

/-- **A text that is read to its end** has no broken part. -/
theorem intact_of_ended {s : String} (h : (read s).ended = true) : (read s).value.intact = true := by
  unfold read readChars at h ⊢
  split at h
  · next v rest hv => exact (intact_of_reading _).1 hv
  · cases h

theorem Shape.othersIntact_of_read {F : Type} {T : F → Type} (sh : Shape F T) {s : String} {ms : List Member}
    (h : read s = ⟨.object ms, true⟩) : sh.OthersIntact ms := by
  have hintact := intact_of_ended (s := s)
  rw [h] at hintact
  exact fun m hm _ => intactMembers_iff.mp (hintact rfl) m hm

end Json
end CalcConsole
