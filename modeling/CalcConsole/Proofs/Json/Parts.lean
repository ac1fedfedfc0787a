import Mathlib.Data.List.Forall2
import CalcConsole.Proofs.Json.Members
/-! # The parts of a decoded value

Where a value decodes, so do its parts.  A list decodes item by item, a record needs a value that it can read for each
field that is given, and an alternative has to have one of the known names. -/
namespace CalcConsole
namespace Json

/-- **A list decodes item by item**, in its order. -/
theorem decodeItems_eq_ok_iff {A : Type} {decode : Decoder A} : ∀ {vs : List Json} {as : List A},
    decodeItems decode vs = .ok as ↔ List.Forall₂ (fun v a => decode v = .ok a) vs as
  | [], as => by
    rw [List.forall₂_nil_left_iff, decodeItems]
    exact ⟨fun h => (Except.ok.inj h).symm, fun h => congrArg Except.ok h.symm⟩
  | v :: vs, as => by
    rw [List.forall₂_cons_left_iff, decodeItems]
    constructor
    · intro h
      obtain ⟨a, hv, h⟩ := bind_eq_ok.mp h
      obtain ⟨as', hvs, h⟩ := bind_eq_ok.mp h
      cases h
      exact ⟨a, as', hv, decodeItems_eq_ok_iff.mp hvs, rfl⟩
    · rintro ⟨a, as', hv, hvs, rfl⟩
      exact bind_eq_ok.mpr ⟨a, hv, bind_eq_ok.mpr ⟨as', decodeItems_eq_ok_iff.mpr hvs, rfl⟩⟩

theorem exists_forall₂_iff {A : Type} {decode : Decoder A} {vs : List Json} :
    (∃ as, List.Forall₂ (fun v a => decode v = .ok a) vs as) ↔ ∀ v ∈ vs, ∃ a, decode v = .ok a := by
  induction vs with
  | nil => exact ⟨fun _ _ hv => absurd hv List.not_mem_nil, fun _ => ⟨[], .nil⟩⟩
  | cons v vs ih =>
    rw [List.forall_mem_cons, ← ih]
    constructor
    · rintro ⟨as, h⟩
      obtain ⟨a, as', hv, hvs, rfl⟩ := List.forall₂_cons_left_iff.mp h
      exact ⟨⟨a, hv⟩, as', hvs⟩
    · rintro ⟨⟨a, hv⟩, as, hvs⟩
      exact ⟨a :: as, .cons hv hvs⟩

theorem decodeList_eq_ok {A : Type} {decode : Decoder A} {v : Json} {as : List A} (h : decodeList decode v = .ok as) :
    ∃ vs, v = .array vs ∧ decodeItems decode vs = .ok as := by
  unfold decodeList at h
  split at h
  · exact ⟨_, rfl, h⟩
  · cases h

/-! ## Alternatives -/

def variantName? : Json → Option String
  | .string s => s
  | .object ((k, _) :: _) => k
  | _ => none

theorem variant_ne_ok {A : Type} {all : List (String × A)} {name : String} (h : name ∉ all.map (·.1)) (a : A) :
    variant all name ≠ .ok a := by
  have hfind : all.find? (·.1 = name) = none := by
    rw [List.find?_eq_none]
    intro b hb hname
    exact h (List.mem_map.mpr ⟨b, hb, of_decide_eq_true hname⟩)
  unfold variant
  rw [hfind]
  exact fun he => nomatch he

/-- **An unknown name** decodes to no alternative. -/
theorem decodeVariant_ne_ok {A : Type} {all : List (String × A)} {v : Json} {name : String}
    (hv : v.variantName? = some name) (h : name ∉ all.map (·.1)) (a : A) : decodeVariant all v ≠ .ok a := by
  intro ha
  unfold decodeVariant at ha
  split at ha
  · cases hv
    exact variant_ne_ok h a ha
  · cases hv
    obtain ⟨b, hb, -⟩ := bind_eq_ok.mp ha
    exact variant_ne_ok h b hb
  · cases ha

/-! ## Fields -/

namespace Shape

variable {F : Type} {T : F → Type} {sh : Shape F T}

/-- Whether a record reads the part `v` of a value for the field `f`. -/
def Gives (sh : Shape F T) (f : F) (v : Json) : Json → Prop
  | .object ms => ∃ k, sh.field? k = some f ∧ (some k, v) ∈ ms
  | .array vs => (f, v) ∈ sh.fields.zip vs
  | _ => False

variable [DecidableEq F]

theorem decoded_of_fill : ∀ {fs : List F} {vs : List Json} {s s' : Slots T} {i : Nat} {f : F} {v : Json},
    sh.fill s i fs vs = (s', none) → (f, v) ∈ fs.zip vs → ∃ x, sh.decode f v = .ok x
  | [], _, _, _, _, _, _, _, hm => nomatch hm
  | _ :: _, [], _, _, _, _, _, _, hm => nomatch hm
  | g :: fs, w :: vs, s, s', i, f, v, h, hm => by
    rw [Shape.fill] at h
    split at h
    · cases h
    · rename_i x hx
      rcases List.mem_cons.mp hm with he | hm
      · cases he
        exact ⟨x, hx⟩
      · exact decoded_of_fill h hm

/-- **A value that is given for a field** was read as that field. -/
theorem decoded_of_gives {f : F} {v w : Json} {s : Slots T} (hg : sh.Gives f v w) (h : sh.slots w = .ok s) :
    ∃ x, sh.decode f v = .ok x := by
  cases w with
  | object ms =>
    obtain ⟨k, hk, hm⟩ := hg
    exact decoded_of_mem hk hm h
  | array vs => exact decoded_of_fill (slots_eq_ok_iff.mp h) hg
  | _ => exact absurd hg id

theorem set_eq_some_iff {s : Slots T} {f g : F} {x : T g} {y : T f} (h : s g = none) :
    s.set g x f = some y ↔ s f = some y ∨ ∃ he : g = f, he ▸ x = y := by
  by_cases hg : g = f
  · subst hg
    rw [Slots.set_self, h, Option.some_inj]
    exact ⟨fun hx => .inr ⟨rfl, hx⟩, fun hx => hx.elim (fun hn => nomatch hn) fun ⟨_, hx⟩ => hx⟩
  · rw [Slots.set_of_ne s x (Ne.symm hg)]
    exact ⟨.inl, fun hx => hx.elim id fun ⟨he, _⟩ => absurd he hg⟩

theorem scan_eq_some_iff : ∀ {ms : List Member} {s s' : Slots T}, sh.scan s ms = (s', none) → ∀ {f : F} {x : T f},
    s' f = some x ↔ s f = some x ∨ ∃ w, sh.Gives f w (.object ms) ∧ sh.decode f w = .ok x
  | [], s, s', h, f, x => by
    cases h
    exact ⟨.inl, fun hx => hx.elim id fun ⟨_, ⟨_, _, hm⟩, _⟩ => absurd hm List.not_mem_nil⟩
  | (none, _) :: _, _, _, h, _, _ => nomatch h
  | (some k, v) :: ms, s, s', h, f, x => by
    -- a member that comes later is a member too
    have hlater : (∃ w, sh.Gives f w (.object ((some k, v) :: ms)) ∧ sh.decode f w = .ok x) ↔
        (sh.field? k = some f ∧ sh.decode f v = .ok x) ∨ ∃ w, sh.Gives f w (.object ms) ∧ sh.decode f w = .ok x := by
      constructor
      · rintro ⟨w, ⟨l, hl, hm⟩, hw⟩
        rcases List.mem_cons.mp hm with he | hm
        · cases he
          exact .inl ⟨hl, hw⟩
        · exact .inr ⟨w, ⟨l, hl, hm⟩, hw⟩
      · rintro (⟨hk, hv⟩ | ⟨w, ⟨l, hl, hm⟩, hw⟩)
        · exact ⟨v, ⟨k, hk, List.mem_cons_self⟩, hv⟩
        · exact ⟨w, ⟨l, hl, List.mem_cons_of_mem _ hm⟩, hw⟩
    rw [hlater]
    rw [Shape.scan] at h
    split at h
    · rename_i hk
      rw [hk]
      split at h
      · cases h
      · rw [scan_eq_some_iff h]
        simp
    · rename_i g hk
      split at h
      · cases h
      · rename_i hempty
        split at h
        · cases h
        · rename_i y hy
          have hnone : s g = none := Option.not_isSome_iff_eq_none.mp hempty
          rw [scan_eq_some_iff h, set_eq_some_iff hnone, hk, or_assoc]
          refine or_congr_right (or_congr_left ?_)
          constructor
          · rintro ⟨rfl, rfl⟩
            exact ⟨rfl, hy⟩
          · rintro ⟨hg, hx⟩
            cases hg
            exact ⟨rfl, Except.ok.inj (hy.symm.trans hx)⟩

theorem fill_eq_some_iff : ∀ {fs : List F} {vs : List Json} {s s' : Slots T} {i : Nat}, sh.fill s i fs vs = (s', none) →
    fs.Nodup → (∀ g ∈ fs, s g = none) → ∀ {f : F} {x : T f},
      s' f = some x ↔ s f = some x ∨ ∃ w, (f, w) ∈ fs.zip vs ∧ sh.decode f w = .ok x
  | [], [], s, s', i, h, _, _, f, x => by
    cases h
    exact ⟨.inl, fun hx => hx.elim id fun ⟨_, hm, _⟩ => absurd hm List.not_mem_nil⟩
  | [], _ :: _, _, _, _, h, _, _, _, _ => nomatch h
  | g :: fs, [], s, s', i, h, hnodup, hempty, f, x => by
    rw [Shape.fill] at h
    split at h
    · have hrest := fill_eq_some_iff h (List.nodup_cons.mp hnodup).2 (List.forall_mem_cons.mp hempty).2 (f := f) (x := x)
      rw [List.zip_nil_right] at hrest ⊢
      exact hrest
    · cases h
  | g :: fs, v :: vs, s, s', i, h, hnodup, hempty, f, x => by
    obtain ⟨hnew, hnodup⟩ := List.nodup_cons.mp hnodup
    obtain ⟨hnone, hempty⟩ := List.forall_mem_cons.mp hempty
    rw [Shape.fill] at h
    split at h
    · cases h
    · rename_i y hy
      have hset : ∀ f ∈ fs, s.set g y f = none := by
        intro f hf
        rw [Slots.set_of_ne s y fun he => hnew (he ▸ hf)]
        exact hempty f hf
      rw [fill_eq_some_iff h hnodup hset, set_eq_some_iff hnone, or_assoc]
      refine or_congr_right ?_
      constructor
      · rintro (⟨rfl, rfl⟩ | ⟨w, hm, hw⟩)
        · exact ⟨v, List.mem_cons_self, hy⟩
        · exact ⟨w, List.mem_cons_of_mem _ hm, hw⟩
      · rintro ⟨w, hm, hw⟩
        rcases List.mem_cons.mp hm with he | hm
        · cases he
          exact .inl ⟨rfl, Except.ok.inj (hy.symm.trans hw)⟩
        · exact .inr ⟨w, hm, hw⟩

/-- **A slot holds** what was decoded from the part that is given for its field. -/
theorem slots_eq_some_iff (hnodup : sh.fields.Nodup) {v : Json} {s : Slots T} (h : sh.slots v = .ok s) {f : F}
    {x : T f} : s f = some x ↔ ∃ w, sh.Gives f w v ∧ sh.decode f w = .ok x := by
  have hgather := slots_eq_ok_iff.mp h
  have hempty : (Slots.empty : Slots T) f ≠ some x := fun hn => nomatch hn
  cases v with
  | object ms => rw [scan_eq_some_iff hgather, or_iff_right hempty]
  | array vs => rw [fill_eq_some_iff hgather hnodup fun _ _ => rfl, or_iff_right hempty]; rfl
  | _ => cases hgather

/-! ### The last item of an array -/

theorem fill_concat_iff {f : F} {v : Json} : ∀ {fs : List F} {vs : List Json} {s s' : Slots T} {i : Nat},
    vs.length = fs.length → (sh.fill s i (fs ++ [f]) (vs ++ [v]) = (s', none) ↔
      ∃ t x, sh.fill s i fs vs = (t, none) ∧ sh.decode f v = .ok x ∧ s' = t.set f x)
  | [], [], s, s', i, _ => by
    rw [List.nil_append, List.nil_append, Shape.fill, Shape.fill]
    cases sh.decode f v with
    | error e => simp
    | ok x => simp [Shape.fill, eq_comm]
  | g :: fs, w :: vs, s, s', i, h => by
    rw [List.cons_append, List.cons_append, Shape.fill, Shape.fill]
    cases sh.decode g w with
    | error e => simp
    | ok y => exact fill_concat_iff (Nat.succ.inj h)

theorem fill_concat_of_optional {f : F} (hf : sh.optional f = true) :
    ∀ {fs : List F} {vs : List Json} {s : Slots T} {i : Nat}, vs.length = fs.length →
      sh.fill s i (fs ++ [f]) vs = sh.fill s i fs vs
  | [], [], s, i, _ => by
    rw [List.nil_append, Shape.fill]
    exact if_pos hf
  | g :: fs, w :: vs, s, i, h => by
    rw [List.cons_append, Shape.fill, Shape.fill]
    cases sh.decode g w with
    | error e => rfl
    | ok y => exact fill_concat_of_optional hf (Nat.succ.inj h)

/-- **The item for the last field**, where the field may be left out, adds its value to what the items before it
give. -/
theorem slots_concat_iff {fs : List F} {f : F} (hfields : sh.fields = fs ++ [f]) (hf : sh.optional f = true)
    {vs : List Json} (hlen : vs.length = fs.length) {v : Json} {s : Slots T} :
    sh.slots (.array (vs ++ [v])) = .ok s ↔
      ∃ t x, sh.slots (.array vs) = .ok t ∧ sh.decode f v = .ok x ∧ s = t.set f x := by
  simp only [slots_eq_ok_iff, gather, hfields]
  rw [fill_concat_iff hlen, fill_concat_of_optional hf hlen]

end Shape

theorem intactMembers_iff : ∀ {ms : List Member}, intactMembers ms = true ↔ ∀ m ∈ ms, m.2.intact = true
  | [] => by simp [intactMembers]
  | m :: ms => by rw [intactMembers, Bool.and_eq_true, intactMembers_iff, List.forall_mem_cons]

end Json
end CalcConsole
