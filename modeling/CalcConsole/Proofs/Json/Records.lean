import CalcConsole.Json.Record
import CalcConsole.Proofs.Json.Numbers
import CalcConsole.Proofs.Timestamp
/-! # Records that are read back

A record that is written field by field, each under its key, is read back field by field (`slots_written`), and whatever
fills a slot was decoded as its field (`decoded_of_slots`). -/
namespace CalcConsole
namespace Json

theorem bind_eq_ok {A B : Type} {r : Except Fault A} {f : A → Except Fault B} {b : B} :
    (r >>= f) = .ok b ↔ ∃ a, r = .ok a ∧ f a = .ok b := by
  cases r with
  | error e => exact ⟨fun h => (by cases h), fun ⟨_, h, _⟩ => (by cases h)⟩
  | ok a => exact ⟨fun h => ⟨a, rfl, h⟩, fun ⟨_, h, hf⟩ => (by cases h; exact hf)⟩

theorem map_eq_ok {A B : Type} {r : Except Fault A} {f : A → B} {b : B} :
    f <$> r = .ok b ↔ ∃ a, r = .ok a ∧ f a = b := by
  cases r with
  | error e => exact ⟨fun h => (by cases h), fun ⟨_, h, _⟩ => (by cases h)⟩
  | ok a => exact ⟨fun h => ⟨a, rfl, Except.ok.inj h⟩, fun ⟨_, h, hf⟩ => (by cases h; rw [← hf]; rfl)⟩

theorem legibleMembers_map {A : Type} {key : A → String} {value : A → Json} : ∀ {as : List A},
    (∀ a ∈ as, Legible (value a)) → LegibleMembers (as.map fun a => (some (key a), value a))
  | [], _ => trivial
  | a :: as, h => by
    obtain ⟨ha, has⟩ := List.forall_mem_cons.mp h
    rw [List.map_cons, LegibleMembers]
    exact ⟨rfl, ha, legibleMembers_map has⟩

theorem legibleItems_map {A : Type} {value : A → Json} : ∀ {as : List A},
    (∀ a ∈ as, Legible (value a)) → LegibleItems (as.map value)
  | [], _ => trivial
  | a :: as, h => by
    obtain ⟨ha, has⟩ := List.forall_mem_cons.mp h
    rw [List.map_cons, LegibleItems]
    exact ⟨ha, legibleItems_map has⟩

theorem decodeItems_map {A : Type} {decode : Decoder A} {value : A → Json} : ∀ {as : List A},
    (∀ a ∈ as, decode (value a) = .ok a) → decodeItems decode (as.map value) = .ok as
  | [], _ => rfl
  | a :: as, h => by
    obtain ⟨ha, has⟩ := List.forall_mem_cons.mp h
    rw [List.map_cons, decodeItems, ha, decodeItems_map has]
    rfl

theorem decoded_of_mem_items {A : Type} {decode : Decoder A} : ∀ {vs : List Json} {as : List A} {a : A},
    decodeItems decode vs = .ok as → a ∈ as → ∃ v, decode v = .ok a
  | [], _, _, h, ha => by
    cases h
    cases ha
  | v :: vs, as, a, h, ha => by
    rw [decodeItems] at h
    obtain ⟨b, hv, h⟩ := bind_eq_ok.mp h
    obtain ⟨bs, hvs, h⟩ := bind_eq_ok.mp h
    cases h
    rcases List.mem_cons.mp ha with rfl | ha
    · exact ⟨v, hv⟩
    · exact decoded_of_mem_items hvs ha

theorem decodeOption_ofOption {A : Type} {decode : Decoder A} {value : A → Json} (h : ∀ a, decode (value a) = .ok a)
    (hnull : ∀ a, value a ≠ .null) (o : Option A) : decodeOption decode (.ofOption value o) = .ok o := by
  cases o with
  | none => rfl
  | some a =>
    have hvalue : decodeOption decode (value a) = (decode (value a)).map some := by
      unfold decodeOption
      split
      · rename_i hv
        exact absurd hv (hnull a)
      · rfl
    rw [ofOption, hvalue, h]
    rfl

theorem nat_inj {m n : Nat} : nat m = nat n ↔ m = n := by
  constructor
  · intro h
    cases h
    rfl
  · exact congrArg nat

theorem decodeNat_nat {bits n : Nat} (h : n < twoTo bits) : decodeNat bits (.nat n) = .ok n := by
  unfold decodeNat nat
  dsimp only
  rw [if_pos ⟨Int.natCast_nonneg n, Int.ofNat_lt.mpr h⟩]
  rfl

theorem lt_of_decodeNat {bits n : Nat} {v : Json} (h : decodeNat bits v = .ok n) : n < twoTo bits := by
  unfold decodeNat at h
  split at h
  · split at h
    · rename_i hn
      cases h
      omega
    · cases h
  · cases h

theorem decodeTimestamp_render (t : Timestamp) : decodeTimestamp (.text t.render) = .ok t := by
  unfold decodeTimestamp text
  dsimp only
  rw [Timestamp.read?_render]

/-! ## Slots -/

def Slots.full {F : Type} {T : F → Type} (x : (f : F) → T f) : Slots T := fun f => some (x f)

namespace Shape

variable {F : Type} {T : F → Type} {sh : Shape F T}

/-- Every field is listed, once, and is found under its key. -/
structure Named (sh : Shape F T) : Prop where
  listed : ∀ f, f ∈ sh.fields
  nodup : sh.fields.Nodup
  found : ∀ f, sh.field? (sh.key f) = some f

theorem Named.field?_iff (h : sh.Named) {f : F} (halias : sh.alias? f = none) (k : String) :
    sh.field? k = some f ↔ k = sh.key f := by
  constructor
  · intro hk
    have hkey := List.find?_some hk
    rw [halias, Bool.or_eq_true, decide_eq_true_eq, decide_eq_true_eq] at hkey
    exact (hkey.resolve_right (Option.some_ne_none k).symm).symm
  · rintro rfl
    exact h.found f

def written (sh : Shape F T) (value : F → Json) : Json :=
  .object (sh.fields.map fun f => (some (sh.key f), value f))

theorem legible_written (sh : Shape F T) (value : F → Json) (h : ∀ f, Legible (value f)) :
    Legible (sh.written value) := by
  unfold written
  rw [Legible]
  exact legibleMembers_map fun f _ => h f

variable [DecidableEq F]

theorem scan_cons {s : Slots T} {k : String} {v : Json} {f : F} {x : T f} (hk : sh.field? k = some f) (hs : s f = none)
    (hd : sh.decode f v = .ok x) (rest : List (Option String × Json)) :
    sh.scan s ((some k, v) :: rest) = sh.scan (s.set f x) rest := by
  rw [Shape.scan, hk]
  dsimp only
  rw [hs, if_neg (by simp), hd]

/-- **Members that are written field by field** fill the slots of these fields and leave the others. -/
theorem scan_fields {value : F → Json} {x : (f : F) → T f} (hd : ∀ f, sh.decode f (value f) = .ok (x f)) :
    ∀ {fs : List F} {s : Slots T}, (∀ f ∈ fs, sh.field? (sh.key f) = some f) → fs.Nodup → (∀ f ∈ fs, s f = none) →
      ∃ s', sh.scan s (fs.map fun f => (some (sh.key f), value f)) = (s', none) ∧
        (∀ f ∈ fs, s' f = some (x f)) ∧ ∀ f ∉ fs, s' f = s f
  | [], s, _, _, _ => ⟨s, rfl, fun _ h => (by cases h), fun _ _ => rfl⟩
  | f :: fs, s, hkeys, hnodup, hempty => by
    obtain ⟨hkey, hkeys⟩ := List.forall_mem_cons.mp hkeys
    obtain ⟨hf, hempty⟩ := List.forall_mem_cons.mp hempty
    obtain ⟨hnew, hnodup⟩ := List.nodup_cons.mp hnodup
    have hset : ∀ g ∈ fs, s.set f (x f) g = none := by
      intro g hg
      rw [Slots.set_of_ne s (x f) fun he => hnew (he ▸ hg)]
      exact hempty g hg
    obtain ⟨s', hscan, hfilled, hothers⟩ := scan_fields hd hkeys hnodup hset
    refine ⟨s', by rw [List.map_cons, scan_cons hkey hf (hd f), hscan], fun g hg => ?_, fun g hg => ?_⟩
    · rcases List.mem_cons.mp hg with rfl | hg
      · rw [hothers g hnew, Slots.set_self]
      · exact hfilled g hg
    · obtain ⟨hne, hg⟩ := not_or.mp (mt List.mem_cons.mpr hg)
      rw [hothers g hg, Slots.set_of_ne s (x f) hne]

/-- **A record reads back** from the object that is written of it. -/
theorem slots_written (h : sh.Named) {value : F → Json} {x : (f : F) → T f}
    (hd : ∀ f, sh.decode f (value f) = .ok (x f)) : sh.slots (sh.written value) = .ok (.full x) := by
  obtain ⟨s, hscan, hfilled, -⟩ := scan_fields (s := .empty) hd (fun f _ => h.found f) h.nodup fun _ _ => rfl
  have hs : s = .full x := funext fun f => hfilled f (h.listed f)
  have hgather : sh.gather (sh.written value) = (s, none) := hscan
  unfold slots
  rw [hgather, hs]

def Decoded (sh : Shape F T) (s : Slots T) : Prop := ∀ f x, s f = some x → ∃ v, sh.decode f v = .ok x

theorem Decoded.set {s : Slots T} (h : sh.Decoded s) {f : F} {x : T f} {v : Json} (hd : sh.decode f v = .ok x) :
    sh.Decoded (s.set f x) := by
  intro g y hy
  by_cases hg : g = f
  · subst hg
    rw [Slots.set_self] at hy
    cases hy
    exact ⟨v, hd⟩
  · rw [Slots.set_of_ne s x hg] at hy
    exact h g y hy

theorem Decoded.scan : ∀ {ms : List (Option String × Json)} {s : Slots T}, sh.Decoded s → sh.Decoded (sh.scan s ms).1
  | [], _, h => h
  | (none, _) :: _, _, h => h
  | (some k, v) :: ms, s, h => by
    rw [Shape.scan]
    split
    · split
      · exact h
      · exact h.scan
    · split
      · exact h
      · split
        · exact h
        · rename_i hd
          exact (h.set hd).scan

theorem Decoded.fill : ∀ {fs : List F} {vs : List Json} {s : Slots T} {i : Nat}, sh.Decoded s →
    sh.Decoded (sh.fill s i fs vs).1
  | [], [], _, _, h => h
  | [], _ :: _, _, _, h => h
  | f :: fs, [], s, i, h => by
    rw [Shape.fill]
    split
    · exact h.fill
    · exact h
  | f :: fs, v :: vs, s, i, h => by
    rw [Shape.fill]
    split
    · exact h
    · rename_i hd
      exact (h.set hd).fill

theorem decoded_of_slots {v : Json} {s : Slots T} (h : sh.slots v = .ok s) : sh.Decoded s := by
  have hempty : sh.Decoded .empty := fun _ _ hx => nomatch hx
  have hgather : sh.Decoded (sh.gather v).1 := by
    cases v with
    | object ms => exact hempty.scan
    | array vs => exact hempty.fill
    | _ => exact hempty
  unfold slots at h
  generalize sh.gather v = p at h hgather
  obtain ⟨s', _ | e⟩ := p
  · cases h
    exact hgather
  · cases h

theorem decoded_of_need {v : Json} {s : Slots T} {f : F} {x : T f} (hs : sh.slots v = .ok s)
    (h : sh.need s f = .ok x) : ∃ w, sh.decode f w = .ok x := by
  unfold need at h
  cases hf : s f with
  | none => rw [hf] at h; cases h
  | some y =>
    rw [hf] at h
    cases h
    exact decoded_of_slots hs f x hf

end Shape

/-! ## Texts -/

/-- **What was read decodes** just if it was read to its end and its value does. -/
theorem ofDocument_eq_ok_iff {A : Type} {decode : Decoder A} {d : Document} {a : A} :
    ofDocument decode d = .ok a ↔ d.ended = true ∧ decode d.value = .ok a := by
  unfold ofDocument
  cases decode d.value with
  | error e => simp
  | ok b =>
    by_cases he : d.ended = true
    · simp [he]
    · simp [he]

theorem ofDocument_of_eq {A : Type} {decode : Decoder A} {d : Document} {v : Json} {a : A} (hd : d = ⟨v, true⟩)
    (h : decode v = .ok a) : ofDocument decode d = .ok a := by
  rw [hd, ofDocument_eq_ok_iff]
  exact ⟨rfl, h⟩

theorem ofText_eq_ok_iff {A : Type} {decode : Decoder A} {s : String} {a : A} :
    ofText decode s = .ok a ↔ (read s).ended = true ∧ decode (read s).value = .ok a := ofDocument_eq_ok_iff

theorem ofText_of_read {A : Type} {decode : Decoder A} {v : Json} {a : A} {s : String} (hs : read s = ⟨v, true⟩)
    (h : decode v = .ok a) : ofText decode s = .ok a := ofDocument_of_eq hs h

theorem decoded_of_ofText {A : Type} {decode : Decoder A} {a : A} {s : String} (h : ofText decode s = .ok a) :
    decode (read s).value = .ok a := (ofText_eq_ok_iff.mp h).2

end Json
end CalcConsole
