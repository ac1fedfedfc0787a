import Mathlib.Data.List.Perm.Basic
import CalcConsole.Proofs.Json.Records
/-! # Members one at a time

What an object gives to a record is taken member by member, and no member minds which others came before it, except one
for the same field.  So the order of the members does not matter (`takeAll_perm`), a field can be given only once, and a
member that is moved to the end shows what the others give without it. -/
namespace CalcConsole
namespace Json

abbrev Member := Option String × Json

theorem Slots.set_comm {F : Type} {T : F → Type} [DecidableEq F] (s : Slots T) {f g : F} (h : f ≠ g) (x : T f)
    (y : T g) : (s.set f x).set g y = (s.set g y).set f x := by
  funext e
  by_cases hf : e = f
  · subst hf
    rw [set_of_ne _ y h, set_self, set_self]
  · by_cases hg : e = g
    · subst hg
      rw [set_self, set_of_ne _ x hf, set_self]
    · rw [set_of_ne _ y hg, set_of_ne _ x hf, set_of_ne _ x hf, set_of_ne _ y hg]

namespace Shape

variable {F : Type} {T : F → Type} [DecidableEq F] {sh : Shape F T}

/-- The slots after a value was read for a field, if the field was empty and the value is one for it. -/
def put (sh : Shape F T) (s : Slots T) (f : F) (v : Json) : Option (Slots T) :=
  if (s f).isSome then none else (sh.decode f v).toOption.map (s.set f)

def take (sh : Shape F T) (s : Slots T) : Member → Option (Slots T)
  | (none, _) => none
  | (some k, v) =>
    match sh.field? k with
    | none => if v.intact then some s else none
    | some f => sh.put s f v

def takeAll (sh : Shape F T) (s : Option (Slots T)) (ms : List Member) : Option (Slots T) :=
  ms.foldl (fun s m => s.bind (sh.take · m)) s

@[simp] theorem takeAll_none (ms : List Member) : sh.takeAll none ms = none := by
  induction ms with
  | nil => rfl
  | cons m ms ih => exact ih

theorem takeAll_cons (s : Slots T) (m : Member) (ms : List Member) :
    sh.takeAll (some s) (m :: ms) = sh.takeAll (sh.take s m) ms := rfl

theorem takeAll_append (s : Option (Slots T)) (ms ms' : List Member) :
    sh.takeAll s (ms ++ ms') = sh.takeAll (sh.takeAll s ms) ms' := List.foldl_append

theorem take_of_field {s : Slots T} {k : String} {f : F} (h : sh.field? k = some f) (v : Json) :
    sh.take s (some k, v) = sh.put s f v := by
  simp only [take, h]

theorem take_of_unknown {s : Slots T} {k : String} (h : sh.field? k = none) {v : Json} (hv : v.intact = true) :
    sh.take s (some k, v) = some s := by
  simp only [take, h, if_pos hv]

theorem put_eq_some_iff {s s' : Slots T} {f : F} {v : Json} :
    sh.put s f v = some s' ↔ s f = none ∧ ∃ x, sh.decode f v = .ok x ∧ s' = s.set f x := by
  unfold put
  cases s f with
  | some x => simp
  | none =>
    cases sh.decode f v with
    | error e => simp [Except.toOption]
    | ok x => simp [Except.toOption, eq_comm]

theorem put_comm (s : Slots T) (f g : F) (v w : Json) :
    (sh.put s f v).bind (sh.put · g w) = (sh.put s g w).bind (sh.put · f v) := by
  -- either side gives the slots with both values just if the fields differ, are empty, and both values can be read
  have hleft : ∀ (f g : F) (v w : Json) (s' : Slots T), (sh.put s f v).bind (sh.put · g w) = some s' ↔
      f ≠ g ∧ s f = none ∧ s g = none ∧ ∃ x y, sh.decode f v = .ok x ∧ sh.decode g w = .ok y ∧
        s' = (s.set f x).set g y := by
    intro f g v w s'
    rw [Option.bind_eq_some_iff]
    constructor
    · rintro ⟨t, ht, hs'⟩
      obtain ⟨hf, x, hx, rfl⟩ := put_eq_some_iff.mp ht
      obtain ⟨hg, y, hy, rfl⟩ := put_eq_some_iff.mp hs'
      have hne : g ≠ f := by
        rintro rfl
        rw [Slots.set_self] at hg
        cases hg
      rw [Slots.set_of_ne s x hne] at hg
      exact ⟨hne.symm, hf, hg, x, y, hx, hy, rfl⟩
    · rintro ⟨hne, hf, hg, x, y, hx, hy, rfl⟩
      refine ⟨s.set f x, put_eq_some_iff.mpr ⟨hf, x, hx, rfl⟩, put_eq_some_iff.mpr ⟨?_, y, hy, rfl⟩⟩
      rw [Slots.set_of_ne s x hne.symm, hg]
  refine Option.ext fun s' => ?_
  rw [hleft, hleft]
  constructor
  · rintro ⟨hne, hf, hg, x, y, hx, hy, rfl⟩
    exact ⟨hne.symm, hg, hf, y, x, hy, hx, s.set_comm hne x y⟩
  · rintro ⟨hne, hg, hf, y, x, hy, hx, rfl⟩
    exact ⟨hne.symm, hf, hg, x, y, hx, hy, s.set_comm hne y x⟩

theorem take_cases (sh : Shape F T) (m : Member) : (∀ s, sh.take s m = none) ∨ (∀ s, sh.take s m = some s) ∨
    ∃ f v, ∀ s, sh.take s m = sh.put s f v := by
  obtain ⟨_ | k, v⟩ := m
  · exact .inl fun _ => rfl
  cases hk : sh.field? k with
  | some f => exact .inr (.inr ⟨f, v, fun s => take_of_field hk v⟩)
  | none =>
    by_cases hv : v.intact = true
    · exact .inr (.inl fun s => take_of_unknown hk hv)
    · refine .inl fun s => ?_
      simp only [take, hk, if_neg hv]

/-- **Two members are taken in either order.** -/
theorem take_comm (s : Slots T) (a b : Member) :
    (sh.take s a).bind (sh.take · b) = (sh.take s b).bind (sh.take · a) := by
  rcases sh.take_cases a with ha | ha | ⟨f, v, ha⟩ <;> rcases sh.take_cases b with hb | hb | ⟨g, w, hb⟩ <;>
    simp only [ha, hb, Option.bind_none, Option.bind_some, Option.bind_fun_none, Option.bind_fun_some]
  exact put_comm s f g v w

/-- **The order of the members does not matter.** -/
theorem takeAll_perm {ms ms' : List Member} (h : ms.Perm ms') (s : Option (Slots T)) :
    sh.takeAll s ms = sh.takeAll s ms' := by
  refine h.foldl_eq' (fun a _ b _ s => ?_) s
  cases s with
  | none => rfl
  | some s => exact take_comm s a b

theorem scan_eq_none_iff : ∀ {ms : List Member} {s s' : Slots T},
    sh.scan s ms = (s', none) ↔ sh.takeAll (some s) ms = some s'
  | [], s, s' => by simp [scan, takeAll]
  | (none, v) :: ms, s, s' => by
    rw [takeAll_cons, scan]
    simp [take]
  | (some k, v) :: ms, s, s' => by
    rw [takeAll_cons, scan]
    unfold take
    dsimp only
    cases sh.field? k with
    | none =>
      dsimp only [skip]
      by_cases hv : v.intact = true
      · rw [if_pos hv, if_pos hv]
        exact scan_eq_none_iff
      · rw [if_neg hv, if_neg hv, takeAll_none]
        simp
    | some f =>
      dsimp only [put]
      by_cases hf : (s f).isSome = true
      · rw [if_pos hf, if_pos hf, takeAll_none]
        simp
      · rw [if_neg hf, if_neg hf]
        cases sh.decode f v with
        | error e => simp [Except.toOption]
        | ok x => exact scan_eq_none_iff

theorem slots_eq_ok_iff {v : Json} {s : Slots T} : sh.slots v = .ok s ↔ sh.gather v = (s, none) := by
  unfold slots
  rcases sh.gather v with ⟨s', _ | e⟩
  · simp
  · simp

theorem slots_object_eq_ok_iff {ms : List Member} {s : Slots T} :
    sh.slots (.object ms) = .ok s ↔ sh.takeAll (some .empty) ms = some s :=
  slots_eq_ok_iff.trans scan_eq_none_iff

/-! ## One member among others -/

/-- **A member that names a field** adds its value to what the others give, and they have to leave the field empty. -/
theorem takeAll_field_cons_iff {s : Slots T} {k : String} {v : Json} {f : F} {ms : List Member}
    (hk : sh.field? k = some f) : sh.takeAll (some .empty) ((some k, v) :: ms) = some s ↔
      ∃ s' x, sh.takeAll (some .empty) ms = some s' ∧ s' f = none ∧ sh.decode f v = .ok x ∧ s = s'.set f x := by
  rw [takeAll_perm (List.perm_append_singleton _ ms).symm, takeAll_append]
  cases sh.takeAll (some .empty) ms with
  | none => simp
  | some s' =>
    rw [takeAll_cons, take_of_field hk]
    simp [takeAll, put_eq_some_iff]

theorem slots_field_iff {s : Slots T} {k : String} {v : Json} {f : F} {before behind : List Member}
    (hk : sh.field? k = some f) : sh.slots (.object (before ++ (some k, v) :: behind)) = .ok s ↔
      ∃ s' x, sh.slots (.object (before ++ behind)) = .ok s' ∧ s' f = none ∧ sh.decode f v = .ok x ∧
        s = s'.set f x := by
  simp only [slots_object_eq_ok_iff]
  rw [takeAll_perm List.perm_middle]
  exact takeAll_field_cons_iff hk

/-- Whether a member can stand for another: it gives all that the other one gives. -/
def StandsFor (sh : Shape F T) (m' m : Member) : Prop := ∀ s s', sh.take s m = some s' → sh.take s m' = some s'

theorem standsFor_of_field {k k' : String} {f : F} {v v' : Json} (hk : sh.field? k = some f)
    (hk' : sh.field? k' = some f) (h : ∀ x, sh.decode f v = .ok x → sh.decode f v' = .ok x) :
    sh.StandsFor (some k', v') (some k, v) := by
  intro s s' hs
  rw [take_of_field hk, put_eq_some_iff] at hs
  obtain ⟨hempty, x, hx, rfl⟩ := hs
  rw [take_of_field hk', put_eq_some_iff]
  exact ⟨hempty, x, h x hx, rfl⟩

theorem standsFor_of_unknown {k : String} (hk : sh.field? k = none) (v : Json) {v' : Json} (hv' : v'.intact = true) :
    sh.StandsFor (some k, v') (some k, v) := by
  intro s s' hs
  rw [take_of_unknown hk hv']
  simp only [take, hk] at hs
  split at hs
  · exact hs
  · cases hs

theorem takeAll_of_standsFor {m m' : Member} {ms : List Member} {s s' : Slots T} (h : sh.StandsFor m' m)
    (hs : sh.takeAll (some s) (m :: ms) = some s') : sh.takeAll (some s) (m' :: ms) = some s' := by
  rw [takeAll_cons] at hs ⊢
  cases hm : sh.take s m with
  | none => rw [hm, takeAll_none] at hs; cases hs
  | some t =>
    rw [hm] at hs
    rw [h s t hm, hs]

/-- **A member whose key names a field** was read as that field. -/
theorem decoded_of_mem {s : Slots T} {k : String} {v : Json} {f : F} {ms : List Member} (hk : sh.field? k = some f)
    (hm : (some k, v) ∈ ms) (h : sh.slots (.object ms) = .ok s) : ∃ x, sh.decode f v = .ok x := by
  obtain ⟨front, back, rfl⟩ := List.append_of_mem hm
  rw [slots_object_eq_ok_iff, takeAll_perm List.perm_middle] at h
  obtain ⟨-, x, -, -, hx, -⟩ := (takeAll_field_cons_iff hk).mp h
  exact ⟨x, hx⟩

/-- **A field is given once**, under one of its keys. -/
theorem slots_ne_ok_of_twice {k l : String} {v w : Json} {f : F} {ms : List Member} (hk : sh.field? k = some f)
    (hl : sh.field? l = some f) (hne : k ≠ l) (hv : (some k, v) ∈ ms) (hw : (some l, w) ∈ ms) (s : Slots T) :
    sh.slots (.object ms) ≠ .ok s := by
  intro h
  obtain ⟨front, back, rfl⟩ := List.append_of_mem hv
  have hrest : (some l, w) ∈ front ++ back := by
    rw [List.mem_append, List.mem_cons] at hw
    rcases hw with hw | hw | hw
    · exact List.mem_append_left _ hw
    · exact absurd (Option.some.inj (congrArg Prod.fst hw)).symm hne
    · exact List.mem_append_right _ hw
  rw [slots_object_eq_ok_iff, takeAll_perm List.perm_middle] at h
  obtain ⟨s', -, hs', hempty, -⟩ := (takeAll_field_cons_iff hk).mp h
  -- the rest holds the other key, so it fills the field too
  obtain ⟨front', back', hsplit⟩ := List.append_of_mem hrest
  rw [hsplit, takeAll_perm List.perm_middle] at hs'
  obtain ⟨s'', x, -, -, -, rfl⟩ := (takeAll_field_cons_iff hl).mp hs'
  rw [Slots.set_self] at hempty
  cases hempty

end Shape
end Json
end CalcConsole
