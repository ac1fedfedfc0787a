import Mathlib.Data.List.Forall2
import CalcConsole.Proofs.Disk.Twins
import CalcConsole.Proofs.Json.Members
import CalcConsole.Proofs.Session.Files
/-! # The token in a session file

Two session files that hold a session each, and are the same but for the text of the token, read as the same page, with
the same complaint about it; and what is saved of two such sessions are two such files again. -/
namespace CalcConsole

open Json (Member Slots)

namespace Token

def Printable (t : Token) : Prop := ∀ c ∈ t.text.toList, c = '\t' ∨ 0x20 ≤ c.toNat ∧ c.toNat ≤ 0x7e

instance (t : Token) : Decidable t.Printable := List.decidableBAll _ t.text.toList

/-- The same token, or none in both, or two that a header can carry. -/
inductive Alike : Option Token → Option Token → Prop
  | same (t : Option Token) : Alike t t
  | other {t t' : Token} (h : t.Printable) (h' : t'.Printable) : Alike (some t) (some t')

theorem Alike.isSome_eq {t t' : Option Token} (h : Alike t t') : t'.isSome = t.isSome := by
  cases h <;> rfl

end Token

namespace SessionState

structure Alike (s s' : SessionState) : Prop where
  page : s'.page = s.page
  token : Token.Alike s.token s'.token

theorem Alike.refl (s : SessionState) : Alike s s := ⟨rfl, .same _⟩

/-! ## Values that differ in the token -/

inductive MemberAlike : Member → Member → Prop
  | same (m : Member) : MemberAlike m m
  | token {t t' : Token} (h : t.Printable) (h' : t'.Printable) :
    MemberAlike (some "token", t.json) (some "token", t'.json)

/-- The same value, or two that differ in the text of the token, as a member or in its place of an array. -/
inductive ValueAlike : Json → Json → Prop
  | same (v : Json) : ValueAlike v v
  | object {ms ms' : List Member} (h : List.Forall₂ MemberAlike ms ms') : ValueAlike (.object ms) (.object ms')
  | array {page : Json} {rest : List Json} {t t' : Token} (h : t.Printable) (h' : t'.Printable) :
    ValueAlike (.array (page :: t.json :: rest)) (.array (page :: t'.json :: rest))

structure SlotsAlike (s s' : Slots Field.Value) : Prop where
  page : s' .page = s .page
  token : s' .token = s .token ∨
    ∃ t t' : Token, t.Printable ∧ t'.Printable ∧ s .token = some (some t) ∧ s' .token = some (some t')

namespace SlotsAlike

theorem refl (s : Slots Field.Value) : SlotsAlike s s := ⟨rfl, .inl rfl⟩

variable {s s' : Slots Field.Value} (h : SlotsAlike s s')
include h

theorem isSome_eq (f : Field) : (s' f).isSome = (s f).isSome := by
  cases f with
  | page => rw [h.page]
  | token =>
    rcases h.token with he | ⟨t, t', -, -, hs, hs'⟩
    · rw [he]
    · rw [hs, hs']
      rfl

theorem set (f : Field) (x : f.Value) : SlotsAlike (s.set f x) (s'.set f x) := by
  cases f with
  | page =>
    refine ⟨by rw [Slots.set_self, Slots.set_self], ?_⟩
    have hne : Field.token ≠ Field.page := by decide
    rw [Slots.set_of_ne s x hne, Slots.set_of_ne s' x hne]
    exact h.token
  | token =>
    refine ⟨?_, .inl (by rw [Slots.set_self, Slots.set_self])⟩
    have hne : Field.page ≠ Field.token := by decide
    rw [Slots.set_of_ne s x hne, Slots.set_of_ne s' x hne]
    exact h.page

theorem set_token {t t' : Token} (ht : t.Printable) (ht' : t'.Printable) :
    SlotsAlike (s.set .token (some t)) (s'.set .token (some t')) := by
  have hne : Field.page ≠ Field.token := by decide
  refine ⟨?_, .inr ⟨t, t', ht, ht', Slots.set_self s _ _, Slots.set_self s' _ _⟩⟩
  rw [Slots.set_of_ne s _ hne, Slots.set_of_ne s' _ hne]
  exact h.page

theorem ofSlots : SessionState.Alike (ofSlots s) (ofSlots s') := by
  refine ⟨?_, ?_⟩
  · show (s' .page).bind Page.view? = (s .page).bind Page.view?
    rw [h.page]
  · show Token.Alike (s .token).join (s' .token).join
    rcases h.token with he | ⟨t, t', ht, ht', hs, hs'⟩
    · rw [he]
      exact .same _
    · rw [hs, hs']
      exact .other ht ht'

theorem unknownPage_eq : unknownPage s' = unknownPage s := by
  unfold unknownPage
  rw [h.page]

end SlotsAlike

variable {room : Nat}

theorem decode_token (t : Token) : (shape room).decode .token t.json = .ok (some t) := rfl

/-- **Members that differ in the token** fill slots that differ in it, up to the same fault. -/
theorem scan_alike {ms ms' : List Member} (h : List.Forall₂ MemberAlike ms ms') : ∀ {s s' : Slots Field.Value},
    SlotsAlike s s' → ((shape room).scan s' ms').2 = ((shape room).scan s ms).2 ∧
      SlotsAlike ((shape room).scan s ms).1 ((shape room).scan s' ms').1 := by
  induction h with
  | nil => exact fun hs => ⟨rfl, hs⟩
  | @cons m m' ms ms' hm _ ih =>
    intro s s' hs
    cases hm with
    | same =>
      obtain ⟨_ | k, v⟩ := m
      · exact ⟨rfl, hs⟩
      · rw [Json.Shape.scan, Json.Shape.scan]
        cases (shape room).field? k with
        | none =>
          cases Json.skip v with
          | error e => exact ⟨rfl, hs⟩
          | ok u => exact ih hs
        | some f =>
          dsimp only
          rw [hs.isSome_eq]
          by_cases hf : (s f).isSome = true
          · rw [if_pos hf, if_pos hf]
            exact ⟨rfl, hs⟩
          · rw [if_neg hf, if_neg hf]
            cases (shape room).decode f v with
            | error e => exact ⟨rfl, hs⟩
            | ok x => exact ih (hs.set f x)
    | @token t t' ht ht' =>
      have hfield : (shape room).field? "token" = some .token := rfl
      rw [Json.Shape.scan, Json.Shape.scan, hfield]
      dsimp only
      rw [hs.isSome_eq]
      by_cases hf : (s .token).isSome = true
      · rw [if_pos hf, if_pos hf]
        exact ⟨rfl, hs⟩
      · rw [if_neg hf, if_neg hf, decode_token, decode_token]
        exact ih (hs.set_token ht ht')

theorem gather_alike {v v' : Json} (h : ValueAlike v v') :
    ((shape room).gather v').2 = ((shape room).gather v).2 ∧
      SlotsAlike ((shape room).gather v).1 ((shape room).gather v').1 := by
  cases h with
  | same => exact ⟨rfl, .refl _⟩
  | object h => exact scan_alike h (.refl _)
  | @array page rest t t' ht ht' =>
    -- The token stands second: a page at fault is reported first, and items beyond the two come last.
    have hfill : ∀ t : Token, (shape room).gather (.array (page :: t.json :: rest)) =
        match (shape room).decode .page page with
        | .error e => (.empty, some e)
        | .ok x => (shape room).fill ((Slots.empty.set .page x).set .token (some t)) 2 [] rest := by
      intro t
      show (shape room).fill .empty 0 [.page, .token] (page :: t.json :: rest) = _
      rw [Json.Shape.fill]
      cases (shape room).decode .page page <;> rfl
    rw [hfill, hfill]
    cases (shape room).decode .page page with
    | error e => exact ⟨rfl, .refl _⟩
    | ok x =>
      have hset := ((SlotsAlike.refl .empty).set .page x).set_token ht ht'
      cases rest with
      | nil => exact ⟨rfl, hset⟩
      | cons v rest => exact ⟨rfl, hset⟩

/-! ## Texts that differ in the token -/

def Spells (word : String) (t : Token) : Prop := Json.read word = ⟨t.json, true⟩

/-- Two texts that hold a session each, and differ in one place only, where each spells its token.  A text that holds none
is left out: how long its token is shows in what is said about its fault, which gives the line and the column. -/
structure TextAlike (text text' : String) : Prop where
  place : ∃ (front back word word' : String) (t t' : Token), t.Printable ∧ t'.Printable ∧ Spells word t ∧
    Spells word' t' ∧ text = front ++ word ++ back ∧ text' = front ++ word' ++ back
  value : ValueAlike (Json.read text).value (Json.read text').value
  ended : (Json.read text').ended = (Json.read text).ended
  opens : ∃ s, (read text).1 = .ok s

/-- **Texts that differ in the token** are read alike. -/
theorem read_alike {text text' : String} (h : TextAlike text text') :
    ∃ s s', (read text).1 = .ok s ∧ (read text').1 = .ok s' ∧ Alike s s' ∧ (read text').2 = (read text).2 := by
  obtain ⟨s, hs⟩ := h.opens
  have hgather : _ ∧ SlotsAlike ((shape (Json.topRoom - 1)).gather (Json.read text).value).1 _ := gather_alike h.value
  unfold read at hs ⊢
  dsimp only at hs ⊢
  rw [h.ended]
  generalize (shape (Json.topRoom - 1)).gather (Json.read text).value = p,
    (shape (Json.topRoom - 1)).gather (Json.read text').value = p' at hgather hs
  obtain ⟨slots, fault⟩ := p
  obtain ⟨slots', fault'⟩ := p'
  obtain ⟨hfault, hslots⟩ := hgather
  dsimp only at hfault hslots hs ⊢
  subst hfault
  cases fault' with
  | some e => cases hs
  | none =>
    dsimp only at hs ⊢
    split at hs
    case isTrue hended =>
      cases hs
      rw [if_pos hended, if_pos hended]
      exact ⟨_, _, rfl, rfl, hslots.ofSlots, hslots.unknownPage_eq⟩
    case isFalse => cases hs

theorem json_alike (page : Option ViewName) {t t' : Token} (h : t.Printable) (h' : t'.Printable) :
    ValueAlike (json ⟨page, some t⟩) (json ⟨page, some t'⟩) := by
  cases page with
  | none => exact .object (.cons (.token h h') .nil)
  | some v => exact .object (.cons (.same _) (.cons (.token h h') .nil))

theorem spells_compact (t : Token) : Spells t.json.compact t := Json.read_compact rfl

theorem render_token (page : Option ViewName) : ∃ front back : String, ∀ t : Token,
    render ⟨page, some t⟩ = front ++ t.json.compact ++ back := by
  have hrender : ∃ front back : List Char, ∀ t : Token,
      (json ⟨page, some t⟩).prettyChars 0 = front ++ t.json.compactChars ++ back := by
    cases page with
    | none =>
      exact ⟨'\x7b' :: Json.newLine 1 ++ Json.keyChars (some "token") ++ [':', ' '], Json.newLine 0 ++ ['\x7d'],
        fun t => by simp [json, Json.struct, Json.prettyChars, Json.prettyMembers, Token.json, Json.text]⟩
    | some v =>
      exact ⟨'\x7b' :: Json.newLine 1 ++ Json.keyChars (some "page") ++ ':' :: ' ' :: v.json.prettyChars 1 ++
        ',' :: Json.newLine 1 ++ Json.keyChars (some "token") ++ [':', ' '], Json.newLine 0 ++ ['\x7d'],
        fun t => by simp [json, Json.struct, Json.prettyChars, Json.prettyMembers, Token.json, Json.text]⟩
  obtain ⟨front, back, hchars⟩ := hrender
  refine ⟨String.ofList front, String.ofList back, fun t => ?_⟩
  unfold render Json.pretty Json.compact
  rw [hchars, String.ofList_append, String.ofList_append]

theorem textAlike_render (page : Option ViewName) {t t' : Token} (h : t.Printable) (h' : t'.Printable) :
    TextAlike (render ⟨page, some t⟩) (render ⟨page, some t'⟩) := by
  have hread : ∀ s : SessionState, Json.read s.render = ⟨s.json, true⟩ := fun s => Json.read_pretty s.legible_json
  obtain ⟨front, back, hrender⟩ := render_token page
  refine ⟨⟨front, back, _, _, t, t', h, h', spells_compact t, spells_compact t', hrender t, hrender t'⟩, ?_, ?_,
    _, congrArg Prod.fst (read_render _)⟩
  · rw [hread, hread]
    exact json_alike page h h'
  · rw [hread, hread]

/-- **What is saved** of two sessions that are alike is the same, or differs in the token. -/
theorem render_alike {s s' : SessionState} (h : Alike s s') : s'.render = s.render ∨ TextAlike s.render s'.render := by
  obtain ⟨page, token⟩ := s
  obtain ⟨page', token'⟩ := s'
  obtain ⟨hpage, htoken⟩ := h
  dsimp only at hpage htoken
  subst hpage
  cases htoken with
  | same => exact .inl rfl
  | other ht ht' => exact .inr (textAlike_render page' ht ht')

end SessionState

namespace SessionFile

open Disk (absolute destination)

def ContentAlike (content content' : ByteArray) : Prop :=
  ∃ text text' : String, content = text.toUTF8 ∧ content' = text'.toUTF8 ∧ SessionState.TextAlike text text'

/-- Two disks that differ only in the token of the session file that the segments lead to. -/
def Twins (segments : List String) (d d' : Disk) : Prop := Disk.Twins (destination [] segments) ContentAlike d d'

variable {cwd : Place} {path : String} {d d' : Disk}

/-- **The two files are loaded alike**, with the same events. -/
theorem Twins.loadFile (h : Twins (absolute cwd path) d d') :
    Matched SessionState.Alike (Storage.loadFile cwd path d).1 (Storage.loadFile cwd path d').1 ∧
      (Storage.loadFile cwd path d').2 = (Storage.loadFile cwd path d).2 := by
  have hread := Disk.Twins.read_matched h cwd path
  unfold Storage.loadFile Disk.readText
  generalize d.read cwd path = r, d'.read cwd path = r' at hread
  cases hread with
  | error e => exact ⟨.of_eq .refl rfl, rfl⟩
  | ok hb =>
    rcases hb with rfl | ⟨-, text, text', rfl, rfl, htext⟩
    · exact ⟨.of_eq .refl rfl, rfl⟩
    · have hutf8 : ∀ s : String, String.fromUTF8? s.toUTF8 = some s := fun s => dif_pos s.isValidUTF8
      obtain ⟨s, s', hs, hs', halike, hpage⟩ := SessionState.read_alike htext
      simp only [bind, Except.bind, hutf8]
      dsimp only [pure, Except.pure]
      rw [hpage, hs, hs']
      exact ⟨.ok halike, rfl⟩

/-- **Saving two sessions that are alike** goes the same way, and leaves twins. -/
theorem Twins.saveFile (h : Twins (absolute cwd path) d d') {s s' : SessionState} (hs : SessionState.Alike s s') :
    (Storage.saveFile cwd path s' d').1 = (Storage.saveFile cwd path s d).1 ∧
      Twins (absolute cwd path) (Storage.saveFile cwd path s d).2 (Storage.saveFile cwd path s' d').2 := by
  have hparents := Disk.Twins.makeParents_matched h cwd path
  unfold Storage.saveFile
  generalize d.makeParents cwd path = r, d'.makeParents cwd path = r' at hparents
  cases hparents with
  | error e => exact ⟨rfl, h⟩
  | @ok d₁ d₁' h₁ =>
    have hcontent : s'.render.toUTF8 = s.render.toUTF8 ∨ destination [] (absolute cwd path) =
        destination [] (absolute cwd path) ∧ ContentAlike s.render.toUTF8 s'.render.toUTF8 := by
      rcases SessionState.render_alike hs with he | htext
      · exact .inl (congrArg String.toUTF8 he)
      · exact .inr ⟨rfl, s.render, s'.render, rfl, rfl, htext⟩
    have hwrite : Matched _ (d₁.write cwd path s.render.toUTF8 _ _) (d₁'.write cwd path s'.render.toUTF8 _ _) :=
      h₁.write_matched hcontent Storage.privateMode (some Storage.privateMode)
    dsimp only
    generalize d₁.write cwd path s.render.toUTF8 Storage.privateMode (some Storage.privateMode) = r,
      d₁'.write cwd path s'.render.toUTF8 Storage.privateMode (some Storage.privateMode) = r' at hwrite
    cases hwrite with
    | error e => exact ⟨rfl, h₁⟩
    | ok h₂ => exact ⟨rfl, h₂⟩

end SessionFile
end CalcConsole
