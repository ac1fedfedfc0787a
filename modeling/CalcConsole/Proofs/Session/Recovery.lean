import CalcConsole.Proofs.Json.Objects
import CalcConsole.Proofs.Session.Durability
/-! # Files that anything may stand in

A session file is read whatever stands in it.  `Records` says which texts give a session: a page may be any value at all,
and one that names no view is as good as none, but every other fault costs the whole session.  Whatever was read, the
next save leaves a file that records just what is in memory (`opens_what_is_recorded`). -/
namespace CalcConsole

open Json (Keyed under)

/-! ## Pages and tokens -/

namespace ViewName

def short : ViewName → String
  | expressions => "expression"
  | operations => "operation"
  | agents => "agent"
  | login => "auth"

/-- Whether a word spells the name of a view or its short form, in any mix of capital and small letters. -/
def Called (v : ViewName) (word : String) : Prop :=
  Text.lowerAscii word = Text.lowerAscii v.name ∨ Text.lowerAscii word = v.short

theorem lowerAscii_name (v : ViewName) : Text.lowerAscii v.name =
    match v with
    | expressions => "expressions"
    | operations => "operations"
    | agents => "agents"
    | login => "login" := by
  cases v <;> decide

/-- **A word names** the view that is called by it. -/
theorem ofWord?_eq_some_iff {word : String} {v : ViewName} : ofWord? word = some v ↔ v.Called word := by
  unfold ofWord? Called
  rw [lowerAscii_name]
  generalize Text.lowerAscii word = w
  -- the eight words differ, so none of them is taken by an earlier branch
  cases v <;> dsimp only [short] <;> grind

end ViewName

namespace SessionState

def Page.ofJson : Json → Page
  | .null => .unset
  | .string (some word) =>
    match ViewName.ofWord? word with
    | some v => .view v
    | none => .unknown (.text word)
  | v => .unknown v

/-- **Any value is a page**, if it can be kept. -/
theorem Page.decode_eq (room : Nat) (v : Json) :
    decode room v = if v.storable room then .ok (ofJson v) else .error .malformed := by
  unfold decode
  cases v with
  | null => rfl
  | string s =>
    cases s with
    | none => rfl
    | some word =>
      dsimp only [ofJson]
      cases ViewName.ofWord? word <;> rfl
  | _ =>
    dsimp only [ofJson]
    cases Json.storable room _ <;> rfl

/-- **A page is a view** just if it is a string that calls the view. -/
theorem Page.view?_ofJson {v : Json} {w : ViewName} :
    (ofJson v).view? = some w ↔ ∃ word, v = .text word ∧ w.Called word := by
  cases v with
  | string s =>
    cases s with
    | none => simp [ofJson, view?, Json.text]
    | some word =>
      have hcalled : ViewName.ofWord? word = some w ↔ w.Called word := ViewName.ofWord?_eq_some_iff
      dsimp only [ofJson]
      cases hword : ViewName.ofWord? word with
      | none => simp [view?, Json.text, ← hcalled, hword]
      | some u => simp [view?, Json.text, ← hcalled, hword]
  | _ => simp [ofJson, view?, Json.text]

theorem decodeOption_token_iff {v : Json} {o : Option Token} : Json.decodeOption Token.decode v = .ok o ↔
    v = .null ∧ o = none ∨ ∃ t : Token, v = .text t.text ∧ o = some t := by
  cases v with
  | null => simp [Json.decodeOption, Json.text, eq_comm]
  | string s =>
    cases s with
    | none => simp [Json.decodeOption, Token.decode, Json.decodeString, Json.text, Except.map]
    | some word =>
      simp only [Json.decodeOption, Token.decode, Json.decodeString, Json.text, Except.map, Except.ok.injEq]
      constructor
      · rintro rfl
        exact .inr ⟨⟨word⟩, rfl, rfl⟩
      · rintro (⟨h, -⟩ | ⟨t, h, rfl⟩)
        · cases h
        · cases h
          rfl
  | _ => simp [Json.decodeOption, Token.decode, Json.decodeString, Json.text, Except.map]

theorem field?_shape {room : Nat} {f : Field} (k : String) :
    (shape room).field? k = some f ↔ k = (shape room).key f := by
  simp only [Json.Shape.field?, shape, List.find?]
  cases f <;> grind

/-! ## What a text records -/

/-- The token that an object gives: none, or null in its place, or a string. -/
inductive GivesToken (ms : List Json.Member) : Option Token → Prop
  | missing (h : under "token" ms = []) : GivesToken ms none
  | null (h : under "token" ms = [.null]) : GivesToken ms none
  | text (t : Token) (h : under "token" ms = [.text t.text]) : GivesToken ms (some t)

/-- What a text records of a session: it is an object that gives a page, or none, and a token, or none, whatever else
it holds.  The page may be any value that can be kept. -/
inductive Records (text : String) (page : Option Json) (token : Option Token) : Prop
  | object {ms : List Json.Member} (read : Json.read text = ⟨.object ms, true⟩) (keyed : Keyed ms)
    (onePage : under "page" ms = page.toList) (storable : ∀ v ∈ page, v.storable (Json.topRoom - 1) = true)
    (oneToken : GivesToken ms token)

theorem given_shape (room : Nat) (f : Field) (ms : List Json.Member) :
    (shape room).given f ms = under ((shape room).key f) ms := Json.Shape.given_eq_under field?_shape ms

theorem fills_page_iff {room : Nat} {ms : List Json.Member} {p : Option Page} :
    (shape room).Fills ms .page none p ↔ ∃ page : Option Json, under "page" ms = page.toList ∧
      (∀ v ∈ page, v.storable room = true) ∧ p = page.map Page.ofJson := by
  have hgiven : (shape room).given .page ms = under "page" ms := given_shape room .page ms
  have hdecode : ∀ v, (shape room).decode .page v = _ := Page.decode_eq room
  cases p with
  | none =>
    rw [Json.Shape.fills_none_iff, hgiven]
    constructor
    · intro h
      exact ⟨none, h, nofun, rfl⟩
    · rintro ⟨_ | v, h, -, hp⟩
      · exact h
      · cases hp
  | some p =>
    rw [Json.Shape.fills_some_iff, hgiven]
    constructor
    · rintro ⟨v, h, hv⟩
      rw [hdecode] at hv
      split at hv
      · next hstorable =>
        cases hv
        refine ⟨some v, h, fun w hw => ?_, rfl⟩
        cases hw
        exact hstorable
      · cases hv
    · rintro ⟨_ | v, h, hstorable, hp⟩
      · cases hp
      · cases hp
        exact ⟨v, h, by rw [hdecode, if_pos (hstorable v rfl)]⟩

theorem fills_token_iff {room : Nat} {ms : List Json.Member} {token : Option Token} :
    (∃ t, (shape room).Fills ms .token none t ∧ t.join = token) ↔ GivesToken ms token := by
  have hgiven : (shape room).given .token ms = under "token" ms := given_shape room .token ms
  constructor
  · rintro ⟨_ | t, h, rfl⟩
    · rw [Json.Shape.fills_none_iff, hgiven] at h
      exact .missing h
    · rw [Json.Shape.fills_some_iff, hgiven] at h
      obtain ⟨v, h, hv⟩ := h
      rcases decodeOption_token_iff.mp hv with ⟨rfl, rfl⟩ | ⟨u, rfl, rfl⟩
      · exact .null h
      · exact .text u h
  · rintro (h | h | ⟨t, h⟩)
    · exact ⟨none, by rw [Json.Shape.fills_none_iff, hgiven]; exact h, rfl⟩
    · refine ⟨some none, ?_, rfl⟩
      rw [Json.Shape.fills_some_iff, hgiven]
      exact ⟨_, h, decodeOption_token_iff.mpr (.inl ⟨rfl, rfl⟩)⟩
    · refine ⟨some (some t), ?_, rfl⟩
      rw [Json.Shape.fills_some_iff, hgiven]
      exact ⟨_, h, decodeOption_token_iff.mpr (.inr ⟨t, rfl, rfl⟩)⟩

theorem fst_read_eq_ok_iff {text : String} {s : SessionState} : (read text).1 = .ok s ↔
    (Json.read text).ended = true ∧
      ∃ slots, (shape (Json.topRoom - 1)).slots (Json.read text).value = .ok slots ∧ s = ofSlots slots := by
  unfold read
  simp only [Json.Shape.slots_eq_ok_iff]
  generalize (shape (Json.topRoom - 1)).gather (Json.read text).value = p
  obtain ⟨slots, _ | e⟩ := p
  · cases (Json.read text).ended <;> simp [eq_comm]
  · simp

/-- **A text that records a session** reads as it, with the view that the page calls. -/
theorem Records.fst_read {text : String} {page : Option Json} {token : Option Token} (h : Records text page token) :
    (SessionState.read text).1 = .ok ⟨(page.map Page.ofJson).bind Page.view?, token⟩ := by
  obtain ⟨hread, hkeys, hpage, hstorable, htoken⟩ := h
  obtain ⟨t, ht, rfl⟩ := fills_token_iff.mpr htoken
  rw [fst_read_eq_ok_iff, hread]
  refine ⟨rfl, Field.rec (page.map Page.ofJson) t, ?_, rfl⟩
  refine Json.Shape.slots_object_iff.mpr ⟨hkeys, Json.Shape.othersIntact_of_read _ hread, fun f => ?_⟩
  cases f with
  | page => exact fills_page_iff.mpr ⟨page, hpage, hstorable, rfl⟩
  | token => exact ht

/-- **What reads as a session** is an array, or records one. -/
theorem records_of_read {text : String} {s : SessionState} (h : (read text).1 = .ok s) :
    (∃ items, Json.read text = ⟨.array items, true⟩) ∨ ∃ page token, Records text page token := by
  obtain ⟨hended, slots, hslots, -⟩ := fst_read_eq_ok_iff.mp h
  have hdocument : Json.read text = ⟨(Json.read text).value, true⟩ := by rw [← hended]
  cases hv : (Json.read text).value with
  | array items =>
    rw [hv] at hdocument
    exact .inl ⟨items, hdocument⟩
  | object ms =>
    rw [hv] at hdocument hslots
    obtain ⟨hkeys, -, hfills⟩ := Json.Shape.slots_object_iff.mp hslots
    obtain ⟨page, hpage, hstorable, -⟩ := fills_page_iff.mp (hfills .page)
    exact .inr ⟨page, _, .object hdocument hkeys hpage hstorable (fills_token_iff.mp ⟨_, hfills .token, rfl⟩)⟩
  | _ =>
    rw [hv] at hslots
    cases hslots

/-- **What is written of a session** records it. -/
theorem records_render (s : SessionState) : Records s.render (s.page.map ViewName.json) s.token := by
  have hread : Json.read s.render = ⟨s.json, true⟩ := Json.read_pretty s.legible_json
  refine .object hread (Json.keyed_struct _) ?_ ?_ ?_
  · obtain ⟨_ | v, _ | t⟩ := s <;> rfl
  · obtain ⟨_ | v, token⟩ := s
    · exact nofun
    · rintro _ ⟨rfl⟩
      rfl
  · obtain ⟨_ | v, _ | t⟩ := s
    · exact .missing rfl
    · exact .text t rfl
    · exact .missing rfl
    · exact .text t rfl

end SessionState

/-! ## Opening a file -/

theorem Storage.opens_file_of_readText {cwd : Place} {path text : String} {d : Disk}
    (h : d.readText cwd path = .ok text) :
    (file cwd path).opens d = (SessionState.read text).1.toOption.getD .empty := by
  unfold opens file
  dsimp only
  unfold loadFile
  rw [h]
  dsimp only
  cases (SessionState.read text).1 <;> rfl

namespace Session

open SessionState (Records)

variable {cwd : Place} {path : String} {k : Console Disk}

/-- **A session opens with what its file records**, and so with the token also where the page is no page at all.  A file
that is no array and records nothing opens as the empty session: one that is missing, or no text, or not well formed, or
gives a page or a token twice, or a token that is none.  After any changes, the next one that is saved leaves a file that
records the state in memory, and reads as it. -/
theorem opens_what_is_recorded (cwd : Place) (path : String) (k : Console Disk) :
    (∀ text page token, k.store.readText cwd path = .ok text → Records text page token →
      (Session.«open» (Storage.file cwd path) k).1.token = token ∧
      ∀ v : ViewName, (Session.«open» (Storage.file cwd path) k).1.state.page = some v ↔
        ∃ word, page = some (.text word) ∧ v.Called word) ∧
    ((∀ text, k.store.readText cwd path = .ok text →
        (∀ items, Json.read text ≠ ⟨.array items, true⟩) ∧ ∀ page token, ¬ Records text page token) →
      (Session.«open» (Storage.file cwd path) k).1.state = .empty) ∧
    ∀ cs c, answer (changed (Storage.file cwd path) k cs) c = .ok () →
      ∀ p, p = changed (Storage.file cwd path) k (cs ++ [c]) →
        p.2.store.readText cwd path = .ok p.1.state.render ∧
        Records p.1.state.render (p.1.state.page.map ViewName.json) p.1.state.token ∧
        SessionState.read p.1.state.render = (.ok p.1.state, none) := by
  rw [Session.open_fst]
  refine ⟨fun text page token htext hrecords => ?_, fun h => ?_, ?_⟩
  · rw [Storage.opens_file_of_readText htext, hrecords.fst_read]
    refine ⟨rfl, fun v => ?_⟩
    show (page.map SessionState.Page.ofJson).bind SessionState.Page.view? = some v ↔ _
    cases page with
    | none => simp
    | some value => simpa using SessionState.Page.view?_ofJson
  · show (Storage.file cwd path).opens k.store = .empty
    cases htext : k.store.readText cwd path with
    | error e =>
      refine Storage.opens_file_of_unreadable fun text hok => ?_
      rw [htext] at hok
      cases hok
    | ok text =>
      obtain ⟨harray, hnothing⟩ := h text htext
      rw [Storage.opens_file_of_readText htext]
      cases hread : (SessionState.read text).1 with
      | error e => rfl
      | ok s =>
        rcases SessionState.records_of_read hread with ⟨items, hitems⟩ | ⟨page, token, hrecords⟩
        · exact absurd hitems (harray items)
        · exact absurd hrecords (hnothing page token)
  · rintro cs c hc p rfl
    refine ⟨?_, SessionState.records_render _, SessionState.read_render _⟩
    have hstorage := storage_changed (Storage.file cwd path) k cs
    rw [changed_concat]
    unfold answer at hc
    unfold use change at *
    dsimp only at hc ⊢
    rw [hstorage] at hc ⊢
    obtain ⟨hs, hholds⟩ := Storage.saveFile_ok hc
    exact hholds.readText hs

/-! ### A page that is an object -/

def diskWith (text : String) : Console Disk :=
  ⟨⟨[(["home"], .folder), (["home", "default.json"], .file text.toUTF8 0o600)]⟩, ⟨[], .refused, []⟩, []⟩

theorem readText_diskWith (text : String) : (diskWith text).store.readText ["home"] "default.json" = .ok text :=
  Disk.Holds.readText ⟨by rfl, 0o600, by rfl⟩ (by unfold Disk.Speakable; decide +kernel)

def oddPage : Json := .struct [("x", .null), ("page", .array [.object []]), ("token", .text "abc")]

theorem opens_what_is_recorded_odd_page :
    (diskWith oddPage.compact).store.readText ["home"] "default.json" = .ok oddPage.compact ∧
    Records oddPage.compact (some (.array [.object []])) (some ⟨"abc"⟩) ∧
    (Session.«open» (Storage.file ["home"] "default.json") (diskWith oddPage.compact)).1.token = some ⟨"abc"⟩ ∧
    (Session.«open» (Storage.file ["home"] "default.json") (diskWith oddPage.compact)).1.state.page = none := by
  have htext := readText_diskWith oddPage.compact
  have hread : Json.read oddPage.compact = ⟨oddPage, true⟩ :=
    Json.read_compact ⟨rfl, trivial, rfl, ⟨trivial, trivial⟩, rfl, rfl, trivial⟩
  have hrecords : Records oddPage.compact (some (.array [.object []])) (some ⟨"abc"⟩) :=
    .object hread (Json.keyed_struct _) rfl (by rintro _ ⟨rfl⟩; decide) (.text ⟨"abc"⟩ rfl)
  obtain ⟨htoken, hpage⟩ := (opens_what_is_recorded ["home"] "default.json" (diskWith oddPage.compact)).1
    _ _ _ htext hrecords
  refine ⟨htext, hrecords, htoken, Option.eq_none_iff_forall_ne_some.mpr fun v hv => ?_⟩
  obtain ⟨word, hword, -⟩ := (hpage v).mp hv
  cases hword

end Session
end CalcConsole
