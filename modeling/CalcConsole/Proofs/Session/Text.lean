import CalcConsole.Proofs.Json.Records
import CalcConsole.Session.State
/-! # The text of a session

What is written of a session reads back as the same page and the same token, whatever the characters of the token
are. -/
namespace CalcConsole

theorem ViewName.ofWord?_name (v : ViewName) : ofWord? v.name = some v := by
  cases v <;> decide

namespace SessionState

def members (s : SessionState) : List (String × String) :=
  (s.page.toList.map fun v => ("page", v.name)) ++ s.token.toList.map fun t => ("token", t.text)

theorem json_eq (s : SessionState) : s.json = .object (s.members.map fun m => (some m.1, .text m.2)) := by
  unfold json members Json.struct
  rw [List.map_append, List.map_append, List.map_map, List.map_map, List.map_map, List.map_map]
  rfl

theorem legible_json (s : SessionState) : Json.Legible s.json := by
  rw [json_eq, Json.Legible]
  exact Json.legibleMembers_map fun _ _ => rfl

theorem decode_name (room : Nat) (v : ViewName) : Page.decode room (.text v.name) = .ok (.view v) := by
  unfold Page.decode Json.text
  simp only [ViewName.ofWord?_name]
  rfl

theorem scan_members (room : Nat) (s : SessionState) : ∃ slots,
    (shape room).scan .empty (s.members.map fun m => (some m.1, .text m.2)) = (slots, none) ∧
      ofSlots slots = s ∧ unknownPage slots = none := by
  obtain ⟨page, token⟩ := s
  cases page with
  | none => cases token <;> exact ⟨_, rfl, rfl, rfl⟩
  | some v =>
    have hpage : (shape room).decode .page (.text v.name) = .ok (.view v) := decode_name room v
    cases token with
    | none => exact ⟨_, Json.Shape.scan_cons rfl rfl hpage [], rfl, rfl⟩
    | some t => exact ⟨_, Json.Shape.scan_cons rfl rfl hpage [(some "token", .text t.text)], rfl, rfl⟩

/-- **A session reads back from its text.** -/
theorem read_render (s : SessionState) : read s.render = (.ok s, none) := by
  obtain ⟨slots, hscan, hslots, hpage⟩ := scan_members (Json.topRoom - 1) s
  have hgather : (shape (Json.topRoom - 1)).gather s.json = (slots, none) := by
    rw [json_eq]
    exact hscan
  unfold read render
  rw [Json.read_pretty s.legible_json]
  dsimp only
  rw [hgather]
  dsimp only
  rw [hslots, hpage]
  rfl

end SessionState
end CalcConsole
