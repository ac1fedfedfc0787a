import Mathlib.Data.List.DropRight
import Mathlib.Data.List.TakeWhile
import CalcConsole.Service.Client
/-! # Addresses

Where the address of a service is one of the web, so is the address of each resource behind it: the slashes that are
dropped at its end never belong to the host, and the resource begins with one. -/
namespace CalcConsole

theorem Client.dropSlashes_append {front : List Char} (h : ∀ c, front.getLast? = some c → c ≠ '/')
    (back : List Char) : dropSlashes (front ++ back) = front ++ dropSlashes back := by
  have hfront : front.reverse.dropWhile (· == '/') = front.reverse := by
    rw [List.getLast?_eq_head?_reverse] at h
    cases hr : front.reverse with
    | nil => rfl
    | cons c cs =>
      rw [hr] at h
      exact List.dropWhile_cons_of_neg (by simpa using h c rfl)
  unfold dropSlashes
  rw [List.reverse_append, List.dropWhile_append, hfront]
  split
  · rename_i hempty
    rw [List.isEmpty_iff.mp hempty, List.reverse_reverse, List.reverse_nil, List.append_nil]
  · rw [List.reverse_append, List.reverse_reverse]

theorem Client.head_dropSlashes {cs t : List Char} {c : Char} (h : dropSlashes cs = c :: t) : ∃ t', cs = c :: t' := by
  have hpre : dropSlashes cs <+: cs := by
    have hsuffix : cs.reverse.dropWhile (· == '/') <:+ cs.reverse := List.dropWhile_suffix _
    rw [← List.reverse_prefix, List.reverse_reverse] at hsuffix
    exact hsuffix
  obtain ⟨rest, hrest⟩ := hpre
  rw [h] at hrest
  exact ⟨t ++ rest, hrest.symm⟩

theorem Client.exists_dropSlashes_append (cs : List Char) : ∃ n, dropSlashes cs ++ List.replicate n '/' = cs := by
  have hslashes : ∀ c ∈ cs.rtakeWhile (· == '/'), c = '/' :=
    fun c hc => beq_iff_eq.mp (List.mem_rtakeWhile_imp (p := (· == '/')) hc)
  refine ⟨(cs.rtakeWhile (· == '/')).length, ?_⟩
  rw [← List.eq_replicate_of_mem hslashes]
  exact List.rdropWhile_append_rtakeWhile ..

theorem Client.getLast?_dropSlashes (cs : List Char) : (dropSlashes cs).getLast? ≠ some '/' := by
  intro h
  have hne : dropSlashes cs ≠ [] := List.ne_nil_of_mem (List.mem_of_getLast? h)
  rw [List.getLast?_eq_getLast_of_ne_nil hne, Option.some_inj] at h
  exact List.rdropWhile_last_not (· == '/') cs hne (beq_iff_eq.mpr h)

namespace Url

theorem afterScheme?_eq_some {cs rest : List Char} (h : afterScheme? cs = some rest) :
    ∃ scheme, cs = scheme ++ rest ∧ ∀ rest', afterScheme? (scheme ++ rest') = some rest' := by
  unfold afterScheme? at h
  split at h
  · rename_i hplain
    cases h
    refine ⟨cs.take 7, (List.take_append_drop 7 cs).symm, fun rest' => ?_⟩
    have hlen : (cs.take 7).length = 7 := by simpa using congrArg List.length hplain
    unfold afterScheme?
    rw [List.take_left' hlen, List.drop_left' hlen, if_pos hplain]
  · split at h
    · rename_i hsecure
      cases h
      refine ⟨cs.take 8, (List.take_append_drop 8 cs).symm, fun rest' => ?_⟩
      have hlen : (cs.take 8).length = 8 := by simpa using congrArg List.length hsecure
      -- the seventh character is a slash under either scheme, and the sixth only under the plain one
      have hother : ((cs.take 8 ++ rest').take 7).map Char.toLower ≠ "http://".toList := by
        rw [List.take_append_of_le_length (by omega), List.map_take, hsecure]
        decide
      unfold afterScheme?
      rw [if_neg hother, List.take_left' hlen, List.drop_left' hlen, if_pos hsecure]
    · cases h

/-- The characters begin as an address of the web, with a host. -/
def Opens (cs : List Char) : Prop :=
  ∃ rest, afterScheme? cs = some rest ∧ rest.takeWhile (!isHostEnd ·) ≠ [] ∧
    (rest.takeWhile (!isHostEnd ·)).any (fun c => c.toNat ≤ 0x20) = false

theorem read?_isSome_iff (s : String) : (read? s).isSome ↔ Opens s.toList := by
  unfold read? Opens
  cases afterScheme? s.toList with
  | none => simp
  | some rest =>
    dsimp only
    constructor
    · intro h
      split at h
      · cases h
      · rename_i hhost
        rw [Bool.or_eq_true, not_or, List.isEmpty_iff] at hhost
        exact ⟨rest, rfl, hhost.1, Bool.eq_false_iff.mpr hhost.2⟩
    · rintro ⟨_, hrest, hhost, hshown⟩
      cases hrest
      rw [if_neg]
      · rfl
      · rw [Bool.or_eq_true, not_or, List.isEmpty_iff]
        exact ⟨hhost, by rw [hshown]; decide⟩

theorem Opens.resource {cs : List Char} (h : Opens cs) (rest : List Char) :
    Opens (Client.dropSlashes cs ++ '/' :: rest) := by
  obtain ⟨behind, hscheme, hhost, hshown⟩ := h
  obtain ⟨scheme, rfl, hafter⟩ := afterScheme?_eq_some hscheme
  -- the host, and what stands behind it
  obtain ⟨host, tail, rfl, hends, hstart⟩ : ∃ host tail, behind = host ++ tail ∧
      (∀ c ∈ host, (!isHostEnd c) = true) ∧ ∀ c t, tail = c :: t → isHostEnd c = true := by
    refine ⟨behind.takeWhile (!isHostEnd ·), behind.dropWhile (!isHostEnd ·), List.takeWhile_append_dropWhile.symm,
      fun c hc => List.mem_takeWhile_imp (p := (!isHostEnd ·)) hc, ?_⟩
    intro c t hct
    have hhead := List.head_dropWhile_not (p := (!isHostEnd ·)) (l := behind) (by rw [hct]; simp)
    simpa [hct] using hhead
  have hwhile : ∀ back : List Char, (∀ c t, back = c :: t → isHostEnd c = true) →
      (host ++ back).takeWhile (!isHostEnd ·) = host := by
    intro back hback
    rw [List.takeWhile_append_of_pos hends]
    cases back with
    | nil => exact List.append_nil _
    | cons c t => rw [List.takeWhile_cons_of_neg (by rw [hback c t rfl]; decide), List.append_nil]
  rw [hwhile tail hstart] at hhost hshown
  have hlast : ∀ c, (scheme ++ host).getLast? = some c → c ≠ '/' := by
    rintro c hc rfl
    rw [List.getLast?_append, Option.or_of_isSome (List.getLast?_isSome.mpr hhost)] at hc
    have hend := hends '/' (List.mem_of_getLast? hc)
    cases hend
  have hback : ∀ c t, Client.dropSlashes tail ++ '/' :: rest = c :: t → isHostEnd c = true := by
    intro c t hct
    cases htail : Client.dropSlashes tail with
    | nil =>
      rw [htail] at hct
      cases hct
      rfl
    | cons d ds =>
      obtain ⟨t', ht'⟩ := Client.head_dropSlashes htail
      rw [htail] at hct
      cases hct
      exact hstart _ t' ht'
  rw [← List.append_assoc, Client.dropSlashes_append hlast, List.append_assoc, List.append_assoc]
  refine ⟨_, hafter _, ?_, ?_⟩
  · rw [hwhile _ hback]
    exact hhost
  · rw [hwhile _ hback]
    exact hshown

/-- **A resource has an address** where the service has one. -/
theorem read?_resource {url resource : String} (h : (read? url).isSome) (timeout : Nat)
    (hr : resource.toList.head? = some '/') : (read? ((Client.make url timeout).baseUrl ++ resource)).isSome := by
  rw [read?_isSome_iff] at h ⊢
  obtain ⟨rest, hrest⟩ := List.head?_eq_some_iff.mp hr
  rw [String.toList_append, hrest]
  unfold Client.make
  rw [String.toList_ofList]
  exact h.resource rest

end Url
end CalcConsole
