import PatchReview.Json.Writer
import PatchReview.Proofs.Text.Surrogate

/-!
# Written texts

Escapes are made of ASCII, so a text that is written comes out as whole as it
was.
-/

namespace PatchReview.Json

open Text (isBroken isStandIn isBroken_eq_false)

theorem isStandIn_of_mem_hexDigits (h : d ∈ Text.hexDigits width n) : isStandIn d = false := by
  induction width generalizing n with
  | zero => cases h
  | succ width ih =>
    obtain before | last := List.mem_append.mp h
    · exact ih before
    · have digits : ∀ r < 16, isStandIn (Nat.digitChar r) = false := by decide
      rw [List.mem_singleton.mp last]
      exact digits (n % 16) (Nat.mod_lt n (by decide))

theorem isStandIn_of_mem_unitEscape (h : d ∈ unitEscape unit) : isStandIn d = false := by
  simp only [unitEscape, List.mem_cons] at h
  obtain rfl | rfl | digit := h
  · decide
  · decide
  · exact isStandIn_of_mem_hexDigits digit

theorem isStandIn_of_mem_escapeChar (h : isStandIn c = false) (hd : d ∈ escapeChar c) :
    isStandIn d = false := by
  have pair : ∀ {l}, isStandIn l = false → d ∈ ['\\', l] → isStandIn d = false := by
    intro l hl hd
    obtain rfl | hd := List.mem_cons.mp hd
    · decide
    · rw [List.mem_singleton.mp hd]
      exact hl
  -- The escapes of one letter, the character itself, and the escapes by number.
  dsimp only [escapeChar] at hd
  repeat' split at hd
  all_goals first
    | exact pair (by decide) hd
    | exact List.mem_singleton.mp hd ▸ h
    | exact isStandIn_of_mem_unitEscape hd
    | exact (List.mem_append.mp hd).elim isStandIn_of_mem_unitEscape isStandIn_of_mem_unitEscape

theorem isStandIn_of_mem_denseChar (h : isStandIn c = false) (hd : d ∈ denseChar c) :
    isStandIn d = false := by
  unfold denseChar at hd
  split at hd
  · exact isStandIn_of_mem_escapeChar h hd
  · rw [List.mem_singleton.mp hd]
    exact h

theorem isBroken_denseString (h : isBroken s = false) : isBroken (denseString s) = false := by
  refine isBroken_eq_false.mpr fun d hd => ?_
  simp only [denseString, String.toList_ofList, List.cons_append, List.mem_cons, List.mem_append,
    List.mem_flatMap, List.not_mem_nil, or_false] at hd
  rcases hd with rfl | ⟨c, hc, hd⟩ | rfl
  · decide
  · exact isStandIn_of_mem_denseChar (isBroken_eq_false.mp h c hc) hd
  · decide

end PatchReview.Json
