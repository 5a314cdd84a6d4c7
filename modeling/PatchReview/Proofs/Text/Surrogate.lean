import PatchReview.Text.Surrogate

/-!
# Texts without surrogates

Halves of surrogate pairs are rare: a text put together from texts without them
has none, and neither do numerals.
-/

namespace PatchReview.Text

theorem isStandIn_of_lt (h : c.toNat < 0x10D800) : isStandIn c = false := by
  have : ¬ (0x10D800 ≤ c.toNat) := by omega
  simp [isStandIn, surrogate?, this]

theorem isBroken_append (hs : isBroken s = false) (ht : isBroken t = false) :
    isBroken (s ++ t) = false := by
  simp_all [isBroken]

theorem isBroken_eq_false : isBroken s = false ↔ ∀ c ∈ s.toList, isStandIn c = false := by
  simp [isBroken]

theorem isBroken_ofList (h : l.any isStandIn = false) : isBroken (String.ofList l) = false := by
  rw [isBroken, String.toList_ofList, h]

theorem isBroken_append_ofList (hs : isBroken s = false) (h : l.any isStandIn = false) :
    isBroken (s ++ String.ofList l) = false :=
  isBroken_append hs (isBroken_ofList h)

theorem isBroken_toString (n : Nat) : isBroken (toString n) = false := by
  refine isBroken_eq_false.mpr fun c hc => isStandIn_of_lt ?_
  have digit : c.isDigit = true := by
    rw [Nat.toString_eq_repr, Nat.toList_repr] at hc
    exact Nat.isDigit_of_mem_toDigits (by decide) (by decide) hc
  have high : c.toNat ≤ 57 := (Char.isDigit_iff_toNat.mp digit).2
  omega

end PatchReview.Text
