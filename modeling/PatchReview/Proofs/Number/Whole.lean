import Mathlib.Tactic.Linarith
import PatchReview.Proofs.Number.Order

/-!
# Whole numbers as double-precision ones

A whole number of at most 53 bits is taken over as it is. A longer one may be rounded, and it
stays a large one. So no whole number is rounded over zero or one (`toRat?_ofInt?`).
-/

namespace PatchReview.Binary64

variable {num : Nat}

theorem le_nearest (num den : Nat) : num / den ≤ nearest num den := by
  simp only [nearest]
  split
  · exact Nat.le_refl _
  · split <;> omega

theorem nearest_one (num : Nat) : nearest num 1 = num := by
  simp [nearest, Nat.mod_one]

theorem le_overPower (some : num ≠ 0) :
    2 ^ 52 ≤ (overPower num 1 (num.log2 - 52)).1 / (overPower num 1 (num.log2 - 52)).2 := by
  have low := Nat.log2_self_le some
  unfold overPower
  split
  · next up =>
    have parts : num.log2 = 52 + ((num.log2 : Int) - 52).toNat := by omega
    rw [Nat.one_mul, Nat.pow_eq, Nat.le_div_iff_mul_le (Nat.two_pow_pos _), ← Nat.pow_add, ← parts]
    exact low
  · next down =>
    have parts : num.log2 + (-((num.log2 : Int) - 52)).toNat = 52 := by omega
    rw [Nat.div_one, Nat.pow_eq, ← parts, Nat.pow_add]
    exact Nat.mul_le_mul_right _ low

theorem exponentFor_one (some : num ≠ 0) : exponentFor num 1 = num.log2 - 52 := by
  have enough := le_overPower some
  have one : Nat.log2 1 = 0 := by decide
  simp only [exponentFor, one, Int.natCast_zero, Int.sub_zero]
  rw [if_neg (by simpa using enough), leastExponent]
  omega

theorem overPower_of_short (short : num.log2 ≤ 52) :
    overPower num 1 (num.log2 - 52) = (num * 2 ^ (52 - num.log2), 1) := by
  unfold overPower
  split
  · have full : num.log2 = 52 := by omega
    simp [full]
  · have places : (-((num.log2 : Int) - 52)).toNat = 52 - num.log2 := by omega
    rw [places, Nat.pow_eq]

theorem ofRatio_of_short (negative : Bool) (some : num ≠ 0) (short : num.log2 ≤ 52) :
    ofRatio negative num 1 =
      .finite negative (num * 2 ^ (52 - num.log2)) (num.log2 - 52) := by
  have below : num * 2 ^ (52 - num.log2) ≠ Nat.pow 2 53 := by
    have fits : num * 2 ^ (52 - num.log2) < 2 ^ (num.log2 + 1) * 2 ^ (52 - num.log2) :=
      Nat.mul_lt_mul_of_pos_right Nat.lt_log2_self (Nat.two_pow_pos _)
    have places : num.log2 + 1 + (52 - num.log2) = 53 := by omega
    rw [← Nat.pow_add, places] at fits
    exact Nat.ne_of_lt fits
  have inRange : ¬ greatestExponent < num.log2 - 52 := by
    rw [greatestExponent]
    omega
  simp only [ofRatio, if_neg some, exponentFor_one some, overPower_of_short short, nearest_one,
    if_neg below, if_neg inRange]

theorem ofRatio_of_long (negative : Bool) (some : num ≠ 0) (long : 52 < num.log2) :
    ofRatio negative num 1 = .infinite negative ∨
      ∃ mantissa exponent, ofRatio negative num 1 = .finite negative mantissa exponent ∧
        2 ^ 52 ≤ mantissa ∧ 0 < exponent := by
  have many := Nat.le_trans (le_overPower some) (le_nearest _ _)
  simp only [ofRatio, if_neg some, exponentFor_one some]
  split
  -- A mantissa that is rounded up to 54 bits is halved.
  · dsimp only
    split
    · exact .inl rfl
    · exact .inr ⟨_, _, rfl, Nat.le_refl _, by omega⟩
  · dsimp only
    split
    · exact .inl rfl
    · exact .inr ⟨_, _, rfl, many, by omega⟩

theorem two_le_of_long {mantissa : Nat} {exponent : Int} (many : 2 ^ 52 ≤ mantissa)
    (up : 0 < exponent) : (2 : ℚ) ≤ mantissa * 2 ^ exponent := by
  have two : (2 : ℚ) ≤ mantissa := by
    exact_mod_cast Nat.le_trans (by decide) many
  have one : (1 : ℚ) ≤ 2 ^ exponent := one_le_zpow₀ one_le_two up.le
  calc (2 : ℚ) = 2 * 1 := by norm_num
    _ ≤ mantissa * 2 ^ exponent := mul_le_mul two one zero_le_one (by linarith)

theorem signed_natAbs_mul (n : Int) (factor : Nat) :
    signed (n < 0) (n.natAbs * factor) = n * factor := by
  by_cases below : n < 0
  · simp [signed, below, abs_of_neg below]
  · simp [signed, below, abs_of_nonneg (not_lt.mp below)]

theorem natAbs_mul_pow (n : Int) (short : n.natAbs.log2 ≤ 52) :
    (signed (n < 0) (n.natAbs * 2 ^ (52 - n.natAbs.log2)) : ℚ) *
      2 ^ ((n.natAbs.log2 : Int) - 52) = n := by
  have places : ((n.natAbs.log2 : Int) - 52) = -((52 - n.natAbs.log2 : Nat) : Int) := by omega
  rw [signed_natAbs_mul, places, zpow_neg, zpow_natCast]
  push_cast
  exact mul_inv_cancel_right₀ (pow_ne_zero _ two_ne_zero) _

/-- A whole number is taken over as it is, or it is a large one and stays so. -/
theorem toRat?_ofInt? {n : Int} (h : ofInt? n = some x) :
    ∃ q : ℚ, x.toRat? = some q ∧ (q = n ∨ 2 ≤ n ∧ 2 ≤ q ∨ n ≤ -2 ∧ q ≤ -2) := by
  by_cases nothing : n.natAbs = 0
  · obtain rfl := Int.natAbs_eq_zero.mp nothing
    obtain rfl : ofNat 0 = x := Option.some.inj h
    exact ⟨0, toRat?_ofNat_zero, .inl rfl⟩
  rw [ofInt?] at h
  rcases Nat.lt_or_ge 52 n.natAbs.log2 with long | short
  · have large : 2 ≤ n.natAbs := by
      have := Nat.log2_self_le nothing
      have := Nat.pow_le_pow_right two_pos long
      omega
    rcases ofRatio_of_long (n < 0) nothing long with beyond | ⟨m, e, is, many, up⟩
    · simp [beyond] at h
    · rw [is] at h
      obtain rfl := Option.some.inj h
      have two := two_le_of_long many up
      refine ⟨_, rfl, .inr ?_⟩
      by_cases below : n < 0
      · refine .inr ⟨by omega, ?_⟩
        simpa [signed, below] using two
      · refine .inl ⟨by omega, ?_⟩
        simpa [signed, below] using two
  · rw [ofRatio_of_short _ nothing short] at h
    obtain rfl := Option.some.inj h
    exact ⟨_, rfl, .inl (natAbs_mul_pow n short)⟩

end PatchReview.Binary64
