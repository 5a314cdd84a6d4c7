import Mathlib.Algebra.Order.Field.Basic
import Mathlib.Algebra.Order.Field.Rat
import Mathlib.Tactic.NormNum
import PatchReview.Number.Binary64

/-!
# The order of numbers

A finite number is a rational one, `toRat?`, and the order of finite numbers is
that of the rationals (`lt_iff`, `le_iff`). Infinite numbers and `nan` are no
rationals, and a number between two finite ones is finite
(`exists_toRat_of_between`).
-/

namespace PatchReview.Binary64

def signed (negative : Bool) (mantissa : Nat) : Int := if negative then -mantissa else mantissa

def toRat? : Binary64 → Option ℚ
  | finite negative mantissa exponent => some (signed negative mantissa * 2 ^ exponent)
  | infinite _ | nan => none

theorem units_eq : units negative mantissa exponent scale =
    signed negative mantissa * 2 ^ (exponent - scale).toNat := by
  cases negative <;> simp [units, signed]

theorem units_mul_pow (h : scale ≤ exponent) :
    (units negative mantissa exponent scale : ℚ) * 2 ^ scale =
      signed negative mantissa * 2 ^ exponent := by
  have up : (2 : ℚ) ^ (exponent - scale).toNat * 2 ^ scale = 2 ^ exponent := by
    rw [← zpow_natCast, Int.toNat_of_nonneg (by omega), ← zpow_add₀ two_ne_zero,
      Int.sub_add_cancel]
  rw [units_eq, Int.cast_mul, Int.cast_pow, Int.cast_ofNat, mul_assoc, up]

theorem lt_iff (hx : toRat? x = some p) (hy : toRat? y = some q) : x.lt y = true ↔ p < q := by
  cases x with
  | finite s m e =>
    cases y with
    | finite s' m' e' =>
      cases hx
      cases hy
      -- Both numbers are brought to the smaller of the two exponents.
      have pos : (0 : ℚ) < 2 ^ min e e' := zpow_pos two_pos _
      rw [← units_mul_pow (Int.min_le_left e e'), ← units_mul_pow (Int.min_le_right e e'),
        mul_lt_mul_iff_left₀ pos, Int.cast_lt]
      exact decide_eq_true_iff
    | infinite => cases hy
    | nan => cases hy
  | infinite => cases hx
  | nan => cases hx

theorem isNaN_of_toRat (h : toRat? x = some q) : x.isNaN = false := by
  cases x with
  | nan => cases h
  | _ => rfl

theorem le_iff (hx : toRat? x = some p) (hy : toRat? y = some q) : x.le y = true ↔ p ≤ q := by
  rw [le, isNaN_of_toRat hx, isNaN_of_toRat hy, ← not_lt, ← lt_iff hy hx]
  simp

theorem exists_toRat_of_between (hl : toRat? low = some p) (hh : toRat? high = some q)
    (above : low.le x = true) (below : x.le high = true) : ∃ r, toRat? x = some r := by
  cases x with
  | finite s m e => exact ⟨_, rfl⟩
  | nan => simp [le, isNaN] at below
  | infinite negative =>
    cases low with
    | finite =>
      cases high with
      | finite => cases negative <;> simp [le, lt, isNaN] at above below
      | infinite => cases hh
      | nan => cases hh
    | infinite => cases hl
    | nan => cases hl

theorem toRat?_ofNat_zero : toRat? (ofNat 0) = some 0 := by
  have : ofNat 0 = finite false 0 leastExponent := rfl
  rw [this]
  simp [toRat?, signed]

theorem toRat?_ofNat_one : toRat? (ofNat 1) = some 1 := by
  have : ofNat 1 = finite false (2 ^ 52) (-52) := by decide
  rw [this]
  norm_num [toRat?, signed]

end PatchReview.Binary64
