import ReviewDesk.Proofs.Decimal.Grid
import ReviewDesk.Proofs.Review.Display

/-!
# Money that comes back as it was

Costs are kept as binary numbers.  A cost of less than `2 ^ 50` units of its last place is
so near to its binary number that the same number of units is read back.
-/

namespace ReviewDesk
namespace Column

open Decimal

theorem binary_of_units (negative : Bool) {places c : Nat} (hc : c ≠ 0) (hplaces : places ≤ 200)
    (hsmall : c < 2 ^ 50) :
    binary (.finite negative c (-places)) = .nearest negative c (tenPow places) := by
  have hdigits : digitCount c ≤ 16 :=
    (digitCount_le_iff (by decide)).mpr (Nat.lt_trans hsmall (by decide))
  have hpositive := digitCount_pos c
  have hnear : ¬ ((digitCount c : Int) + -places < -330) := by omega
  have hfar : ¬ (320 < (digitCount c : Int) + -places) := by omega
  simp only [binary, Binary64.ofScientific, hc, hnear, hfar, decide_false, Bool.or_false,
    Bool.false_eq_true, if_false]
  rw [show (-(places : Int)).toNat = 0 by omega, show (- -(places : Int)).toNat = places by omega,
    tenPow_zero, Nat.mul_one]

theorem least_mul_tenPow_le {places : Nat} (hplaces : places ≤ 200) :
    (2 : ℚ) ^ Binary64.minExponent * 10 ^ places ≤ 1 / 4 := by
  have hten : (10 : ℚ) ^ places ≤ 2 ^ (800 : Int) := by
    calc (10 : ℚ) ^ places ≤ (2 ^ 4) ^ places :=
          pow_le_pow_left₀ (by norm_num) (by norm_num) places
      _ = 2 ^ ((4 * places : Nat) : Int) := by rw [← pow_mul, zpow_natCast]
      _ ≤ 2 ^ (800 : Int) := zpow_le_zpow_right₀ (by norm_num) (by omega)
  calc (2 : ℚ) ^ Binary64.minExponent * 10 ^ places
      ≤ 2 ^ Binary64.minExponent * 2 ^ (800 : Int) :=
        mul_le_mul_of_nonneg_left hten (zpow_nonneg (by norm_num) _)
    _ = 2 ^ (Binary64.minExponent + 800) := by rw [zpow_add₀ (by norm_num)]
    _ ≤ 2 ^ (-2 : Int) := zpow_le_zpow_right₀ (by norm_num) (by decide)
    _ = 1 / 4 := by norm_num

theorem nearest_within_half (negative : Bool) {places c : Nat} (hc : c ≠ 0)
    (hplaces : places ≤ 200) (hsmall : c < 2 ^ 50) :
    ∃ m e, Binary64.nearest negative c (tenPow places) = .finite negative m e ∧
      |(m : ℚ) * 2 ^ e * 10 ^ places - c| < 1 / 2 := by
  have hlog : (Nat.log2 c : Int) - Nat.log2 (tenPow places) - 52 < Binary64.maxExponent := by
    have hlt := (Nat.log2_lt hc).mpr hsmall
    simp only [Binary64.maxExponent]
    omega
  rcases Binary64.nearest_close negative hc (tenPow_pos places) hlog with ⟨m, e, hnearest, herror⟩
  refine ⟨m, e, hnearest, ?_⟩
  have hpower : (0 : ℚ) < 10 ^ places := by positivity
  have hten : ((tenPow places : Nat) : ℚ) = 10 ^ places := Nat.cast_pow 10 places
  rw [hten] at herror
  have hrelative : (c : ℚ) / 2 ^ 52 < 1 / 4 := by
    rw [div_lt_iff₀ (by norm_num)]
    calc (c : ℚ) < 2 ^ 50 := by exact_mod_cast hsmall
      _ = 1 / 4 * 2 ^ 52 := by norm_num
  have hleast := least_mul_tenPow_le hplaces
  calc |(m : ℚ) * 2 ^ e * 10 ^ places - c| = |(m : ℚ) * 2 ^ e - c / 10 ^ places| * 10 ^ places := by
        rw [← abs_of_pos hpower, ← abs_mul, abs_of_pos hpower, sub_mul,
          div_mul_cancel₀ _ (ne_of_gt hpower)]
    _ ≤ (c / 10 ^ places / 2 ^ 52 + 2 ^ Binary64.minExponent) * 10 ^ places :=
        mul_le_mul_of_nonneg_right herror (le_of_lt hpower)
    _ = c / 2 ^ 52 + 2 ^ Binary64.minExponent * 10 ^ places := by field_simp
    _ < 1 / 2 := by linarith

theorem money_of_units (negative : Bool) {places c : Nat} (hplaces : places ≤ 200)
    (hsmall : c < 2 ^ 50) :
    money places (.finite negative c (-places)) =
      some (.finite (negative && c != 0) c (-places)) := by
  by_cases hc : c = 0
  · rw [money_of_isZero ⟨negative, -places, by rw [hc]⟩, hc]
    simp [Decimal.ofUnits]
  · rcases nearest_within_half negative hc hplaces hsmall with ⟨m, e, hnearest, hnear⟩
    have hunits : Binary64.units places m e = c := Binary64.units_eq hnear
    have hm : m ≠ 0 := by
      rintro rfl
      apply hc
      rw [← hunits]
      simp [Binary64.units, Rounding.quotient_of_dvd _ (twoPow_pos _) (Nat.dvd_zero _)]
    rw [money, binary_of_units negative hc hplaces hsmall, hnearest, readBack, hunits,
      bne_iff_ne.mpr hm, bne_iff_ne.mpr hc]

/-!
# Shown costs
-/

def Shows (places : Nat) (shown : Option Decimal) (cost : Decimal) : Prop :=
  ∃ x, shown = some x ∧ x.HasPlaces places ∧ x.toRat = cost.toRat

theorem money_shows {places : Nat} {cost : Decimal} (hplaces : places ≤ 200)
    (hcost : cost.HasPlaces places) (hsmall : |cost.toRat| * 10 ^ places < 2 ^ 50) :
    Shows places (money places cost) cost := by
  rcases hcost with ⟨negative, c, rfl⟩
  rw [abs_toRat_finite, zpow_neg, zpow_natCast, inv_mul_cancel_right₀ (by positivity)] at hsmall
  refine ⟨_, money_of_units negative hplaces (by exact_mod_cast hsmall), ⟨_, c, rfl⟩, ?_⟩
  by_cases hc : c = 0
  · rw [toRat_finite, toRat_finite, hc, Nat.cast_zero, zero_mul, mul_zero, mul_zero]
  · rw [bne_iff_ne.mpr hc, Bool.and_true]

end Column
end ReviewDesk
