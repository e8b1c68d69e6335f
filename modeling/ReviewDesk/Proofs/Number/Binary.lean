import Mathlib.Algebra.Order.Field.Power
import Mathlib.Data.Rat.Cast.Order
import Mathlib.Tactic.FieldSimp
import Mathlib.Tactic.Linarith
import Mathlib.Tactic.NormNum
import Mathlib.Tactic.Ring
import ReviewDesk.Number.Binary64
import ReviewDesk.Number.Shortest
import ReviewDesk.Proofs.Number.Quotient

/-!
# How far binary rounding goes

The binary number nearest to a quotient is at most half a unit of its last place away
from it, and counting it in decimal units goes at most half of such a unit astray.  An
amount with so few digits that both halves together stay below one unit comes back as it
was.
-/

namespace ReviewDesk

/-!
# Powers of two
-/

theorem cast_twoPow (k : Nat) : ((twoPow k : Nat) : ℚ) = 2 ^ (k : Int) := by
  rw [zpow_natCast, twoPow]
  exact Nat.cast_pow 2 k

theorem twoPow_div_twoPow (e : Int) :
    ((twoPow e.toNat : Nat) : ℚ) / (twoPow (-e).toNat : Nat) = 2 ^ e := by
  rw [cast_twoPow, cast_twoPow, ← zpow_sub₀ (by norm_num)]
  congr 1
  omega

theorem mul_twoPow_div_mul_twoPow (n d : Nat) (e : Int) :
    ((n * twoPow (-e).toNat : Nat) : ℚ) / (d * twoPow e.toNat : Nat) = n / d / 2 ^ e := by
  have hup : (twoPow e.toNat : ℚ) ≠ 0 := by exact_mod_cast Nat.ne_of_gt (twoPow_pos _)
  have hdown : (twoPow (-e).toNat : ℚ) ≠ 0 := by exact_mod_cast Nat.ne_of_gt (twoPow_pos _)
  rw [← twoPow_div_twoPow]
  push_cast
  field_simp

namespace Binary64

/-!
# The nearest number
-/

theorem exponentFor_le (n d : Nat) :
    exponentFor n d ≤ max minExponent ((Nat.log2 n : Int) - Nat.log2 d - (precision - 1)) := by
  simp only [exponentFor]
  split <;> omega

theorem ofMantissa_eq (negative : Bool) {m : Nat} {e : Int} (he : e < maxExponent) :
    ∃ m' e', ofMantissa negative m e = finite negative m' e' ∧ (m' : ℚ) * 2 ^ e' = m * 2 ^ e := by
  unfold ofMantissa
  by_cases hcarried : m = twoPow precision
  · have hbeq : (m == twoPow precision) = true := by simpa using hcarried
    simp only [hbeq, if_true]
    rw [if_neg (by omega)]
    refine ⟨_, _, rfl, ?_⟩
    rw [hcarried, cast_twoPow, cast_twoPow, ← zpow_add₀ (by norm_num), ← zpow_add₀ (by norm_num)]
    congr 1
    simp only [precision]
    omega
  · have hbeq : (m == twoPow precision) = false := by simpa using hcarried
    simp only [hbeq, Bool.false_eq_true, if_false]
    rw [if_neg (by omega)]
    exact ⟨m, e, rfl, rfl⟩

theorem nearest_error (negative : Bool) {n d : Nat} (hd : 0 < d) {b : Int}
    (hb : exponentFor n d ≤ b) (hmax : b < maxExponent) :
    ∃ m e, nearest negative n d = finite negative m e ∧ |(m : ℚ) * 2 ^ e - n / d| ≤ 2 ^ b / 2 := by
  unfold nearest
  split
  · rename_i hzero
    refine ⟨0, minExponent, rfl, ?_⟩
    have hpositive : (0 : ℚ) < 2 ^ b := zpow_pos (by norm_num) b
    simp only [hzero, Nat.cast_zero, zero_mul, zero_div, sub_zero, abs_zero]
    positivity
  · rcases ofMantissa_eq negative (e := exponentFor n d)
      (m := Rounding.halfEven.quotient (n * twoPow (-exponentFor n d).toNat)
        (d * twoPow (exponentFor n d).toNat)) (Int.lt_of_le_of_lt hb hmax) with
      ⟨m, e, hnearest, hvalue⟩
    refine ⟨m, e, hnearest, ?_⟩
    have hpositive : (0 : ℚ) < 2 ^ exponentFor n d := zpow_pos (by norm_num) _
    have hquotient := Rounding.halfEven.abs_quotient_sub_le
      (Nat.mul_pos hd (twoPow_pos (exponentFor n d).toNat)) (n * twoPow (-exponentFor n d).toNat)
    rw [mul_twoPow_div_mul_twoPow] at hquotient
    have hscaled : (m : ℚ) * 2 ^ e - n / d =
        (Rounding.halfEven.quotient (n * twoPow (-exponentFor n d).toNat)
          (d * twoPow (exponentFor n d).toNat) - n / d / 2 ^ exponentFor n d) *
            2 ^ exponentFor n d := by
      rw [hvalue, sub_mul, div_mul_cancel₀ _ (ne_of_gt hpositive)]
    rw [hscaled, abs_mul, abs_of_pos hpositive]
    calc _ ≤ 1 / 2 * (2 : ℚ) ^ exponentFor n d :=
          mul_le_mul_of_nonneg_right hquotient (le_of_lt hpositive)
      _ = 2 ^ exponentFor n d / 2 := by ring
      _ ≤ 2 ^ b / 2 :=
        div_le_div_of_nonneg_right (zpow_le_zpow_right₀ (by norm_num) hb) (by norm_num)

theorem nearest_close (negative : Bool) {n d : Nat} (hn : n ≠ 0) (hd : 0 < d)
    (hmax : (Nat.log2 n : Int) - Nat.log2 d - 52 < maxExponent) :
    ∃ m e, nearest negative n d = finite negative m e ∧
      |(m : ℚ) * 2 ^ e - n / d| ≤ n / d / 2 ^ 52 + 2 ^ minExponent := by
  have hexponent := exponentFor_le n d
  simp only [precision] at hexponent
  rcases nearest_error negative hd hexponent (by simp only [minExponent, maxExponent] at *; omega)
    with ⟨m, e, hnearest, herror⟩
  refine ⟨m, e, hnearest, le_trans herror ?_⟩
  have hlow : (2 : ℚ) ^ (Nat.log2 n : Int) ≤ n := by
    rw [zpow_natCast]
    exact_mod_cast Nat.log2_self_le hn
  have hhigh : (d : ℚ) ≤ 2 ^ (Nat.log2 d : Int) * 2 := by
    rw [zpow_natCast, ← pow_succ]
    exact_mod_cast le_of_lt Nat.lt_log2_self
  have hunit : (2 : ℚ) ^ ((Nat.log2 n : Int) - Nat.log2 d - 52) / 2 ≤ n / d / 2 ^ 52 := by
    have hdPositive : (0 : ℚ) < d := by exact_mod_cast hd
    have hpower : (0 : ℚ) < 2 ^ (Nat.log2 d : Int) := zpow_pos (by norm_num) _
    rw [zpow_sub₀ (by norm_num), zpow_sub₀ (by norm_num), div_right_comm]
    apply div_le_div₀ (by positivity) _ (by positivity) (le_of_eq (by norm_num))
    rw [div_div]
    exact div_le_div₀ (by positivity) hlow hdPositive hhigh
  have hleast : (0 : ℚ) < 2 ^ minExponent := zpow_pos (by norm_num) _
  have hquotient : (0 : ℚ) ≤ n / d / 2 ^ 52 := by positivity
  rcases le_total minExponent ((Nat.log2 n : Int) - Nat.log2 d - 52) with hle | hle
  · rw [max_eq_right (by omega)]
    norm_num at hunit ⊢
    linarith
  · rw [max_eq_left (by omega)]
    linarith

/-!
# Decimal units
-/

theorem units_error (places m : Nat) (e : Int) :
    |(units places m e : ℚ) - m * 2 ^ e * 10 ^ places| ≤ 1 / 2 := by
  have hquotient := Rounding.halfEven.abs_quotient_sub_le (twoPow_pos (-e).toNat)
    (m * twoPow e.toNat * tenPow places)
  have hten : ((tenPow places : Nat) : ℚ) = 10 ^ places := Nat.cast_pow 10 places
  have hscale : ((m * twoPow e.toNat * tenPow places : Nat) : ℚ) / (twoPow (-e).toNat : Nat) =
      m * 2 ^ e * 10 ^ places := by
    rw [← twoPow_div_twoPow, ← hten]
    push_cast
    ring
  rw [hscale] at hquotient
  exact hquotient

theorem units_eq {places m c : Nat} {e : Int}
    (h : |(m : ℚ) * 2 ^ e * 10 ^ places - c| < 1 / 2) : units places m e = c := by
  have hunits := units_error places m e
  have hnear : |(units places m e : ℚ) - c| < 1 := by
    calc |(units places m e : ℚ) - c| ≤ _ := abs_sub_le _ ((m : ℚ) * 2 ^ e * 10 ^ places) _
      _ < 1 := by linarith
  have hint : |(units places m e : ℤ) - c| < 1 := by exact_mod_cast hnear
  have hzero := Int.abs_lt_one_iff.mp hint
  omega

end Binary64
end ReviewDesk
