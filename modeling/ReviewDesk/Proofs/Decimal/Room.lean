import Mathlib.Algebra.Order.Field.Power
import Mathlib.Data.Rat.Cast.Order
import Mathlib.Tactic.Linarith
import Mathlib.Tactic.NormNum
import ReviewDesk.Proofs.Decimal.Finite
import ReviewDesk.Proofs.Number.Digits

/-!
# Room for a product

A result has room for twenty-eight digits.  A number with `n` digits and exponent `e`
reaches up to the power `n + e` of ten, and rounding leaves that reach alone unless it
carries.  So whether a product can be brought to a fixed number of places is decided by
its size alone.
-/

namespace ReviewDesk
namespace Decimal

/-!
# Dropping digits
-/

theorem dropDigits_zero (mode : Rounding) (n : Nat) : dropDigits mode n 0 = n := by
  simp [dropDigits, tenPow_zero, mode.quotient_of_dvd Nat.one_pos (Nat.one_dvd n)]

theorem dropDigits_le (mode : Rounding) {n k : Nat} (hk : k ≤ digitCount n) :
    dropDigits mode n k ≤ tenPow (digitCount n - k) := by
  rw [dropDigits, if_neg (Nat.not_lt.mpr hk)]
  apply mode.quotient_le_of_lt
  rw [← tenPow_add, Nat.sub_add_cancel hk]
  exact lt_tenPow_digitCount n

theorem le_dropDigits (mode : Rounding) {n k : Nat} (hn : n ≠ 0) (hk : k < digitCount n) :
    tenPow (digitCount n - k - 1) ≤ dropDigits mode n k := by
  rw [dropDigits, if_neg (Nat.not_lt.mpr (Nat.le_of_lt hk))]
  refine Nat.le_trans ?_ (mode.le_quotient n (tenPow k))
  rw [Nat.le_div_iff_mul_le (tenPow_pos k), ← tenPow_add]
  exact tenPow_le_of_digitCount hn (by omega)

theorem digitCount_dropDigits_le (mode : Rounding) {n k : Nat} (hk : k ≤ digitCount n) :
    digitCount (dropDigits mode n k) + k ≤ digitCount n + 1 := by
  have hle : digitCount (dropDigits mode n k) ≤ digitCount n - k + 1 := by
    apply (digitCount_le_iff (Nat.succ_pos _)).mpr
    calc dropDigits mode n k ≤ tenPow (digitCount n - k) := dropDigits_le mode hk
      _ < tenPow (digitCount n - k + 1) := by
        rw [tenPow_succ]
        have := tenPow_pos (digitCount n - k)
        omega
  omega

theorem le_digitCount_dropDigits (mode : Rounding) {n k : Nat} (hn : n ≠ 0)
    (hk : k < digitCount n) : digitCount n ≤ digitCount (dropDigits mode n k) + k := by
  by_cases hone : digitCount n - k - 1 = 0
  · have := digitCount_pos (dropDigits mode n k)
    omega
  · have hlow := (lt_digitCount_iff (Nat.pos_of_ne_zero hone)).mpr
      (le_dropDigits mode hn hk)
    omega

theorem digitCount_div_ten {n : Nat} (h : 1 < digitCount n) :
    digitCount (n / 10) + 1 = digitCount n := by
  obtain ⟨j, hj⟩ : ∃ j, digitCount n = j + 2 := ⟨digitCount n - 2, by omega⟩
  have hlow : tenPow (j + 1) ≤ n := (lt_digitCount_iff (Nat.succ_pos j)).mp (by omega)
  have hhigh : n < tenPow (j + 2) := hj ▸ lt_tenPow_digitCount n
  rw [tenPow_succ] at hlow hhigh
  rw [digitCount_eq (k := j) (by omega) (by omega), hj]

/-!
# Settling

`dropped` is the number of digits that `settle` drops from a coefficient, and `rounded`
is what it leaves.
-/

def dropped (coefficient : Nat) (exponent : Int) : Nat :=
  (max ((digitCount coefficient : Int) - precision) (minExponent - exponent)).toNat

def rounded (coefficient : Nat) (exponent : Int) : Nat :=
  dropDigits .halfEven coefficient (dropped coefficient exponent)

/-- Up to which power of ten a number reaches. -/
def reach (coefficient : Nat) (exponent : Int) : Int :=
  digitCount coefficient + exponent

theorem magnitude_eq (c : Nat) (e : Int) : magnitude c e = reach c e - 1 := by
  simp only [magnitude, reach]
  omega

theorem digitCount_rounded_le {c : Nat} {e : Int} : digitCount (rounded c e) ≤ precision + 1 := by
  unfold rounded
  by_cases hk : dropped c e ≤ digitCount c
  · have hle := digitCount_dropDigits_le .halfEven hk
    unfold dropped at hle hk ⊢
    omega
  · rw [dropDigits, if_pos (Nat.not_le.mp hk), digitCount_zero]
    decide

theorem exponent_of_rounded_eq_zero {c : Nat} (hc : c ≠ 0) {e : Int} (h : rounded c e = 0) :
    e + dropped c e = minExponent := by
  have hk : digitCount c ≤ dropped c e := by
    apply Nat.not_lt.mp
    intro hk
    have hlow := le_dropDigits .halfEven hc hk
    have hpos := tenPow_pos (digitCount c - dropped c e - 1)
    rw [rounded] at h
    omega
  have hpositive := digitCount_pos c
  have hprecision : precision = 28 := rfl
  unfold dropped at hk ⊢
  omega

theorem rounded_eq_of_carried {c : Nat} {e : Int} (h : precision < digitCount (rounded c e)) :
    rounded c e = tenPow precision := by
  have hlarge : tenPow precision ≤ rounded c e := (lt_digitCount_iff (by decide)).mp h
  by_cases hk : dropped c e ≤ digitCount c
  · have hle : rounded c e ≤ tenPow (digitCount c - dropped c e) := dropDigits_le .halfEven hk
    have hplaces : digitCount c - dropped c e ≤ precision := by
      unfold dropped
      omega
    obtain ⟨j, hj⟩ : ∃ j, precision = digitCount c - dropped c e + j :=
      Nat.exists_eq_add_of_le hplaces
    have hwider : tenPow (digitCount c - dropped c e) ≤ tenPow precision := by
      rw [hj, tenPow_add]
      exact Nat.le_mul_of_pos_right _ (tenPow_pos j)
    omega
  · rw [rounded, dropDigits, if_pos (Nat.not_le.mp hk)] at hlarge
    exact absurd hlarge (by decide)

/-- A settled number is the rounded coefficient, shortened by a digit if rounding carried,
and ends in an overflow only if it reaches far. -/
theorem settle_eq (negative : Bool) {c : Nat} (hc : c ≠ 0) (e : Int) :
    ∃ c' e', digitCount c' ≤ precision ∧ (c' = 0 ↔ rounded c e = 0) ∧
      reach c' e' = reach (rounded c e) (e + dropped c e) ∧
      (c' : ℚ) * 10 ^ e' = rounded c e * 10 ^ (e + dropped c e) ∧
      settle negative c e =
        if maxMagnitude < reach c' e' - 1 then .error .overflow
        else .ok (finite negative c' e') := by
  -- rounding carries at most once, and then one digit more is dropped
  have hwide : digitCount (rounded c e) ≤ precision + 1 := digitCount_rounded_le
  have hsettle : settle negative c e =
      let carried := precision < digitCount (rounded c e)
      let c' := if carried then rounded c e / 10 else rounded c e
      let e' := if carried then e + dropped c e + 1 else e + dropped c e
      if maxMagnitude < magnitude c' e' then .error .overflow else .ok (finite negative c' e') := by
    rw [settle, if_neg hc]
    rfl
  by_cases hcarried : precision < digitCount (rounded c e)
  · have htenth : digitCount (rounded c e / 10) + 1 = digitCount (rounded c e) :=
      digitCount_div_ten (Nat.lt_trans (by decide) hcarried)
    have hlarge : tenPow precision ≤ rounded c e := (lt_digitCount_iff (by decide)).mp hcarried
    have hten : 10 ≤ tenPow precision := by decide
    have hvalue : ((rounded c e / 10 : Nat) : ℚ) * 10 = rounded c e := by
      rw [rounded_eq_of_carried hcarried]
      norm_cast
    refine ⟨rounded c e / 10, e + dropped c e + 1, by omega, by omega, ?_, ?_, ?_⟩
    · simp only [reach]
      omega
    · rw [← hvalue, zpow_add_one₀ (by norm_num)]
      ring
    · simp only [hsettle, hcarried, if_true, magnitude_eq]
  · refine ⟨rounded c e, e + dropped c e, Nat.not_lt.mp hcarried, Iff.rfl, rfl, rfl, ?_⟩
    simp only [hsettle, hcarried, if_false, magnitude_eq]

/-!
# Fixed places
-/

theorem digitCount_moved_le (mode : Rounding) {c : Nat} (hc : c ≠ 0) (shift : Int)
    (hle : digitCount c + shift ≤ precision)
    (hrounds : shift < 0 → digitCount c + shift < precision) :
    digitCount (if 0 ≤ shift then c * tenPow shift.toNat
      else dropDigits mode c (-shift).toNat) ≤ precision := by
  split
  · rw [digitCount_mul_tenPow hc]
    omega
  · by_cases hk : (-shift).toNat ≤ digitCount c
    · have hdropped := digitCount_dropDigits_le mode hk
      omega
    · rw [dropDigits, if_pos (Nat.not_le.mp hk), digitCount_zero]
      decide

theorem quantize_of_reach_lt (mode : Rounding) (places : Nat) (negative : Bool) {c : Nat} {e : Int}
    (h : reach c e + places < precision) :
    ∃ y, quantize mode places (finite negative c e) = .ok y := by
  simp only [reach] at h
  simp only [quantize]
  by_cases hzero : c = 0
  · exact ⟨_, if_pos hzero⟩
  · have hdigits := digitCount_moved_le mode hzero (e + places) (by omega) fun _ => by omega
    rw [if_neg hzero, if_neg (by omega), if_neg (Nat.not_lt.mpr hdigits)]
    exact ⟨_, rfl⟩

theorem quantize_ok_iff (mode : Rounding) (places : Nat) (negative : Bool) {c : Nat} (e : Int)
    (hc : digitCount c ≤ precision) :
    (∃ y, quantize mode places (finite negative c e) = .ok y) ↔
      c = 0 ∨ reach c e + places ≤ precision := by
  simp only [quantize, reach]
  by_cases hzero : c = 0
  · simp [hzero]
  · rw [if_neg hzero]
    by_cases hfar : (precision : Int) < digitCount c + (e + places)
    · rw [if_pos hfar]
      simp only [hzero, false_or, reduceCtorEq, exists_false, false_iff]
      omega
    · have hdigits := digitCount_moved_le mode hzero (e + places) (by omega) fun _ => by omega
      rw [if_neg hfar, if_neg (Nat.not_lt.mpr hdigits)]
      simp only [hzero, false_or, Except.ok.injEq, exists_eq', true_iff]
      omega

theorem settle_quantize_ok_iff (mode : Rounding) {places : Nat} (negative : Bool) {c : Nat}
    (hc : c ≠ 0) (e : Int) :
    (∃ y, (settle negative c e >>= quantize mode places) = .ok y) ↔
      rounded c e = 0 ∨ reach (rounded c e) (e + dropped c e) + places ≤ precision := by
  rcases settle_eq negative hc e with ⟨c', e', hdigits, hzero, hreach, _, hsettle⟩
  rw [← hreach, ← hzero, ← quantize_ok_iff mode places negative e' hdigits, hsettle]
  split
  · rename_i hover
    constructor
    · rintro ⟨y, hy⟩
      cases hy
    · intro hok
      have hnear : reach c' e' ≤ precision := by
        rcases (quantize_ok_iff mode places negative e' hdigits).mp hok with hnone | hnear
        · have hleast := exponent_of_rounded_eq_zero hc (hzero.mp hnone)
          rw [hreach, hzero.mp hnone, reach, hleast]
          decide
        · omega
      have hfar : (precision : Int) < maxMagnitude := by decide
      omega
  · rfl

/-!
# Size

Below, a number is measured in units of its last place, so `c * 10 ^ (e + places)` of
them, and there is room for less than `10 ^ 28` after rounding.
-/

theorem cast_tenPow (k : Nat) : ((tenPow k : Nat) : ℚ) = 10 ^ (k : Int) := by
  rw [zpow_natCast, tenPow]
  exact Nat.cast_pow 10 k

theorem le_units_of_reach {c : Nat} (hc : c ≠ 0) {e : Int} {n : Nat}
    (h : (n : Int) < reach c e) : (tenPow n : ℚ) ≤ c * 10 ^ e := by
  obtain ⟨j, hj⟩ : ∃ j, digitCount c = j + 1 :=
    Nat.exists_eq_succ_of_ne_zero (Nat.ne_of_gt (digitCount_pos c))
  have hlow : (tenPow j : ℚ) ≤ c := by exact_mod_cast tenPow_le_of_digitCount hc hj
  have hpositive : (0 : ℚ) < 10 ^ e := zpow_pos (by norm_num) e
  calc (tenPow n : ℚ) = 10 ^ (n : Int) := cast_tenPow n
    _ ≤ 10 ^ ((j : Int) + e) := by
      apply zpow_le_zpow_right₀ (by norm_num)
      simp only [reach, hj] at h
      omega
    _ = tenPow j * 10 ^ e := by rw [zpow_add₀ (by norm_num), cast_tenPow]
    _ ≤ c * 10 ^ e := mul_le_mul_of_nonneg_right hlow (le_of_lt hpositive)

theorem units_lt_of_reach {c : Nat} {e : Int} {n : Nat} (h : reach c e ≤ n) :
    (c + 1) * (10 : ℚ) ^ e ≤ tenPow n := by
  have hhigh : (c + 1 : ℚ) ≤ tenPow (digitCount c) := by exact_mod_cast lt_tenPow_digitCount c
  have hpositive : (0 : ℚ) < 10 ^ e := zpow_pos (by norm_num) e
  calc (c + 1) * (10 : ℚ) ^ e ≤ tenPow (digitCount c) * 10 ^ e :=
        mul_le_mul_of_nonneg_right hhigh (le_of_lt hpositive)
    _ = 10 ^ ((digitCount c : Int) + e) := by rw [zpow_add₀ (by norm_num), cast_tenPow]
    _ ≤ 10 ^ (n : Int) := zpow_le_zpow_right₀ (by norm_num) h
    _ = tenPow n := (cast_tenPow n).symm

theorem rounded_lt_iff {c k : Nat} (hc : digitCount c = precision + k) :
    dropDigits .halfEven c k < tenPow precision ↔
      (c : ℚ) * 10 ^ (-(k : Int)) < tenPow precision - 1 / 2 := by
  have hbelow : c < tenPow precision * tenPow k := by
    rw [← tenPow_add, ← hc]
    exact lt_tenPow_digitCount c
  have hpositive : (0 : ℚ) < 10 ^ (k : Int) := zpow_pos (by norm_num) k
  rw [dropDigits, if_neg (by omega), Rounding.quotient_halfEven_lt_iff (by decide) hbelow,
    zpow_neg, ← div_eq_mul_inv, div_lt_iff₀ hpositive, ← cast_tenPow, ← Nat.cast_lt (α := ℚ)]
  push_cast
  constructor
  · intro h
    linarith
  · intro h
    linarith

theorem rounded_of_dropped_eq_zero {c : Nat} {e : Int} (h : dropped c e = 0) : rounded c e = c := by
  rw [rounded, h, dropDigits_zero]

theorem rounded_ne_zero {c : Nat} (hc : c ≠ 0) {e : Int} (hk : dropped c e < digitCount c) :
    rounded c e ≠ 0 := by
  have hlow := le_dropDigits .halfEven hc hk
  have hpos := tenPow_pos (digitCount c - dropped c e - 1)
  rw [rounded]
  omega

theorem fits_of_reach_lt {c : Nat} {e : Int} {places : Nat} (h : reach c e + places < precision) :
    (rounded c e = 0 ∨ reach (rounded c e) (e + dropped c e) + places ≤ precision) ∧
      (c : ℚ) * 10 ^ (e + places) < tenPow precision - 1 / 2 := by
  have hprecision : precision = 28 := rfl
  constructor
  · by_cases hk : dropped c e ≤ digitCount c
    · apply Or.inr
      have hle := digitCount_dropDigits_le .halfEven hk
      simp only [rounded, reach] at h ⊢
      omega
    · apply Or.inl
      rw [rounded, dropDigits, if_pos (Nat.not_le.mp hk)]
  · have hpositive : (0 : ℚ) < 10 ^ (e + places) := zpow_pos (by norm_num) _
    have hsmall : (c + 1) * (10 : ℚ) ^ (e + places) ≤ tenPow 27 :=
      units_lt_of_reach (by simp only [reach] at h ⊢; omega)
    rw [cast_tenPow] at hsmall ⊢
    norm_num [precision] at hsmall ⊢
    linarith

theorem overruns_of_lt_reach {c : Nat} (hc : c ≠ 0) {e : Int} {places : Nat}
    (hplaces : minExponent ≤ -places) (h : precision < reach c e + places) :
    ¬ (rounded c e = 0 ∨ reach (rounded c e) (e + dropped c e) + places ≤ precision) ∧
      (tenPow precision : ℚ) ≤ c * 10 ^ (e + places) := by
  have hdigits := digitCount_pos c
  have hprecision : precision = 28 := rfl
  have hdropped : dropped c e < digitCount c := by
    simp only [reach] at h
    simp only [dropped]
    omega
  constructor
  · rintro (hnone | hnear)
    · exact rounded_ne_zero hc hdropped hnone
    · have hreach := le_digitCount_dropDigits .halfEven hc hdropped
      simp only [reach, rounded] at h hnear
      omega
  · exact le_units_of_reach hc (by simp only [reach] at h ⊢; omega)

theorem fits_iff_of_reach_eq {c : Nat} (hc : c ≠ 0) {e : Int} {places : Nat}
    (hplaces : minExponent ≤ -places) (h : reach c e + places = precision) :
    (rounded c e = 0 ∨ reach (rounded c e) (e + dropped c e) + places ≤ precision) ↔
      (c : ℚ) * 10 ^ (e + places) < tenPow precision - 1 / 2 := by
  have hdigits := digitCount_pos c
  have hprecision : precision = 28 := rfl
  simp only [reach] at h
  by_cases hshort : digitCount c ≤ precision
  · have hdropped : dropped c e = 0 := by
      simp only [dropped]
      omega
    have hsmall : (c + 1) * (10 : ℚ) ^ (e + places) ≤ tenPow precision :=
      units_lt_of_reach (by simp only [reach]; omega)
    have hunit : (1 : ℚ) ≤ 10 ^ (e + places) := one_le_zpow₀ (by norm_num) (by omega)
    rw [rounded_of_dropped_eq_zero hdropped, hdropped]
    refine iff_of_true (Or.inr ?_) ?_
    · simp only [reach]
      omega
    · linarith
  · obtain ⟨k, hk⟩ : ∃ k, digitCount c = precision + k :=
      ⟨digitCount c - precision, by omega⟩
    have hdropped : dropped c e = k := by
      simp only [dropped]
      omega
    have hexponent : e + places = -(k : Int) := by omega
    have hsome : rounded c e ≠ 0 := rounded_ne_zero hc (by omega)
    rw [hexponent, ← rounded_lt_iff hk, ← digitCount_le_iff (by decide), rounded, hdropped]
    rw [rounded, hdropped] at hsome
    simp only [hsome, false_or, reach]
    omega

theorem rounded_fits_iff {c : Nat} (hc : c ≠ 0) (e : Int) {places : Nat}
    (hplaces : minExponent ≤ -places) :
    (rounded c e = 0 ∨ reach (rounded c e) (e + dropped c e) + places ≤ precision) ↔
      (c : ℚ) * 10 ^ (e + places) < tenPow precision - 1 / 2 := by
  rcases lt_trichotomy (reach c e + places) precision with hnear | hedge | hfar
  case inl =>
    rcases fits_of_reach_lt hnear with ⟨hfits, hsmall⟩
    exact iff_of_true hfits hsmall
  case inr.inl => exact fits_iff_of_reach_eq hc hplaces hedge
  case inr.inr =>
    rcases overruns_of_lt_reach hc hplaces hfar with ⟨hoverruns, hlarge⟩
    refine iff_of_false hoverruns ?_
    linarith

/-!
# Products
-/

def toRat : Decimal → ℚ
  | finite negative c e => (if negative then -1 else 1) * (c * 10 ^ e)
  | _ => 0

theorem abs_toRat_finite (negative : Bool) (c : Nat) (e : Int) :
    |(finite negative c e).toRat| = c * 10 ^ e := by
  have hnonneg : (0 : ℚ) ≤ c * 10 ^ e :=
    mul_nonneg (Nat.cast_nonneg c) (zpow_nonneg (by norm_num) e)
  cases negative with
  | false => simp [toRat, abs_of_nonneg hnonneg]
  | true => simp [toRat, abs_of_nonneg hnonneg]

theorem mul_quantize_ok_iff {x y : Decimal} (hx : x.isFinite = true) (hy : y.isFinite = true)
    (mode : Rounding) (places : Nat) (hplaces : minExponent ≤ -places) :
    (∃ z, (x.mul y >>= quantize mode places) = .ok z) ↔
      |x.toRat * y.toRat| * 10 ^ places < tenPow precision - 1 / 2 := by
  rcases exists_of_isFinite hx with ⟨s, c, e, rfl⟩
  rcases exists_of_isFinite hy with ⟨t, d, f, rfl⟩
  have hsize : |(finite s c e).toRat * (finite t d f).toRat| * 10 ^ places =
      ((c * d : Nat) : ℚ) * 10 ^ (e + f + places) := by
    rw [abs_mul, abs_toRat_finite, abs_toRat_finite, zpow_add₀ (by norm_num),
      zpow_add₀ (by norm_num), zpow_natCast]
    push_cast
    ring
  have hmul : (finite s c e).mul (finite t d f) = settle (s != t) (c * d) (e + f) := rfl
  rw [hsize, hmul]
  by_cases hzero : c * d = 0
  · have hquantized : (settle (s != t) (c * d) (e + f) >>= quantize mode places) =
        .ok (finite (s != t) 0 (-places)) := by
      simp [settle, hzero, bind, Except.bind, quantize]
    rw [hquantized, hzero]
    refine iff_of_true ⟨_, rfl⟩ ?_
    have hlarge : (1 : ℚ) ≤ tenPow precision := by exact_mod_cast tenPow_pos precision
    simp only [Nat.cast_zero, zero_mul]
    linarith
  · rw [settle_quantize_ok_iff mode (s != t) hzero, rounded_fits_iff hzero _ hplaces]

end Decimal
end ReviewDesk
