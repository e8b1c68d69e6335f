import ReviewDesk.Proofs.Decimal.Grid

/-!
# Exact results at fixed places

A result whose exact value has at most twenty-eight significant digits is settled without
a loss, unless it is so faint that no fixed number of places shows anything of it.  So
what an amount becomes at fixed places is its exact value, rounded once.
-/

namespace ReviewDesk
namespace Decimal

/-!
# Rounding to places
-/

/-- The multiple of `10 ^ -places` nearest to a number, halves away from zero. -/
def roundedTo (places : Nat) (q : ℚ) : ℚ :=
  if 0 ≤ q then ⌊q * 10 ^ places + 1 / 2⌋ / 10 ^ places
  else -(⌊-q * 10 ^ places + 1 / 2⌋ / 10 ^ places)

variable {places : Nat} {q q' : ℚ}

theorem roundedTo_of_nonneg (h : 0 ≤ q) :
    roundedTo places q = ⌊q * 10 ^ places + 1 / 2⌋ / 10 ^ places :=
  if_pos h

theorem roundedTo_zero (places : Nat) : roundedTo places 0 = 0 := by
  have hhalf : ⌊(1 / 2 : ℚ)⌋ = 0 := by norm_num
  rw [roundedTo_of_nonneg (le_refl 0), zero_mul, zero_add, hhalf, Int.cast_zero, zero_div]

theorem roundedTo_neg (places : Nat) (q : ℚ) : roundedTo places (-q) = -roundedTo places q := by
  rcases lt_trichotomy q 0 with hbelow | rfl | habove
  · rw [roundedTo, if_pos (by linarith), roundedTo, if_neg (by linarith), neg_neg]
  · rw [neg_zero, roundedTo_zero, neg_zero]
  · rw [roundedTo, if_neg (by linarith), roundedTo, if_pos (by linarith), neg_neg]

theorem roundedTo_nonneg (h : 0 ≤ q) : 0 ≤ roundedTo places q := by
  have hscaled : 0 ≤ q * 10 ^ places + 1 / 2 := by positivity
  have hfloor : (0 : ℚ) ≤ ⌊q * 10 ^ places + 1 / 2⌋ := by
    exact_mod_cast Int.floor_nonneg.mpr hscaled
  rw [roundedTo_of_nonneg h]
  positivity

theorem abs_roundedTo_sub_le (places : Nat) (h : 0 ≤ q) :
    |roundedTo places q - q| ≤ 1 / 2 / 10 ^ places := by
  have hstep : (0 : ℚ) < 10 ^ places := by positivity
  have hlow := Int.floor_le (q * 10 ^ places + 1 / 2)
  have hhigh := Int.lt_floor_add_one (q * 10 ^ places + 1 / 2)
  have hvalue : roundedTo places q - q =
      (⌊q * 10 ^ places + 1 / 2⌋ - q * 10 ^ places) / 10 ^ places := by
    rw [roundedTo_of_nonneg h]
    field_simp
  rw [hvalue, abs_div, abs_of_pos hstep]
  apply div_le_div_of_nonneg_right _ (le_of_lt hstep)
  rw [abs_le]
  constructor
  · linarith
  · linarith

theorem roundedTo_of_eq {n : Nat} (h : q = n / 10 ^ places) : roundedTo places q = q := by
  have hstep : (10 : ℚ) ^ places ≠ 0 := by positivity
  have hfloor : ⌊(n : ℚ) + 1 / 2⌋ = n := by
    rw [Int.floor_eq_iff]
    push_cast
    constructor
    · linarith
    · linarith
  have hscaled : q * 10 ^ places = n := by
    rw [h]
    field_simp
  rw [roundedTo_of_nonneg (by rw [h]; positivity), hscaled, hfloor, h,
    Int.cast_natCast]

theorem exists_steps (places : Nat) (h : 0 ≤ q) : ∃ n : Nat, roundedTo places q = n / 10 ^ places := by
  have hfloor : 0 ≤ ⌊q * 10 ^ places + 1 / 2⌋ := Int.floor_nonneg.mpr (by positivity)
  refine ⟨⌊q * 10 ^ places + 1 / 2⌋.toNat, ?_⟩
  rw [roundedTo_of_nonneg h, ← Int.cast_natCast, Int.toNat_of_nonneg hfloor]

theorem roundedTo_lt_iff (h : 0 ≤ q) (n : Nat) :
    roundedTo places q < n / 10 ^ places ↔ q < (n - 1 / 2) / 10 ^ places := by
  have hstep : (0 : ℚ) < 10 ^ places := by positivity
  have hfloor : (⌊q * 10 ^ places + 1 / 2⌋ : ℚ) < n ↔ q * 10 ^ places + 1 / 2 < n := by
    have hint := Int.floor_lt (z := (n : ℤ)) (a := q * 10 ^ places + 1 / 2)
    rw [Int.cast_natCast] at hint
    rw [← hint]
    norm_cast
  rw [roundedTo_of_nonneg h, div_lt_div_iff_of_pos_right hstep, hfloor, lt_div_iff₀ hstep]
  constructor
  · intro hlt
    linarith
  · intro hlt
    linarith

theorem toRat_quantize_halfUp {x y : Decimal} (hx : x.isFinite = true)
    (h : quantize .halfUp places x = .ok y) : y.toRat = roundedTo places x.toRat := by
  rcases exists_of_isFinite hx with ⟨negative, c, e, rfl⟩
  have hmagnitude : (stepsOf .halfUp c e (-places) : ℚ) * 10 ^ (-places : Int) =
      roundedTo places (c * 10 ^ e) := by
    have hsteps : (stepsOf .halfUp c e (-places) : ℚ) =
        ⌊(c : ℚ) * 10 ^ e * 10 ^ places + 1 / 2⌋ := by
      rw [← Int.cast_natCast (R := ℚ), stepsOf_halfUp, zpow_neg, zpow_natCast, div_inv_eq_mul]
    rw [roundedTo_of_nonneg (value_nonneg c e), hsteps, zpow_neg, zpow_natCast, ← div_eq_mul_inv]
  rw [toRat_quantize h, toRat_finite, hmagnitude]
  cases negative with
  | false => simp [signOf]
  | true => simp [signOf, roundedTo_neg]

/-!
# Significant digits

A value is faint if nothing of it shows at fixed places.
-/

/-- The value has at most twenty-eight significant digits. -/
def FitsPrecision (q : ℚ) : Prop :=
  ∃ (m : Nat) (k : Int), m < tenPow precision ∧ |q| = m * 10 ^ k

def faint : ℚ :=
  10 ^ (minExponent + precision)

def SameUnlessFaint (q q' : ℚ) : Prop :=
  q = q' ∨ (|q| ≤ faint ∧ |q'| ≤ faint)

theorem sameUnlessFaint_trans {q q' q'' : ℚ} (h : SameUnlessFaint q q')
    (h' : SameUnlessFaint q' q'') : SameUnlessFaint q q'' := by
  rcases h with rfl | ⟨hq, hq'⟩
  · exact h'
  · rcases h' with rfl | ⟨_, hq''⟩
    · exact Or.inr ⟨hq, hq'⟩
    · exact Or.inr ⟨hq, hq''⟩

theorem sameUnlessFaint_div (h : SameUnlessFaint q q') (k : Nat) :
    SameUnlessFaint (q / 10 ^ k) (q' / 10 ^ k) := by
  have hless : ∀ {r : ℚ}, |r| ≤ faint → |r / 10 ^ k| ≤ faint := by
    intro r hr
    have hpower : (1 : ℚ) ≤ 10 ^ k := one_le_pow₀ (by norm_num)
    rw [abs_div, abs_of_pos (by positivity : (0 : ℚ) < 10 ^ k)]
    exact le_trans (div_le_self (abs_nonneg r) hpower) hr
  rcases h with rfl | ⟨hq, hq'⟩
  · exact Or.inl rfl
  · exact Or.inr ⟨hless hq, hless hq'⟩

theorem abs_lt_of_sameUnlessFaint (h : SameUnlessFaint q q') {n : Int} (hn : 0 ≤ n)
    (hq' : |q'| < 10 ^ n) : |q| < 10 ^ n := by
  rcases h with rfl | ⟨hq, _⟩
  · exact hq'
  · apply lt_of_le_of_lt hq
    rw [faint, zpow_lt_zpow_iff_right₀ (by norm_num)]
    simp only [minExponent, precision]
    omega

theorem roundedTo_of_faint (hplaces : places ≤ 1000) (h : |q| ≤ faint) :
    roundedTo places q = 0 := by
  have hsmall : faint * 10 ^ places ≤ 1 / 10 := by
    calc faint * 10 ^ places = 10 ^ (minExponent + precision + places) := by
          rw [faint, zpow_add₀ (by norm_num : (10 : ℚ) ≠ 0) _ (places : Int), zpow_natCast]
      _ ≤ 10 ^ (-1 : Int) := by
          apply zpow_le_zpow_right₀ (by norm_num)
          simp only [minExponent, precision]
          omega
      _ = 1 / 10 := by norm_num
  have hstep : (0 : ℚ) < 10 ^ places := by positivity
  have hnone : ∀ {r : ℚ}, 0 ≤ r → r ≤ faint → roundedTo places r = 0 := by
    intro r hr hfaint
    have hscaled : r * 10 ^ places ≤ faint * 10 ^ places :=
      mul_le_mul_of_nonneg_right hfaint (le_of_lt hstep)
    have hnonneg : 0 ≤ r * 10 ^ places := by positivity
    have hfloor : ⌊r * 10 ^ places + 1 / 2⌋ = 0 := by
      rw [Int.floor_eq_zero_iff, Set.mem_Ico]
      constructor
      · linarith
      · linarith
    rw [roundedTo_of_nonneg hr, hfloor, Int.cast_zero, zero_div]
  rcases le_total 0 q with hq | hq
  · exact hnone hq (by rwa [abs_of_nonneg hq] at h)
  · have hneg : roundedTo places (-q) = 0 :=
      hnone (by linarith) (by rwa [abs_of_nonpos hq] at h)
    rw [roundedTo_neg, neg_eq_zero] at hneg
    exact hneg

theorem roundedTo_congr (hplaces : places ≤ 1000) (h : SameUnlessFaint q q') :
    roundedTo places q = roundedTo places q' := by
  rcases h with rfl | ⟨hq, hq'⟩
  · rfl
  · rw [roundedTo_of_faint hplaces hq, roundedTo_of_faint hplaces hq']

theorem fitsPrecision_zero : FitsPrecision 0 :=
  ⟨0, 0, tenPow_pos _, by simp⟩

theorem fitsPrecision_of_digits {negative : Bool} {c : Nat} {e : Int}
    (h : digitCount c ≤ precision) : FitsPrecision (finite negative c e).toRat :=
  ⟨c, e, (digitCount_le_iff (by decide)).mp h, abs_toRat_finite negative c e⟩

theorem fitsPrecision_div (h : FitsPrecision q) (k : Nat) : FitsPrecision (q / 10 ^ k) := by
  rcases h with ⟨m, e, hm, hvalue⟩
  refine ⟨m, e - k, hm, ?_⟩
  rw [abs_div, hvalue, abs_of_pos (by positivity : (0 : ℚ) < 10 ^ k), zpow_sub₀ (by norm_num),
    zpow_natCast]
  ring

theorem settled_of_fits {c : Nat} {e : Int} (h : FitsPrecision ((c : ℚ) * 10 ^ e)) :
    SameUnlessFaint (settled c e) (c * 10 ^ e) := by
  rcases h with ⟨m, k, hm, hvalue⟩
  rw [abs_of_nonneg (value_nonneg c e)] at hvalue
  by_cases hc : c = 0
  · rw [hc, settled_zero, Nat.cast_zero, zero_mul]
    exact Or.inl rfl
  · by_cases hfine : reach c e - precision ≤ minExponent
    · have hplace : lastPlace c e = minExponent := by
        simp only [lastPlace]
        omega
      have hsmall : (c : ℚ) * 10 ^ e ≤ faint :=
        le_trans (le_of_lt (lt_zpow_reach c e))
          (zpow_le_zpow_right₀ (by norm_num) (by omega))
      have hsettled : settled c e ≤ faint := by
        apply settled_le_zpow _ hsmall
        rw [hplace]
        omega
      right
      rw [abs_of_nonneg (settled_nonneg c e), abs_of_nonneg (value_nonneg c e)]
      exact ⟨hsettled, hsmall⟩
    · have hplace : lastPlace c e = reach c e - precision := by
        simp only [lastPlace]
        omega
      have hreach : reach c e ≤ reach m k := reach_mono hc (le_of_eq hvalue)
      have hdigits : digitCount m ≤ precision := (digitCount_le_iff (by decide)).mpr hm
      have hcoarse : lastPlace c e ≤ k := by
        simp only [reach] at hreach hplace
        omega
      left
      have hsteps : (c : ℚ) * 10 ^ e =
          (m * tenPow (k - lastPlace c e).toNat : Nat) * 10 ^ lastPlace c e := by
        rw [hvalue]
        push_cast
        rw [cast_tenPow, mul_assoc, ← zpow_add₀ (by norm_num)]
        congr 2
        omega
      rw [settled, stepsOf_of_eq .halfEven hsteps, hsteps]

theorem toRat_settle_of_fits {negative : Bool} {c : Nat} {e : Int} {x : Decimal}
    (hx : settle negative c e = .ok x) (h : FitsPrecision (finite negative c e).toRat) :
    SameUnlessFaint x.toRat (finite negative c e).toRat := by
  have hvalue : FitsPrecision ((c : ℚ) * 10 ^ e) := by
    rcases h with ⟨m, k, hm, habs⟩
    refine ⟨m, k, hm, ?_⟩
    rw [abs_of_nonneg (value_nonneg c e), ← habs, abs_toRat_finite]
  rw [toRat_settle hx, toRat_finite]
  have habs : ∀ r : ℚ, |signOf negative * r| = |r| := by
    intro r
    cases negative with
    | false => simp [signOf]
    | true => simp [signOf]
  rcases settled_of_fits hvalue with hsame | hfaint
  · exact Or.inl (by rw [hsame])
  · exact Or.inr (by rwa [habs, habs])

end Decimal
end ReviewDesk
