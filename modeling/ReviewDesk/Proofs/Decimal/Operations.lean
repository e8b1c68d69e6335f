import ReviewDesk.Proofs.Decimal.Places
import ReviewDesk.Proofs.Outcome

/-!
# Products, shares and sums

Every operation settles a number that it has formed exactly.  So what is true of settling
is true of each of them: it does not reverse an order, and it changes no number that has at
most twenty-eight digits and is not faint.
-/

namespace ReviewDesk
namespace Decimal

/-!
# Exact results
-/

/-- An operation that has formed a number exactly ends with that number, settled. -/
def IsResult (q : ℚ) (result : Except Trap Decimal) : Prop :=
  ∃ negative c e, result = settle negative c e ∧ (finite negative c e).toRat = q

variable {q q' : ℚ} {result result' : Except Trap Decimal} {x y z z' : Decimal} {places : Nat}

theorem isFinite_of_isResult (h : IsResult q result) (hz : result = .ok z) :
    z.isFinite = true := by
  rcases h with ⟨negative, c, e, rfl, _⟩
  exact isFinite_settle hz

theorem isResult_mono (h : IsResult q result) (h' : IsResult q' result') (hle : q ≤ q')
    (hz : result = .ok z) (hz' : result' = .ok z') : z.toRat ≤ z'.toRat := by
  rcases h with ⟨negative, c, e, rfl, rfl⟩
  rcases h' with ⟨negative', c', e', rfl, rfl⟩
  exact settle_mono hz hz' hle

theorem isResult_fits (h : IsResult q result) (hz : result = .ok z) (hfits : FitsPrecision q) :
    SameUnlessFaint z.toRat q := by
  rcases h with ⟨negative, c, e, rfl, rfl⟩
  exact toRat_settle_of_fits hz hfits

theorem isResult_ok (h : IsResult q result) {n : Int} (hlow : minExponent ≤ n)
    (hhigh : n ≤ maxMagnitude) (hq : |q| < 10 ^ n) : ∃ z, result = .ok z := by
  rcases h with ⟨negative, c, e, rfl, rfl⟩
  rw [abs_toRat_finite] at hq
  exact settle_of_lt negative hlow hhigh hq

theorem isResult_digits (h : IsResult q result) (hz : result = .ok z) :
    ∃ negative c e, z = finite negative c e ∧ digitCount c ≤ precision := by
  rcases h with ⟨negative, c, e, rfl, _⟩
  by_cases hc : c = 0
  · rw [hc] at hz
    rcases settle_zero negative e with ⟨e', he'⟩
    rw [he'] at hz
    cases hz
    exact ⟨negative, 0, e', rfl, by decide⟩
  · rcases settle_eq negative hc e with ⟨c', e', hdigits, _, _, _, hsettle⟩
    rw [hsettle] at hz
    split at hz
    · cases hz
    · cases hz
      exact ⟨negative, c', e', rfl, hdigits⟩

theorem fitsPrecision_of_isResult (h : IsResult q result) (hz : result = .ok z) :
    FitsPrecision z.toRat := by
  rcases isResult_digits h hz with ⟨negative, c, e, rfl, hdigits⟩
  exact fitsPrecision_of_digits hdigits

theorem isResult_quantize_ok (h : IsResult q result) (hz : result = .ok z) (mode : Rounding)
    (places : Nat) {n : Int} (hn : n + places ≤ precision) (hlt : |z.toRat| < 10 ^ n) :
    ∃ y, quantize mode places z = .ok y := by
  rcases isResult_digits h hz with ⟨negative, c, e, rfl, hdigits⟩
  rw [quantize_ok_iff mode places negative e hdigits]
  rw [abs_toRat_finite] at hlt
  by_cases hc : c = 0
  · exact Or.inl hc
  · have hreach : reach c e ≤ n := reach_le_of_lt hc hlt
    exact Or.inr (by omega)

/-!
# Signs
-/

theorem toRat_nonneg_of_isPositive (h : x.isPositive = true) : 0 ≤ x.toRat := by
  cases x with
  | finite negative c e =>
      cases negative with
      | false => simpa [toRat_finite, signOf] using value_nonneg c e
      | true => simp [isPositive] at h
  | infinite negative => exact le_refl 0
  | nan negative signaling payload => exact le_refl 0

theorem toRat_of_isZero (h : x.IsZero) : x.toRat = 0 := by
  rcases h with ⟨negative, e, rfl⟩
  rw [toRat_finite, Nat.cast_zero, zero_mul, mul_zero]

theorem signOf_bne (s t : Bool) : signOf (s != t) = signOf s * signOf t := by
  cases s <;> cases t <;> simp [signOf]

theorem cast_signed (negative : Bool) (n : Nat) :
    ((signed negative n : Int) : ℚ) = signOf negative * n := by
  cases negative <;> simp [signed, signOf]

theorem signOf_natAbs (n : Int) : signOf (decide (n < 0)) * (n.natAbs : ℚ) = n := by
  have hcast : ((n.natAbs : Nat) : ℚ) = |(n : ℚ)| := by
    rw [Nat.cast_natAbs, Int.cast_abs]
  rw [hcast]
  rcases lt_or_ge n 0 with hneg | hnonneg
  · have hcastNeg : (n : ℚ) ≤ 0 := by exact_mod_cast le_of_lt hneg
    rw [signOf, decide_eq_true hneg, if_pos rfl, abs_of_nonpos hcastNeg, neg_one_mul, neg_neg]
  · have hcastNonneg : (0 : ℚ) ≤ n := by exact_mod_cast hnonneg
    rw [signOf, decide_eq_false (not_lt.mpr hnonneg), if_neg (by decide),
      abs_of_nonneg hcastNonneg, one_mul]

theorem toRat_ofInt (n : Int) : (ofInt n).toRat = n := by
  rw [ofInt, toRat_finite, zpow_zero, mul_one, signOf_natAbs]

/-!
# Operations
-/

theorem isResult_mul (hx : x.isFinite = true) (hy : y.isFinite = true) :
    IsResult (x.toRat * y.toRat) (x.mul y) := by
  rcases exists_of_isFinite hx with ⟨s, c, e, rfl⟩
  rcases exists_of_isFinite hy with ⟨t, d, f, rfl⟩
  refine ⟨s != t, c * d, e + f, rfl, ?_⟩
  rw [toRat_finite, toRat_finite, toRat_finite, signOf_bne, zpow_add₀ (by norm_num)]
  push_cast
  ring

theorem isResult_shiftDown (hx : x.isFinite = true) (k : Nat) :
    IsResult (x.toRat / 10 ^ k) (shiftDown k x) := by
  rcases exists_of_isFinite hx with ⟨s, c, e, rfl⟩
  refine ⟨s, c, e - k, rfl, ?_⟩
  rw [toRat_finite, toRat_finite, zpow_sub₀ (by norm_num), zpow_natCast]
  ring

theorem isResult_add (hx : x.isFinite = true) (hy : y.isFinite = true) :
    IsResult (x.toRat + y.toRat) (x.add y) := by
  rcases exists_of_isFinite hx with ⟨s, c, e, rfl⟩
  rcases exists_of_isFinite hy with ⟨t, d, f, rfl⟩
  refine ⟨_, _, min e f, rfl, ?_⟩
  have htotal : ∀ (n : Int) (both : Bool),
      signOf (if n = 0 then both else decide (n < 0)) * (n.natAbs : ℚ) = n := by
    intro n both
    by_cases hzero : n = 0
    · simp [hzero]
    · rw [if_neg hzero, signOf_natAbs]
  have hscaled : ∀ (negative : Bool) (n : Nat) (k : Int), min e f ≤ k →
      ((signed negative n : Int) : ℚ) * (tenPow (k - min e f).toNat : Nat) * 10 ^ min e f =
        (finite negative n k).toRat := by
    intro negative n k hk
    rw [cast_signed, cast_tenPow, toRat_finite, mul_assoc, ← zpow_add₀ (by norm_num), mul_assoc]
    congr 3
    omega
  rw [← hscaled s c e (min_le_left e f), ← hscaled t d f (min_le_right e f), toRat_finite,
    ← mul_assoc, htotal]
  push_cast
  ring

/-!
# Results at fixed places
-/

theorem quantize_isResult_exact (h : IsResult q result) (hplaces : places ≤ 1000)
    (hfits : FitsPrecision q) (hz : (result >>= quantize .halfUp places) = .ok z) :
    z.toRat = roundedTo places q := by
  rcases bind_eq_ok_iff.mp hz with ⟨settled, hsettled, hquantized⟩
  rw [toRat_quantize_halfUp (isFinite_of_isResult h hsettled) hquantized]
  exact roundedTo_congr hplaces (isResult_fits h hsettled hfits)

theorem quantize_isResult_mono {mode : Rounding} (h : IsResult q result)
    (h' : IsResult q' result') (hle : q ≤ q') (hz : (result >>= quantize mode places) = .ok z)
    (hz' : (result' >>= quantize mode places) = .ok z') : z.toRat ≤ z'.toRat := by
  rcases bind_eq_ok_iff.mp hz with ⟨settled, hsettled, hquantized⟩
  rcases bind_eq_ok_iff.mp hz' with ⟨settled', hsettled', hquantized'⟩
  exact quantize_mono (isFinite_of_isResult h hsettled) (isFinite_of_isResult h' hsettled')
    hquantized hquantized' (isResult_mono h h' hle hsettled hsettled')

theorem hasPlaces_of_isResult {mode : Rounding} (h : IsResult q result)
    (hz : (result >>= quantize mode places) = .ok z) : z.HasPlaces places := by
  rcases bind_eq_ok_iff.mp hz with ⟨settled, hsettled, hquantized⟩
  exact hasPlaces_of_quantize (isFinite_of_isResult h hsettled) hquantized

end Decimal
end ReviewDesk
