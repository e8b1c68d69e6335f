import ReviewDesk.Proofs.Decimal.Room
import ReviewDesk.Proofs.Number.Quotient

/-!
# Numbers on a grid

Both roundings of an amount bring it to a grid whose step is a power of ten: settling to
twenty-eight digits, with a step that depends on the size of the number, and fixing the
number of places.  Rounding to a grid depends on the value of the number alone, so neither
rounding reverses an order.
-/

namespace ReviewDesk
namespace Decimal

/-!
# Steps
-/

/-- How many steps of `10 ^ g` come nearest to `c * 10 ^ e`. -/
def stepsOf (mode : Rounding) (c : Nat) (e g : Int) : Nat :=
  mode.quotient (c * tenPow (e - g).toNat) (tenPow (g - e).toNat)

theorem tenPow_div_tenPow (e g : Int) :
    ((tenPow (e - g).toNat : Nat) : ℚ) / (tenPow (g - e).toNat : Nat) = 10 ^ (e - g) := by
  rw [cast_tenPow, cast_tenPow, ← zpow_sub₀ (by norm_num)]
  congr 1
  omega

theorem stepsOf_quotient (c : Nat) (e g : Int) :
    ((c * tenPow (e - g).toNat : Nat) : ℚ) / (tenPow (g - e).toNat : Nat) =
      c * 10 ^ e / 10 ^ g := by
  rw [mul_div_assoc, ← zpow_sub₀ (by norm_num), ← tenPow_div_tenPow]
  push_cast
  rw [mul_div_assoc]

theorem stepsOf_mono (mode : Rounding) {c c' : Nat} {e e' : Int} (g : Int)
    (h : (c : ℚ) * 10 ^ e ≤ c' * 10 ^ e') : stepsOf mode c e g ≤ stepsOf mode c' e' g := by
  have hstep : (0 : ℚ) < 10 ^ g := zpow_pos (by norm_num) g
  apply mode.quotient_mono (tenPow_pos _) (tenPow_pos _)
  rw [stepsOf_quotient, stepsOf_quotient]
  exact div_le_div_of_nonneg_right h (le_of_lt hstep)

theorem stepsOf_of_eq (mode : Rounding) {c m : Nat} {e g : Int}
    (h : (c : ℚ) * 10 ^ e = m * 10 ^ g) : stepsOf mode c e g = m := by
  have hstep : (10 : ℚ) ^ g ≠ 0 := zpow_ne_zero g (by norm_num)
  apply mode.quotient_of_eq (tenPow_pos _)
  rw [stepsOf_quotient, h, mul_div_cancel_right₀ _ hstep]

theorem stepsOf_zero (mode : Rounding) (e g : Int) : stepsOf mode 0 e g = 0 :=
  stepsOf_of_eq mode (by simp)

theorem stepsOf_halfUp (c : Nat) (e g : Int) :
    (stepsOf .halfUp c e g : ℤ) = ⌊(c : ℚ) * 10 ^ e / 10 ^ g + 1 / 2⌋ := by
  rw [stepsOf, Rounding.quotient_halfUp (tenPow_pos _), stepsOf_quotient]

theorem dropDigits_eq_quotient (mode : Rounding) (n k : Nat) :
    dropDigits mode n k = mode.quotient n (tenPow k) := by
  unfold dropDigits
  split
  · rename_i hshort
    have hsmall : n * 10 < tenPow k := by
      obtain ⟨j, hj⟩ : ∃ j, k = digitCount n + 1 + j := ⟨k - (digitCount n + 1), by omega⟩
      calc n * 10 < tenPow (digitCount n) * 10 :=
            Nat.mul_lt_mul_of_pos_right (lt_tenPow_digitCount n) (by decide)
        _ = tenPow (digitCount n + 1) := (tenPow_succ _).symm
        _ ≤ tenPow (digitCount n + 1) * tenPow j := Nat.le_mul_of_pos_right _ (tenPow_pos j)
        _ = tenPow k := by rw [← tenPow_add, ← hj]
    symm
    apply Nat.eq_zero_of_not_pos
    rw [mode.lt_quotient_iff (tenPow_pos k)]
    omega
  · rfl

theorem dropDigits_eq_stepsOf (mode : Rounding) (c k : Nat) (e : Int) :
    dropDigits mode c k = stepsOf mode c e (e + k) := by
  rw [dropDigits_eq_quotient, stepsOf, show (e - (e + k)).toNat = 0 by omega,
    show (e + k - e).toNat = k by omega, tenPow_zero, Nat.mul_one]

/-!
# The reach of a value
-/

theorem zpow_reach_le {c : Nat} (hc : c ≠ 0) (e : Int) :
    (10 : ℚ) ^ (reach c e - 1) ≤ c * 10 ^ e := by
  obtain ⟨j, hj⟩ : ∃ j, digitCount c = j + 1 :=
    Nat.exists_eq_succ_of_ne_zero (Nat.ne_of_gt (digitCount_pos c))
  have hlow : (tenPow j : ℚ) ≤ c := by exact_mod_cast tenPow_le_of_digitCount hc hj
  have hpositive : (0 : ℚ) < 10 ^ e := zpow_pos (by norm_num) e
  calc (10 : ℚ) ^ (reach c e - 1) = 10 ^ ((j : Int) + e) := by
        congr 1
        simp only [reach]
        omega
    _ = tenPow j * 10 ^ e := by rw [zpow_add₀ (by norm_num), cast_tenPow]
    _ ≤ c * 10 ^ e := mul_le_mul_of_nonneg_right hlow (le_of_lt hpositive)

theorem lt_zpow_reach (c : Nat) (e : Int) : (c : ℚ) * 10 ^ e < 10 ^ reach c e := by
  have hhigh : (c : ℚ) < tenPow (digitCount c) := by exact_mod_cast lt_tenPow_digitCount c
  have hpositive : (0 : ℚ) < 10 ^ e := zpow_pos (by norm_num) e
  calc (c : ℚ) * 10 ^ e < tenPow (digitCount c) * 10 ^ e :=
        mul_lt_mul_of_pos_right hhigh hpositive
    _ = 10 ^ reach c e := by rw [reach, zpow_add₀ (by norm_num), cast_tenPow]

theorem reach_le_of_lt {c : Nat} (hc : c ≠ 0) {e n : Int} (h : (c : ℚ) * 10 ^ e < 10 ^ n) :
    reach c e ≤ n := by
  have hlow := lt_of_le_of_lt (zpow_reach_le hc e) h
  rw [zpow_lt_zpow_iff_right₀ (by norm_num)] at hlow
  omega

theorem reach_mono {c c' : Nat} {e e' : Int} (hc : c ≠ 0)
    (h : (c : ℚ) * 10 ^ e ≤ c' * 10 ^ e') : reach c e ≤ reach c' e' :=
  reach_le_of_lt hc (lt_of_le_of_lt h (lt_zpow_reach c' e'))

/-!
# Settled values

A number is settled on the grid of its twenty-eighth digit, or on the finest grid there is
if that is coarser.
-/

def lastPlace (c : Nat) (e : Int) : Int :=
  max (reach c e - precision) minExponent

/-- The value that `c * 10 ^ e` has once it is settled. -/
def settled (c : Nat) (e : Int) : ℚ :=
  stepsOf .halfEven c e (lastPlace c e) * 10 ^ lastPlace c e

theorem settled_zero (e : Int) : settled 0 e = 0 := by
  simp [settled, stepsOf_zero]

theorem settled_nonneg (c : Nat) (e : Int) : 0 ≤ settled c e :=
  mul_nonneg (Nat.cast_nonneg _) (zpow_nonneg (by norm_num) _)

theorem rounded_eq_settled (c : Nat) (e : Int) :
    (rounded c e : ℚ) * 10 ^ (e + dropped c e) = settled c e := by
  have hdropped : (dropped c e : Int) = max (lastPlace c e - e) 0 := by
    simp only [dropped, lastPlace, reach]
    omega
  by_cases hcoarse : e ≤ lastPlace c e
  · have hgrid : e + dropped c e = lastPlace c e := by omega
    rw [rounded, dropDigits_eq_stepsOf .halfEven c (dropped c e) e, hgrid, settled]
  · have hnone : dropped c e = 0 := by omega
    have hsteps : (c : ℚ) * 10 ^ e =
        (c * tenPow (e - lastPlace c e).toNat : Nat) * 10 ^ lastPlace c e := by
      push_cast
      rw [cast_tenPow, mul_assoc, ← zpow_add₀ (by norm_num)]
      congr 2
      omega
    rw [rounded_of_dropped_eq_zero hnone, hnone, settled, stepsOf_of_eq .halfEven hsteps]
    simpa using hsteps

theorem zpow_eq_steps {g n : Int} (h : g ≤ n) :
    ((1 : Nat) : ℚ) * 10 ^ n = (tenPow (n - g).toNat : Nat) * 10 ^ g := by
  rw [cast_tenPow, ← zpow_add₀ (by norm_num), Nat.cast_one, one_mul]
  congr 1
  omega

theorem steps_le_zpow (mode : Rounding) {c : Nat} {e g n : Int} (hg : g ≤ n)
    (h : (c : ℚ) * 10 ^ e ≤ 10 ^ n) : (stepsOf mode c e g : ℚ) * 10 ^ g ≤ 10 ^ n := by
  have hstep : (0 : ℚ) < 10 ^ g := zpow_pos (by norm_num) g
  have hsteps : stepsOf mode c e g ≤ tenPow (n - g).toNat := by
    rw [← stepsOf_of_eq mode (zpow_eq_steps hg)]
    exact stepsOf_mono mode g (by simpa using h)
  calc (stepsOf mode c e g : ℚ) * 10 ^ g ≤ (tenPow (n - g).toNat : Nat) * 10 ^ g :=
        mul_le_mul_of_nonneg_right (by exact_mod_cast hsteps) (le_of_lt hstep)
    _ = 10 ^ n := by rw [← zpow_eq_steps hg, Nat.cast_one, one_mul]

theorem settled_le_zpow {c : Nat} {e n : Int} (hn : lastPlace c e ≤ n)
    (h : (c : ℚ) * 10 ^ e ≤ 10 ^ n) : settled c e ≤ 10 ^ n :=
  steps_le_zpow .halfEven hn h

theorem zpow_le_settled {c : Nat} {e n : Int} (hn : lastPlace c e ≤ n)
    (h : (10 : ℚ) ^ n ≤ c * 10 ^ e) : 10 ^ n ≤ settled c e := by
  have hstep : (0 : ℚ) < 10 ^ lastPlace c e := zpow_pos (by norm_num) _
  have hsteps : tenPow (n - lastPlace c e).toNat ≤ stepsOf .halfEven c e (lastPlace c e) := by
    rw [← stepsOf_of_eq .halfEven (zpow_eq_steps hn)]
    exact stepsOf_mono .halfEven _ (by simpa using h)
  calc (10 : ℚ) ^ n = (tenPow (n - lastPlace c e).toNat : Nat) * 10 ^ lastPlace c e := by
        rw [← zpow_eq_steps hn, Nat.cast_one, one_mul]
    _ ≤ settled c e :=
      mul_le_mul_of_nonneg_right (by exact_mod_cast hsteps) (le_of_lt hstep)

theorem settled_mono {c c' : Nat} {e e' : Int} (h : (c : ℚ) * 10 ^ e ≤ c' * 10 ^ e') :
    settled c e ≤ settled c' e' := by
  by_cases hc : c = 0
  · rw [hc, settled_zero]
    exact settled_nonneg c' e'
  · have hreach : reach c e ≤ reach c' e' := reach_mono hc h
    have hc' : c' ≠ 0 := by
      rintro rfl
      have hpositive := lt_of_lt_of_le (zpow_pos (by norm_num) _) (zpow_reach_le hc e)
      simp only [Nat.cast_zero, zero_mul] at h
      linarith
    have hprecision : precision = 28 := rfl
    -- between numbers on two grids lies a power of ten that is on both
    by_cases hgrid : lastPlace c e = lastPlace c' e'
    · have hsteps := stepsOf_mono .halfEven (lastPlace c' e') h
      have hstep : (0 : ℚ) ≤ 10 ^ lastPlace c' e' := zpow_nonneg (by norm_num) _
      rw [settled, settled, hgrid]
      exact mul_le_mul_of_nonneg_right (by exact_mod_cast hsteps) hstep
    · have hfarther : reach c e < reach c' e' := by
        simp only [lastPlace] at hgrid
        omega
      have hplace : lastPlace c' e' = reach c' e' - precision := by
        simp only [lastPlace] at hgrid ⊢
        omega
      have hplace' : lastPlace c e ≤ reach c' e' - 1 := by
        simp only [lastPlace] at hgrid hplace ⊢
        omega
      have hbelow : (c : ℚ) * 10 ^ e ≤ 10 ^ (reach c' e' - 1) :=
        le_trans (le_of_lt (lt_zpow_reach c e))
          (zpow_le_zpow_right₀ (by norm_num) (by omega))
      calc settled c e ≤ 10 ^ (reach c' e' - 1) := settled_le_zpow hplace' hbelow
        _ ≤ settled c' e' := zpow_le_settled (by omega) (zpow_reach_le hc' e')

/-!
# Signs

What does not reverse the order of magnitudes does not reverse the order of signed numbers.
-/

def signOf (negative : Bool) : ℚ :=
  if negative then -1 else 1

theorem toRat_finite (negative : Bool) (c : Nat) (e : Int) :
    (finite negative c e).toRat = signOf negative * (c * 10 ^ e) :=
  rfl

theorem value_nonneg (c : Nat) (e : Int) : (0 : ℚ) ≤ c * 10 ^ e :=
  mul_nonneg (Nat.cast_nonneg c) (zpow_nonneg (by norm_num) e)

theorem coefficient_eq_zero {c : Nat} {e : Int} (h : (c : ℚ) * 10 ^ e ≤ 0) : c = 0 := by
  have hpositive : (0 : ℚ) < 10 ^ e := zpow_pos (by norm_num) e
  have hc : (c : ℚ) ≤ 0 := nonpos_of_mul_nonpos_left h hpositive
  exact Nat.le_zero.mp (by exact_mod_cast hc)

theorem signed_mono {f : Nat → Int → ℚ} (hzero : ∀ e, f 0 e = 0) (hnonneg : ∀ c e, 0 ≤ f c e)
    (hmono : ∀ {c c' : Nat} {e e' : Int}, (c : ℚ) * 10 ^ e ≤ c' * 10 ^ e' → f c e ≤ f c' e')
    {s s' : Bool} {c c' : Nat} {e e' : Int}
    (h : (finite s c e).toRat ≤ (finite s' c' e').toRat) :
    signOf s * f c e ≤ signOf s' * f c' e' := by
  have hvalue := value_nonneg c e
  have hvalue' := value_nonneg c' e'
  have hf := hnonneg c e
  have hf' := hnonneg c' e'
  rw [toRat_finite, toRat_finite] at h
  cases s with
  | false =>
      cases s' with
      | false =>
          simp only [signOf, Bool.false_eq_true, if_false, one_mul] at h ⊢
          exact hmono h
      | true =>
          -- only nothing is below a number that is not above it
          simp only [signOf, Bool.false_eq_true, if_false, if_true, one_mul, neg_mul] at h
          have hnone : c = 0 := coefficient_eq_zero (e := e) (by linarith)
          have hnone' : c' = 0 := coefficient_eq_zero (e := e') (by linarith)
          rw [hnone, hnone', hzero, hzero, mul_zero, mul_zero]
  | true =>
      cases s' with
      | false =>
          simp only [signOf, Bool.false_eq_true, if_false, if_true, one_mul, neg_mul]
          linarith
      | true =>
          simp only [signOf, if_true, neg_mul, one_mul] at h ⊢
          have hmirrored : (c' : ℚ) * 10 ^ e' ≤ c * 10 ^ e := by linarith
          have hmagnitude := hmono hmirrored
          linarith

/-!
# Settling
-/

theorem settle_zero (negative : Bool) (e : Int) :
    ∃ e', settle negative 0 e = .ok (finite negative 0 e') :=
  ⟨_, if_pos rfl⟩

theorem toRat_settle {negative : Bool} {c : Nat} {e : Int} {x : Decimal}
    (h : settle negative c e = .ok x) : x.toRat = signOf negative * settled c e := by
  by_cases hc : c = 0
  · rw [hc] at h ⊢
    rcases settle_zero negative e with ⟨e', he'⟩
    rw [he'] at h
    cases h
    rw [toRat_finite, settled_zero, Nat.cast_zero, zero_mul]
  · rcases settle_eq negative hc e with ⟨c', e', _, _, _, hvalue, hsettle⟩
    rw [hsettle] at h
    split at h
    · cases h
    · cases h
      rw [toRat_finite, hvalue, rounded_eq_settled]

theorem settle_of_lt (negative : Bool) {c : Nat} {e n : Int} (hlow : minExponent ≤ n)
    (hhigh : n ≤ maxMagnitude) (h : (c : ℚ) * 10 ^ e < 10 ^ n) :
    ∃ x, settle negative c e = .ok x := by
  by_cases hc : c = 0
  · rw [hc]
    rcases settle_zero negative e with ⟨e', he'⟩
    exact ⟨_, he'⟩
  · rcases settle_eq negative hc e with ⟨c', e', _, hzero, hreach, hvalue, hsettle⟩
    have hprecision : precision = 28 := rfl
    have hplace : lastPlace c e ≤ n := by
      have hle := reach_le_of_lt hc h
      simp only [lastPlace]
      omega
    have hnear : reach c' e' - 1 ≤ n := by
      by_cases hc' : c' = 0
      · have hleast := exponent_of_rounded_eq_zero hc (hzero.mp hc')
        rw [hreach, hzero.mp hc', reach, hleast, digitCount_zero]
        omega
      · have hle := settled_le_zpow hplace (le_of_lt h)
        rw [← rounded_eq_settled, ← hvalue] at hle
        exact (zpow_le_zpow_iff_right₀ (by norm_num)).mp (le_trans (zpow_reach_le hc' e') hle)
    rw [hsettle, if_neg (by omega)]
    exact ⟨_, rfl⟩

theorem settle_mono {s s' : Bool} {c c' : Nat} {e e' : Int} {x x' : Decimal}
    (hx : settle s c e = .ok x) (hx' : settle s' c' e' = .ok x')
    (h : (finite s c e).toRat ≤ (finite s' c' e').toRat) : x.toRat ≤ x'.toRat := by
  rw [toRat_settle hx, toRat_settle hx']
  exact signed_mono settled_zero settled_nonneg settled_mono h

/-!
# Fixed places
-/

/-- The number has so many decimals, as it is written. -/
def HasPlaces (places : Nat) (x : Decimal) : Prop :=
  ∃ negative c, x = finite negative c (-places)

theorem moved_eq_stepsOf (mode : Rounding) (places c : Nat) (e : Int) :
    (if 0 ≤ e + (places : Int) then c * tenPow (e + places).toNat
      else dropDigits mode c (-(e + places)).toNat) = stepsOf mode c e (-places) := by
  split
  · rename_i hup
    symm
    apply stepsOf_of_eq
    push_cast
    rw [cast_tenPow, mul_assoc, ← zpow_add₀ (by norm_num)]
    congr 2
    omega
  · rename_i hdown
    rw [dropDigits_eq_stepsOf mode c _ e]
    congr 1
    omega

theorem quantize_eq {mode : Rounding} {places : Nat} {negative : Bool} {c : Nat} {e : Int}
    {y : Decimal} (h : quantize mode places (finite negative c e) = .ok y) :
    y = finite negative (stepsOf mode c e (-places)) (-places) := by
  simp only [quantize, moved_eq_stepsOf] at h
  split at h
  · rename_i hzero
    cases h
    rw [hzero, stepsOf_zero]
  · split at h
    · cases h
    · split at h
      · cases h
      · cases h
        rfl

theorem toRat_quantize {mode : Rounding} {places : Nat} {negative : Bool} {c : Nat} {e : Int}
    {y : Decimal} (h : quantize mode places (finite negative c e) = .ok y) :
    y.toRat = signOf negative * (stepsOf mode c e (-places) * 10 ^ (-places : Int)) := by
  rw [quantize_eq h, toRat_finite]

theorem hasPlaces_of_quantize {mode : Rounding} {places : Nat} {x y : Decimal}
    (hx : x.isFinite = true) (h : quantize mode places x = .ok y) : y.HasPlaces places := by
  rcases exists_of_isFinite hx with ⟨negative, c, e, rfl⟩
  exact ⟨negative, _, quantize_eq h⟩

theorem quantize_mono {mode : Rounding} {places : Nat} {x x' y y' : Decimal}
    (hx : x.isFinite = true) (hx' : x'.isFinite = true) (hy : quantize mode places x = .ok y)
    (hy' : quantize mode places x' = .ok y') (h : x.toRat ≤ x'.toRat) : y.toRat ≤ y'.toRat := by
  rcases exists_of_isFinite hx with ⟨s, c, e, rfl⟩
  rcases exists_of_isFinite hx' with ⟨s', c', e', rfl⟩
  have hstep : (0 : ℚ) ≤ 10 ^ (-places : Int) := zpow_nonneg (by norm_num) _
  rw [toRat_quantize hy, toRat_quantize hy']
  refine signed_mono (f := fun c e => stepsOf mode c e (-places) * 10 ^ (-places : Int)) ?_ ?_ ?_ h
  · intro e
    simp [stepsOf_zero]
  · intro c e
    exact mul_nonneg (Nat.cast_nonneg _) hstep
  · intro c c' e e' hle
    exact mul_le_mul_of_nonneg_right (by exact_mod_cast stepsOf_mono mode _ hle) hstep

end Decimal
end ReviewDesk
