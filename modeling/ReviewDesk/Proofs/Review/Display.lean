import ReviewDesk.Proofs.Calendar.Seoul
import ReviewDesk.Proofs.Decimal.Room
import ReviewDesk.Proofs.Exchange.Office
import ReviewDesk.Proofs.Number.Binary
import ReviewDesk.Proofs.Review.Columns
import ReviewDesk.Review.Display

/-!
# What can be shown of a row

A converted amount has at most twenty-eight digits, two of them after the point.  Being
kept as a binary number may give it one more, which leaves it short enough to be rounded
to whole won.
-/

namespace ReviewDesk
namespace Decimal

/-- A number with fixed places and at most twenty-eight digits, or a quiet value that
stands for no number. -/
def IsMoney (places : Nat) (x : Decimal) : Prop :=
  (∃ negative c, x = finite negative c (-places) ∧ digitCount c ≤ precision) ∨
    ∃ negative payload, x = nan negative false payload

theorem isMoney_of_quantize {mode : Rounding} {places : Nat} {x y : Decimal}
    (h : x.quantize mode places = .ok y) : y.IsMoney places := by
  cases x with
  | finite negative c e =>
      simp only [quantize] at h
      split at h
      · cases h
        exact Or.inl ⟨negative, 0, rfl, by decide⟩
      · generalize (if 0 ≤ e + (places : Int) then c * tenPow (e + places).toNat
          else dropDigits mode c (-(e + places)).toNat) = n at h
        split at h
        · cases h
        · split at h
          · cases h
          · rename_i hdigits
            cases h
            exact Or.inl ⟨negative, n, rfl, Nat.not_lt.mp hdigits⟩
  | infinite negative => cases h
  | nan negative signaling payload =>
      cases signaling with
      | true => cases h
      | false =>
          cases h
          exact Or.inr ⟨negative, _, rfl⟩

end Decimal

namespace Office

theorem isMoney_of_convert {o : Office} {now : Moment} {answer : Except Fault RateResponse}
    {amount krw : Decimal} (h : (o.convert now answer amount).2.result = .ok (.success krw)) :
    krw.IsMoney places := by
  unfold convert convertDuring at h
  split at h
  · cases h
  · cases h
    exact Or.inl ⟨false, 0, rfl, by decide⟩
  · rcases bind_eq_ok_iff.mp h with ⟨found, _, hconverted⟩
    cases found with
    | failure reason detail => cases hconverted
    | success rate =>
        rcases bind_eq_ok_iff.mp hconverted with ⟨exact, hexact, hdone⟩
        cases hdone
        rcases bind_eq_ok_iff.mp (Pricing.lift_eq_ok_iff.mp hexact) with ⟨product, _, hquantized⟩
        exact Decimal.isMoney_of_quantize hquantized

end Office

namespace Column

/-!
# Amounts that are read back
-/

theorem log2_lt_of_digits {c : Nat} (h : digitCount c ≤ Decimal.precision) : Nat.log2 c < 94 := by
  have hsmall : c < tenPow Decimal.precision := (digitCount_le_iff (by decide)).mp h
  have hpower : tenPow Decimal.precision < 2 ^ 94 := by decide
  by_cases hzero : c = 0
  · rw [hzero]
    decide
  · exact (Nat.log2_lt hzero).mpr (Nat.lt_trans hsmall hpower)

theorem binary_of_digits (negative : Bool) {c : Nat} (hc : c ≠ 0)
    (h : digitCount c ≤ Decimal.precision) :
    ∃ m e, binary (.finite negative c (-2)) = .finite negative m e ∧
      (m : ℚ) * 2 ^ e ≤ c / 100 + 2 ^ (40 : Int) := by
  have hdigits : Decimal.precision = 28 := rfl
  have hlog := log2_lt_of_digits h
  have hexponent : Binary64.exponentFor c 100 ≤ 41 := by
    have hle := Binary64.exponentFor_le c 100
    simp only [Binary64.minExponent, Binary64.precision] at hle
    omega
  have hscientific : binary (.finite negative c (-2)) = .nearest negative c 100 := by
    have hsmall : ¬ ((digitCount c : Int) + -2 < -330) := by omega
    have hlarge : ¬ (320 < (digitCount c : Int) + -2) := by omega
    simp only [binary, Binary64.ofScientific, hc, hsmall, hlarge, decide_false, Bool.or_false,
      Bool.false_eq_true, if_false]
    rw [show tenPow (-2 : Int).toNat = 1 from rfl, show tenPow (- -2 : Int).toNat = 100 from rfl,
      Nat.mul_one]
  rcases Binary64.nearest_error negative (by decide) hexponent (by decide) with
    ⟨m, e, hnearest, herror⟩
  refine ⟨m, e, hscientific.trans hnearest, ?_⟩
  have habove := (abs_le.mp herror).right
  norm_num at habove ⊢
  linarith

theorem money_of_isMoney {x : Decimal} (h : x.IsMoney 2) :
    money 2 x = none ∨ ∃ negative c, money 2 x = some (.finite negative c (-2)) ∧
      digitCount c ≤ Decimal.precision + 1 := by
  rcases h with ⟨negative, c, rfl, hdigits⟩ | ⟨negative, payload, rfl⟩
  · by_cases hzero : c = 0
    · have hnothing : (Decimal.finite negative c (-(2 : Nat))).IsZero :=
        ⟨negative, -2, by rw [hzero]; rfl⟩
      exact Or.inr ⟨false, 0, money_of_isZero hnothing 2, by decide⟩
    · rcases binary_of_digits negative hzero hdigits with ⟨m, e, hbinary, hle⟩
      refine Or.inr ⟨negative && m != 0, Binary64.units 2 m e, ?_, ?_⟩
      · rw [money, show (-(2 : Nat) : Int) = -2 from rfl, hbinary]
        rfl
      · apply (digitCount_le_iff (Nat.succ_pos _)).mpr
        have hunits := (abs_le.mp (Binary64.units_error 2 m e)).right
        have hsmall : (c : ℚ) < 10 ^ 28 := by
          exact_mod_cast (digitCount_le_iff (by decide)).mp hdigits
        have hbelow : (Binary64.units 2 m e : ℚ) < 10 ^ 29 := by
          norm_num at hle hunits
          linarith
        exact_mod_cast hbelow
  · exact Or.inl rfl

end Column

namespace Display

/-!
# Showing
-/

theorem krw_of_money {x : Decimal} (h : x.IsMoney 2) :
    ∃ shown, krw (Column.money 2 x) = .ok shown := by
  rcases Column.money_of_isMoney h with hnone | ⟨negative, c, hsome, hdigits⟩
  · rw [hnone]
    exact ⟨missing, rfl⟩
  · have hreach : Decimal.reach c (-2) + (0 : Nat) < Decimal.precision := by
      simp only [Decimal.reach]
      omega
    rcases Decimal.quantize_of_reach_lt .halfUp 0 negative hreach with ⟨rounded, hrounded⟩
    rcases Decimal.exists_of_isFinite (Decimal.isFinite_quantize rfl hrounded) with
      ⟨sign, whole, exponent, rfl⟩
    rw [hsome]
    simp only [krw, hrounded, wholeOf]
    exact ⟨_, rfl⟩

theorem createdAt_of_end9999 {t : Instant} (h : t.micros < Seoul.end9999.micros) :
    ∃ shown, createdAt (some t) = .ok shown := by
  rcases Seoul.display?_isSome h with ⟨shown, hshown⟩
  exact ⟨shown, by simp [createdAt, hshown]⟩

end Display
end ReviewDesk
