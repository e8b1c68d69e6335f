import ReviewDesk.Proofs.Exchange.Settling

/-!
# What converted amounts are

An amount is multiplied with the rate and the product is brought to two places.  The
product is rounded to twenty-eight digits on the way, which changes nothing as long as it
has no more, and never reverses the order of two amounts.
-/

namespace ReviewDesk
namespace Office

variable {o : Office} {t : Readings} {answer : Except Fault RateResponse}
  {amount rate krw : Decimal}

/-!
# Amounts at a rate
-/

theorem room_of_rounded {q : ℚ} (h : |Decimal.roundedTo places q| < 10 ^ 26) :
    |q| < 10 ^ 26 - 1 / 200 := by
  have hmagnitude : |Decimal.roundedTo places q| = Decimal.roundedTo places |q| := by
    rcases le_total 0 q with hq | hq
    · rw [abs_of_nonneg hq, abs_of_nonneg (Decimal.roundedTo_nonneg hq)]
    · have hneg : 0 ≤ Decimal.roundedTo places (-q) := Decimal.roundedTo_nonneg (by linarith)
      rw [Decimal.roundedTo_neg] at hneg
      rw [abs_of_nonpos hq, Decimal.roundedTo_neg, abs_of_nonpos (by linarith)]
  have hsteps : Decimal.roundedTo places |q| < (10 ^ 28 : Nat) / 10 ^ places := by
    rw [← hmagnitude]
    norm_num [places]
    exact h
  have hroom := (Decimal.roundedTo_lt_iff (abs_nonneg q) _).mp hsteps
  norm_num [places] at hroom
  linarith

theorem exchanged_exact (hamount : amount.isFinite = true) (hrate : rate.isFinite = true)
    (hfits : Decimal.FitsPrecision (amount.toRat * rate.toRat))
    (hroom : |Decimal.roundedTo places (amount.toRat * rate.toRat)| < 10 ^ 26) :
    ∃ krw, exchanged amount rate = .ok krw ∧
      krw.toRat = Decimal.roundedTo places (amount.toRat * rate.toRat) := by
  rcases (exchanged_ok_iff hamount hrate).mpr (room_of_rounded hroom) with ⟨krw, hkrw⟩
  exact ⟨krw, hkrw, toRat_exchanged hamount hrate hfits hkrw⟩

theorem hasPlaces_of_exchanged (hamount : amount.isFinite = true) (hrate : rate.isFinite = true)
    (h : exchanged amount rate = .ok krw) : krw.HasPlaces places :=
  Decimal.hasPlaces_of_isResult (Decimal.isResult_mul hamount hrate) (exchanged_eq_ok_iff.mp h)

theorem exchanged_of_isZero (hamount : amount.IsZero) (hrate : rate.isFinite = true) :
    ∃ krw, exchanged amount rate = .ok krw ∧ krw.toRat = nothing.toRat := by
  have hproduct : amount.toRat * rate.toRat = 0 := by
    rw [Decimal.toRat_of_isZero hamount, zero_mul]
  have hnothing : nothing.toRat = 0 := Decimal.toRat_of_isZero ⟨false, -2, rfl⟩
  have hfinite : amount.isFinite = true := by
    rcases hamount with ⟨negative, e, rfl⟩
    rfl
  rcases exchanged_exact hfinite hrate (by rw [hproduct]; exact Decimal.fitsPrecision_zero)
    (by rw [hproduct, Decimal.roundedTo_zero]; norm_num) with ⟨krw, hkrw, hvalue⟩
  exact ⟨krw, hkrw, by rw [hvalue, hproduct, Decimal.roundedTo_zero, hnothing]⟩

/-!
# Conversions
-/

/-- The amount is converted at this rate, if it needs one. -/
def GoesBy (o : Office) (t : Readings) (answer : Except Fault RateResponse)
    (amount rate : Decimal) : Prop :=
  ¬ amount.IsZero → (o.rateDuring t answer).2.result = .ok (.success rate)

theorem convertDuring_of_goesBy (hamount : amount.isFinite = true) (hzero : ¬ amount.IsZero)
    (hgoes : o.GoesBy t answer amount rate) :
    (o.convertDuring t answer amount).2.result =
      (exchanged amount rate >>= fun krw => .ok (.success krw)) := by
  rw [convertDuring_of_not_isZero (isZero?_of_not_isZero hamount hzero), hgoes hzero]
  rfl

theorem exchanged_of_convertDuring (hamount : amount.isFinite = true)
    (hrate : rate.isFinite = true) (hgoes : o.GoesBy t answer amount rate)
    (h : (o.convertDuring t answer amount).2.result = .ok (.success krw)) :
    ∃ worth, exchanged amount rate = .ok worth ∧ worth.toRat = krw.toRat := by
  by_cases hzero : amount.IsZero
  · rw [convertDuring_of_isZero hzero] at h
    cases h
    exact exchanged_of_isZero hzero hrate
  · rw [convertDuring_of_goesBy hamount hzero hgoes] at h
    rcases bind_eq_ok_iff.mp h with ⟨worth, hworth, hdone⟩
    cases hdone
    exact ⟨krw, hworth, rfl⟩

/-- Conversions at a rate give the product rounded to two places, as long as it has no more
than twenty-eight digits, and larger amounts are never worth less. -/
theorem convertDuring_exact_mono {rate : Decimal} (hrate : Rate.IsValid rate) :
    (∀ {o : Office} {t : Readings} {answer : Except Fault RateResponse} {amount : Decimal},
      amount.isFinite = true → o.GoesBy t answer amount rate →
        Decimal.FitsPrecision (amount.toRat * rate.toRat) →
        |Decimal.roundedTo places (amount.toRat * rate.toRat)| < 10 ^ 26 →
          ∃ krw, (o.convertDuring t answer amount).2.result = .ok (.success krw) ∧
            krw.toRat = Decimal.roundedTo places (amount.toRat * rate.toRat) ∧
            krw.HasPlaces places) ∧
      ∀ {o o' : Office} {t t' : Readings} {answer answer' : Except Fault RateResponse}
        {amount amount' krw krw' : Decimal},
        amount.isFinite = true → amount'.isFinite = true →
          o.GoesBy t answer amount rate → o'.GoesBy t' answer' amount' rate →
          amount.toRat ≤ amount'.toRat →
          (o.convertDuring t answer amount).2.result = .ok (.success krw) →
          (o'.convertDuring t' answer' amount').2.result = .ok (.success krw') →
            krw.toRat ≤ krw'.toRat := by
  rcases hrate with ⟨hfinite, hpositive⟩
  constructor
  · intro o t answer amount hamount hgoes hfits hroom
    by_cases hzero : amount.IsZero
    · have hproduct : amount.toRat * rate.toRat = 0 := by
        rw [Decimal.toRat_of_isZero hzero, zero_mul]
      refine ⟨nothing, by rw [convertDuring_of_isZero hzero]; rfl, ?_, false, 0, rfl⟩
      rw [hproduct, Decimal.roundedTo_zero]
      exact Decimal.toRat_of_isZero ⟨false, -2, rfl⟩
    · rcases exchanged_exact hamount hfinite hfits hroom with ⟨krw, hkrw, hvalue⟩
      refine ⟨krw, ?_, hvalue, hasPlaces_of_exchanged hamount hfinite hkrw⟩
      rw [convertDuring_of_goesBy hamount hzero hgoes, hkrw]
      rfl
  · intro o o' t t' answer answer' amount amount' krw krw' hamount hamount' hgoes hgoes' hle h h'
    rcases exchanged_of_convertDuring hamount hfinite hgoes h with ⟨worth, hworth, hvalue⟩
    rcases exchanged_of_convertDuring hamount' hfinite hgoes' h' with ⟨worth', hworth', hvalue'⟩
    rw [← hvalue, ← hvalue']
    have horder : amount.toRat * rate.toRat ≤ amount'.toRat * rate.toRat :=
      mul_le_mul_of_nonneg_right hle (Decimal.toRat_nonneg_of_isPositive hpositive)
    exact Decimal.quantize_isResult_mono (Decimal.isResult_mul hamount hfinite)
      (Decimal.isResult_mul hamount' hfinite) horder (exchanged_eq_ok_iff.mp hworth)
      (exchanged_eq_ok_iff.mp hworth')

def keeping1000 : Office :=
  ⟨"key", "http://rates/{api_key}/{base}", "USD", "KRW", 3600, some ⟨.ofNat 1000, .start⟩⟩

theorem convertDuring_exact_mono_debt :
    ∃ krw, (keeping1000.convertDuring (.still .start) (.error (.transfer (.timeout .read) ""))
        (.finite true 5 (-6))).2.result = .ok (.success krw) ∧
      krw.toRat = -1 / 100 ∧ krw.HasPlaces places ∧ krw.toRat ≤ nothing.toRat := by
  have hvalid : Rate.IsValid (.ofNat 1000) := ⟨rfl, rfl⟩
  have hgoes : ∀ amount, keeping1000.GoesBy (.still .start)
      (.error (.transfer (.timeout .read) "")) amount (.ofNat 1000) := fun _ _ => rfl
  have hproduct : (Decimal.finite true 5 (-6)).toRat * (Decimal.ofNat 1000).toRat =
      -(5 * 10 ^ (-3 : Int)) := by
    norm_num [Decimal.ofNat, Decimal.toRat]
  have hrounded : Decimal.roundedTo places (-(5 * 10 ^ (-3 : Int))) = -1 / 100 := by
    rw [Decimal.roundedTo_neg, Decimal.roundedTo_of_nonneg (by norm_num)]
    norm_num [places]
  rcases (convertDuring_exact_mono hvalid).left rfl (hgoes (.finite true 5 (-6)))
    (by rw [hproduct]; exact ⟨5, -3, by decide, by norm_num⟩)
    (by rw [hproduct, hrounded]; norm_num) with ⟨krw, hkrw, hvalue, hplaces⟩
  rw [hproduct, hrounded] at hvalue
  have horder : (Decimal.finite true 5 (-6)).toRat ≤ (Decimal.finite false 0 0).toRat := by
    norm_num [Decimal.toRat]
  exact ⟨krw, hkrw, hvalue, hplaces, (convertDuring_exact_mono hvalid).right rfl rfl
    (hgoes _) (hgoes (.finite false 0 0)) horder hkrw rfl⟩

end Office
end ReviewDesk
