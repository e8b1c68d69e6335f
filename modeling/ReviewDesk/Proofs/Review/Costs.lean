import ReviewDesk.Proofs.Decimal.Grouped
import ReviewDesk.Proofs.Decimal.Reader
import ReviewDesk.Proofs.Number.Integer
import ReviewDesk.Review.Display

/-!
# Costs that are shown

Without its marks, the text of a cost can be read again.  Dollars give the amount rounded
to six places, halves to even, and won the amount rounded to a whole number, halves away
from zero.  An amount in won is not shown if that number has more than twenty-eight digits.
-/

namespace ReviewDesk

namespace Decimal

/-!
# Numbers that numerals stand for

A numeral is a sign, digits, a point and more digits; its value is the number of all
digits, divided by ten for each one after the point.
-/

def Denotes (text : List Char) (q : ℚ) : Prop :=
  ∃ negative whole fraction, text = signText negative ++ whole ++ '.' :: fraction ∧
    whole ≠ [] ∧ (∀ c ∈ whole ++ fraction, c.isDigit = true) ∧
    q = signOf negative * (value (whole ++ fraction) / 10 ^ fraction.length)

def StaysWritten : Decimal → Prop
  | finite _ c e => reach c e ≤ maxWritten
  | _ => False

end Decimal

namespace Display

variable {negative : Bool} {c n : Nat} {e : Int}

/-!
# Shapes
-/

def without (marks : List Char) (shown : String) : String :=
  String.ofList (shown.toList.filter (!marks.contains ·))

def IsDollarText (shown : String) : Prop :=
  ∃ negative whole groups fraction,
    shown.toList = '$' :: (Decimal.signText negative ++ groups ++ '.' :: fraction) ∧
    IsNumeral whole ∧ Decimal.GroupedAs whole groups ∧
    fraction.length = 6 ∧ ∀ c ∈ fraction, c.isDigit = true

def IsWonText (shown : String) : Prop :=
  ∃ negative whole groups,
    shown.toList = Decimal.signText negative ++ groups ++ ['원'] ∧
    IsNumeral whole ∧ Decimal.GroupedAs whole groups ∧ (whole = ['0'] → negative = false)

/-!
# Marks

A mark is not a character of a plain numeral, so taking marks out leaves the numeral.
-/

variable {marks cs : List Char}

theorem filter_plain (hmarks : ∀ m ∈ marks, ¬ Decimal.IsPlain m)
    (h : ∀ c ∈ cs, Decimal.IsPlain c) : cs.filter (!marks.contains ·) = cs := by
  rw [List.filter_eq_self]
  intro c hc
  simpa using fun hmark => hmarks c hmark (h c hc)

theorem filter_amount (hmarks : ∀ m ∈ marks, ¬ Decimal.IsPlain m) (hcomma : ',' ∈ marks)
    (negative : Bool) (n : Nat) :
    (Decimal.signText negative ++ Decimal.grouped n).filter (!marks.contains ·) =
      Decimal.signText negative ++ Nat.toDigits 10 n := by
  have hsign : (Decimal.signText negative).filter (!marks.contains ·) =
      Decimal.signText negative :=
    filter_plain hmarks fun d hd => Decimal.isPlain_of_mem_signText hd
  have hgroups : (Decimal.grouped n).filter (!marks.contains ·) = Nat.toDigits 10 n := by
    apply Decimal.filter_of_groupedAs _ _ (Decimal.groupedAs_grouped n)
    · simp [hcomma]
    · intro c hc
      have hplain := Decimal.isPlain_of_isDigit (isDigit_of_mem_toDigits hc)
      simpa using fun hmark => hmarks c hmark hplain
  rw [List.filter_append, hsign, hgroups]

/-!
# Dollars
-/

def millionths (c : Nat) (e : Int) : Nat :=
  Decimal.stepsOf .halfEven c e (-(6 : Nat))

def dollars (c : Nat) (e : Int) : List Char :=
  Nat.toDigits 10 (millionths c e / tenPow 6)

def fraction (c : Nat) (e : Int) : List Char :=
  Decimal.padded 6 (millionths c e % tenPow 6)

theorem isDigit_of_mem_fraction {d : Char} (h : d ∈ fraction c e) : d.isDigit = true :=
  isDigit_of_mem_padded h

theorem length_fraction (c : Nat) (e : Int) : (fraction c e).length = 6 :=
  length_padded (by decide) (Nat.mod_lt _ (tenPow_pos 6))

theorem toList_usd (negative : Bool) (c : Nat) (e : Int) :
    (usd (some (.finite negative c e))).toList =
      '$' :: (Decimal.signText negative ++ Decimal.grouped (millionths c e / tenPow 6) ++
        '.' :: fraction c e) := by
  rw [usd, String.toList_ofList, Decimal.groupedText, Decimal.unitsOf_eq_stepsOf, Decimal.fixed,
    List.append_assoc]
  rfl

theorem isDollarText_usd (negative : Bool) (c : Nat) (e : Int) :
    IsDollarText (usd (some (.finite negative c e))) :=
  ⟨negative, dollars c e, _, fraction c e, toList_usd negative c e, isNumeral_toDigits _,
    Decimal.groupedAs_grouped _, length_fraction c e, fun _ h => isDigit_of_mem_fraction h⟩

theorem without_usd (negative : Bool) (c : Nat) (e : Int) :
    without ['$', ','] (usd (some (.finite negative c e))) =
      String.ofList (Decimal.signText negative ++ dollars c e ++ '.' :: fraction c e) := by
  have hmarks : ∀ m ∈ ['$', ','], ¬ Decimal.IsPlain m :=
    List.forall_mem_cons.mpr ⟨by decide, List.forall_mem_singleton.mpr (by decide)⟩
  have hplain : ∀ d ∈ '.' :: fraction c e, Decimal.IsPlain d := by
    intro d hd
    rcases List.mem_cons.mp hd with rfl | hdigit
    · decide
    · exact Decimal.isPlain_of_isDigit (isDigit_of_mem_fraction hdigit)
  rw [without, toList_usd, List.filter_cons_of_neg (by decide), List.filter_append,
    filter_amount hmarks (by decide), filter_plain hmarks hplain, dollars]

theorem value_dollars (c : Nat) (e : Int) :
    Decimal.value (dollars c e ++ fraction c e) = millionths c e :=
  Decimal.value_fixed (by decide) _

theorem isDigit_of_mem_dollars {d : Char} (h : d ∈ dollars c e) : d.isDigit = true :=
  isDigit_of_mem_toDigits h

theorem denotes_usd (negative : Bool) (c : Nat) (e : Int) :
    Decimal.Denotes (without ['$', ','] (usd (some (.finite negative c e)))).toList
      ((Decimal.signed negative (millionths c e) : Int) / 10 ^ 6) := by
  refine ⟨negative, dollars c e, fraction c e, ?_, Nat.toDigits_ne_nil, ?_, ?_⟩
  · rw [without_usd, String.toList_ofList]
  · intro d hd
    exact (List.mem_append.mp hd).elim isDigit_of_mem_dollars isDigit_of_mem_fraction
  · rw [value_dollars, length_fraction, Decimal.cast_signed, mul_div_assoc]

theorem inWrittenRange_millionths (h : Decimal.reach c e ≤ Decimal.maxWritten) :
    Decimal.inWrittenRange (millionths c e) (-(6 : Nat)) = true := by
  have hlimits : Decimal.minWritten ≤ -(6 : Nat) ∧ (-(6 : Nat) : Int) ≤ Decimal.maxWritten := by
    decide
  simp only [Decimal.inWrittenRange, hlimits.left, decide_true, Bool.true_and]
  by_cases hnone : millionths c e = 0
  · simpa [hnone] using hlimits.right
  · have hreach := Decimal.reach_stepsOf_le .halfEven hlimits.right h hnone
    rw [if_neg hnone, Decimal.magnitude_eq, decide_eq_true_eq]
    rw [← millionths] at hreach
    omega

theorem read?_usd (negative : Bool) (h : Decimal.reach c e ≤ Decimal.maxWritten) :
    Decimal.read? (without ['$', ','] (usd (some (.finite negative c e)))) =
      some (.finite negative (millionths c e) (-(6 : Nat))) := by
  have hsome : dollars c e ≠ [] := Nat.toDigits_ne_nil
  rw [without_usd, Decimal.read?_fixed negative hsome
    (fun d hd => isDigit_of_mem_dollars hd) (fun d hd => isDigit_of_mem_fraction hd),
    value_dollars, length_fraction, if_pos (inWrittenRange_millionths h)]

/-!
# Won
-/

def won (negative : Bool) (c : Nat) (e : Int) : Int :=
  Decimal.signed negative (Decimal.stepsOf .halfUp c e (-(0 : Nat)))

theorem natAbs_signed (negative : Bool) (n : Nat) : (Decimal.signed negative n).natAbs = n := by
  cases negative with
  | false => rfl
  | true => exact Int.natAbs_neg n

theorem signed_natAbs (k : Int) : Decimal.signed (decide (k < 0)) k.natAbs = k := by
  unfold Decimal.signed
  split
  · rename_i hneg
    have hneg' := of_decide_eq_true hneg
    omega
  · rename_i hnonneg
    have hnonneg' : ¬ k < 0 := by simpa using hnonneg
    omega

theorem krw_eq (negative : Bool) (c : Nat) (e : Int) :
    krw (some (.finite negative c e)) =
      if Decimal.precision < digitCount (won negative c e).natAbs then
        .error (.decimal .invalid)
      else .ok (String.ofList (Decimal.groupedInt (won negative c e) ++ ['원'])) := by
  rw [won, natAbs_signed]
  by_cases hlong : Decimal.precision < digitCount (Decimal.stepsOf .halfUp c e (-(0 : Nat)))
  · have hround : Decimal.quantize .halfUp 0 (.finite negative c e) = .error .invalid := by
      rw [Decimal.quantize_eq_ite, if_pos hlong]
    simp only [krw, hround, if_pos hlong]
  · have hround : Decimal.quantize .halfUp 0 (.finite negative c e) =
        .ok (.finite negative (Decimal.stepsOf .halfUp c e (-(0 : Nat))) (-(0 : Nat))) := by
      rw [Decimal.quantize_eq_ite, if_neg hlong]
    simp only [krw, hround, if_neg hlong]
    rfl

theorem isWonText_won (k : Int) :
    IsWonText (String.ofList (Decimal.groupedInt k ++ ['원'])) := by
  refine ⟨decide (k < 0), Nat.toDigits 10 k.natAbs, _, ?_, isNumeral_toDigits _,
    Decimal.groupedAs_grouped _, ?_⟩
  · rw [String.toList_ofList, Decimal.groupedInt]
  · intro hzero
    have hnone : k.natAbs = 0 := toDigits_eq_zero (by rw [hzero]; rfl)
    simpa using (by omega : 0 ≤ k)

theorem read?_won {k : Int} (h : digitCount k.natAbs ≤ Decimal.precision) :
    Integer.read? (without [',', '원'] (String.ofList (Decimal.groupedInt k ++ ['원']))) =
      some k := by
  have hmarks : ∀ m ∈ [',', '원'], ¬ Decimal.IsPlain m :=
    List.forall_mem_cons.mpr ⟨by decide, List.forall_mem_singleton.mpr (by decide)⟩
  have hlength : (Nat.toDigits 10 k.natAbs).length ≤ Integer.maxDigits :=
    Nat.le_trans h (by decide)
  rw [without, String.toList_ofList, Decimal.groupedInt, List.filter_append,
    filter_amount hmarks (by decide), List.filter_cons_of_neg (by decide), List.filter_nil,
    List.append_nil,
    Integer.read?_signText _ Nat.toDigits_ne_nil (fun d hd => isDigit_of_mem_toDigits hd) hlength]
  rw [Decimal.value, Nat.ofDigitChars_ten_toDigits, signed_natAbs]

/-!
# Reading again
-/

/-- What is shown of a finite amount has the shape of an amount of money and gives the
nearest amount that can be shown. -/
theorem costs_decode {x : Decimal} (hx : x.isFinite = true) :
    IsDollarText (usd (some x)) ∧
      (∃ k : Int, Rounding.halfEven.IsNearest (x.toRat * 10 ^ 6) k ∧
        Decimal.Denotes (without ['$', ','] (usd (some x))).toList (k / 10 ^ 6) ∧
        (x.StaysWritten → ∃ y, Decimal.read? (without ['$', ','] (usd (some x))) = some y ∧
          y.isFinite = true ∧ y.toRat = k / 10 ^ 6) ∧
        ∀ m : Int, x.toRat = m / 10 ^ 6 → (k : ℚ) / 10 ^ 6 = x.toRat) ∧
      ∃ k : Int, Rounding.halfUp.IsNearest x.toRat k ∧
        (28 < digitCount k.natAbs → krw (some x) = .error (.decimal .invalid)) ∧
        (digitCount k.natAbs ≤ 28 → ∃ shown, krw (some x) = .ok shown ∧ IsWonText shown ∧
          Integer.read? (without [',', '원'] shown) = some k) := by
  rcases Decimal.exists_of_isFinite hx with ⟨negative, c, e, rfl⟩
  have hmillionths := Decimal.isNearest_stepsOf .halfEven 6 negative c e
  have hwon := Decimal.isNearest_stepsOf .halfUp 0 negative c e
  rw [pow_zero, mul_one] at hwon
  refine ⟨isDollarText_usd negative c e, ⟨_, hmillionths, denotes_usd negative c e, ?_, ?_⟩,
    ⟨won negative c e, hwon, ?_, ?_⟩⟩
  · intro hwritten
    refine ⟨_, read?_usd negative hwritten, rfl, ?_⟩
    rw [Decimal.toRat_finite, Decimal.cast_signed, zpow_neg, zpow_natCast, ← mul_assoc,
      ← div_eq_mul_inv]
    rfl
  · intro m hm
    have hwhole : (Decimal.finite negative c e).toRat * 10 ^ 6 = m := by
      rw [hm]
      field_simp
    rw [hwhole] at hmillionths
    rw [Rounding.isNearest_unique hmillionths (Rounding.isNearest_self .halfEven m), hm]
  · intro hlong
    have hroom : Decimal.precision < digitCount (won negative c e).natAbs := hlong
    rw [krw_eq, if_pos hroom]
  · intro hshort
    have hroom : ¬ Decimal.precision < digitCount (won negative c e).natAbs :=
      Nat.not_lt.mpr hshort
    exact ⟨_, by rw [krw_eq, if_neg hroom], isWonText_won _, read?_won hshort⟩

theorem costs_decode_carried :
    IsDollarText "$-1,000.000000" ∧
      (∃ y k, Decimal.read? (without ['$', ','] "$-1,000.000000") = some y ∧
        y.toRat = (k : ℤ) / 10 ^ 6 ∧ Rounding.halfEven.IsNearest
          ((Decimal.finite true 9999999995 (-7)).toRat * 10 ^ 6) k) ∧
      IsWonText "-1,000원" ∧
      Integer.read? (without [',', '원'] "-1,000원") = some (-1000) ∧
      Rounding.halfUp.IsNearest (Decimal.finite true 9999999995 (-7)).toRat (-1000) := by
  have husd : usd (some (.finite true 9999999995 (-7))) = "$-1,000.000000" := by decide
  have hkrw : krw (some (.finite true 9999999995 (-7))) = .ok "-1,000원" := by decide
  have hwhole : Integer.read? (without [',', '원'] "-1,000원") = some (-1000) := by decide
  have hfinite : (Decimal.finite true 9999999995 (-7)).isFinite = true := rfl
  have hwritten : (Decimal.finite true 9999999995 (-7)).StaysWritten := by
    rw [Decimal.StaysWritten]
    decide
  rcases costs_decode hfinite with
    ⟨hdollars, ⟨k, hnearest, _, hread, _⟩, n, hnearestWon, hlong, hshort⟩
  rw [husd] at hdollars hread
  rw [hkrw] at hlong hshort
  rcases hread hwritten with ⟨y, hy, _, hvalue⟩
  have hroom : digitCount n.natAbs ≤ 28 := by
    by_contra hmany
    cases hlong (Nat.lt_of_not_le hmany)
  rcases hshort hroom with ⟨shown, hshown, hwon, hgives⟩
  cases hshown
  rw [hwhole] at hgives
  cases hgives
  exact ⟨hdollars, ⟨y, k, hy, hvalue, hnearest⟩, hwon, hwhole, hnearestWon⟩

end Display
end ReviewDesk
