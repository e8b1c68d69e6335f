import Mathlib.Data.List.Lex
import ReviewDesk.Calendar.Instant
import ReviewDesk.Proofs.Calendar.Date
import ReviewDesk.Proofs.Number.Numeral

/-!
# Times that are written to the minute

The text has its numbers in fields of fixed width, so texts come in the order of their dates
and times of day.
-/

namespace ReviewDesk

variable {width : Nat} {n n' : Int} {cs cs' rest rest' : List Char}

/-!
# Fields
-/

/-- So many digits, and the number that they have as their value. -/
def IsField (width : Nat) (n : Int) (cs : List Char) : Prop :=
  cs.length = width ∧ (∀ c ∈ cs, c.isDigit = true) ∧ (Nat.ofDigitChars 10 cs 0 : Int) = n

theorem isField_field (hwidth : 0 < width) (hn : 0 ≤ n ∧ n < tenPow width) :
    IsField width n (Instant.field width n) := by
  have hbelow : n.toNat < tenPow width := by omega
  have hvalue : Nat.ofDigitChars 10 (Decimal.padded width n.toNat) 0 = n.toNat :=
    ofDigitChars_padded width n.toNat
  refine ⟨length_padded hwidth hbelow, fun c hc => isDigit_of_mem_padded hc, ?_⟩
  exact (congrArg Int.ofNat hvalue).trans (Int.toNat_of_nonneg hn.left)

theorem lt_of_isField (h : IsField width n cs) (h' : IsField width n' cs') (hlt : n < n') :
    cs < cs' := by
  rcases h with ⟨hlength, hdigits, hvalue⟩
  rcases h' with ⟨hlength', hdigits', hvalue'⟩
  apply lt_of_ofDigitChars_lt hdigits hdigits' (hlength.trans hlength'.symm)
  omega

theorem append_lt_append (hlength : cs.length = cs'.length) (h : cs < cs') :
    cs ++ rest < cs' ++ rest' := by
  induction h with
  | nil => cases hlength
  | rel hfirst => exact List.Lex.rel hfirst
  | cons _ ih => exact List.Lex.cons (ih (Nat.succ.inj hlength))

/-!
# Dates and minutes
-/

def IsMinuteText (text : String) (d : Date) (hour minute : Int) : Prop :=
  ∃ year month day hours minutes,
    text.toList = year ++ '-' :: (month ++ '-' :: (day ++ ' ' :: (hours ++ ':' :: minutes))) ∧
    IsField 4 d.year year ∧ IsField 2 d.month month ∧ IsField 2 d.day day ∧
    IsField 2 hour hours ∧ IsField 2 minute minutes

theorem Date.day_le_of_isValid {d : Date} (hd : d.IsValid) : d.day ≤ 31 := by
  have hlength : daysInMonth d.year d.month ≤ 31 := by
    unfold daysInMonth
    split
    · split <;> omega
    · split <;> omega
  exact Int.le_trans hd.right.right.right hlength

variable {t t' : Instant}

theorem Instant.secondOfDay_bounds (t : Instant) : 0 ≤ t.secondOfDay ∧ t.secondOfDay < 86400 := by
  rw [secondOfDay, secondsPerDay]
  omega

theorem Instant.hour_bounds (t : Instant) : 0 ≤ t.hour ∧ t.hour < 24 := by
  have hday := t.secondOfDay_bounds
  rw [hour]
  omega

theorem Instant.minute_bounds (t : Instant) : 0 ≤ t.minute ∧ t.minute < 60 := by
  rw [minute]
  omega

theorem Instant.fields_fit (hyear : 0 ≤ t.date.year ∧ t.date.year ≤ 9999) :
    (0 ≤ t.date.year ∧ t.date.year < tenPow 4) ∧
      (0 ≤ t.date.month ∧ t.date.month < tenPow 2) ∧ (0 ≤ t.date.day ∧ t.date.day < tenPow 2) ∧
      (0 ≤ t.hour ∧ t.hour < tenPow 2) ∧ (0 ≤ t.minute ∧ t.minute < tenPow 2) := by
  have hhundred : tenPow 2 = 100 := rfl
  have htenThousand : tenPow 4 = 10000 := rfl
  have hdate : t.date.IsValid := Date.isValid_ofDays _
  have hday := Date.day_le_of_isValid hdate
  rcases hdate with ⟨hmonthLow, hmonthHigh, hdayLow, _⟩
  have hhour := t.hour_bounds
  have hminute := t.minute_bounds
  omega

theorem Instant.toList_minuteText (t : Instant) :
    t.minuteText.toList = field 4 t.date.year ++ '-' :: (field 2 t.date.month ++
      '-' :: (field 2 t.date.day ++ ' ' :: (field 2 t.hour ++ ':' :: field 2 t.minute))) := by
  simp [minuteText, dateChars, hourMinuteChars]

theorem isMinuteText_minuteText (hyear : 0 ≤ t.date.year ∧ t.date.year ≤ 9999) :
    IsMinuteText t.minuteText t.date t.hour t.minute := by
  rcases Instant.fields_fit hyear with ⟨hyears, hmonth, hday, hhour, hminute⟩
  exact ⟨_, _, _, _, _, t.toList_minuteText, isField_field (by decide) hyears,
    isField_field (by decide) hmonth, isField_field (by decide) hday,
    isField_field (by decide) hhour, isField_field (by decide) hminute⟩

/-!
# Order
-/

theorem field_append_lt {c : Char} (hwidth : 0 < width) (hn : 0 ≤ n ∧ n < tenPow width)
    (hn' : 0 ≤ n' ∧ n' < tenPow width) (h : n < n' ∨ n = n' ∧ rest < rest') :
    Instant.field width n ++ c :: rest < Instant.field width n' ++ c :: rest' := by
  rcases h with hlt | ⟨rfl, hrest⟩
  · have hfield := isField_field hwidth hn
    have hfield' := isField_field hwidth hn'
    exact append_lt_append (hfield.left.trans hfield'.left.symm) (lt_of_isField hfield hfield' hlt)
  · exact List.Lex.append_left _ (List.Lex.cons hrest) _

theorem Instant.minuteText_lt (hyear : 0 ≤ t.date.year ∧ t.date.year ≤ 9999)
    (hyear' : 0 ≤ t'.date.year ∧ t'.date.year ≤ 9999)
    (h : t.date.Before t'.date ∨
      t.date = t'.date ∧ (t.hour < t'.hour ∨ t.hour = t'.hour ∧ t.minute < t'.minute)) :
    t.minuteText < t'.minuteText := by
  rcases Instant.fields_fit hyear with ⟨hyears, hmonth, hday, hhour, hminute⟩
  rcases Instant.fields_fit hyear' with ⟨hyears', hmonth', hday', hhour', hminute'⟩
  have horder : t.date.year < t'.date.year ∨ t.date.year = t'.date.year ∧
      (t.date.month < t'.date.month ∨ t.date.month = t'.date.month ∧
        (t.date.day < t'.date.day ∨ t.date.day = t'.date.day ∧
          (t.hour < t'.hour ∨ t.hour = t'.hour ∧ t.minute < t'.minute))) := by
    rcases h with hdate | ⟨hdate, htime⟩
    · unfold Date.Before at hdate
      omega
    · rw [hdate]
      omega
  have hminutes (hlt : t.minute < t'.minute) : field 2 t.minute < field 2 t'.minute :=
    lt_of_isField (isField_field (by decide) hminute) (isField_field (by decide) hminute') hlt
  rw [String.lt_iff, t.toList_minuteText, t'.toList_minuteText]
  apply field_append_lt (by decide) hyears hyears'
    (horder.imp_right fun h => h.imp_right fun h => ?_)
  apply field_append_lt (by decide) hmonth hmonth' (h.imp_right fun h => h.imp_right fun h => ?_)
  apply field_append_lt (by decide) hday hday' (h.imp_right fun h => h.imp_right fun h => ?_)
  exact field_append_lt (by decide) hhour hhour' (h.imp_right fun h => h.imp_right hminutes)

theorem Instant.minuteText_mono (hyear : 0 ≤ t.date.year ∧ t.date.year ≤ 9999)
    (hyear' : 0 ≤ t'.date.year ∧ t'.date.year ≤ 9999) (h : t.micros ≤ t'.micros) :
    ¬ t'.minuteText < t.minuteText := by
  have hseconds : t.seconds ≤ t'.seconds := by
    simp only [seconds, microsPerSecond]
    omega
  rcases Int.lt_or_le (t.seconds / secondsPerDay) (t'.seconds / secondsPerDay) with hday | hday
  · exact String.lt_asymm (minuteText_lt hyear hyear' (Or.inl (Date.before_ofDays hday)))
  · have hsame : t.seconds / secondsPerDay = t'.seconds / secondsPerDay := by
      simp only [secondsPerDay] at *
      omega
    have hdate : t.date = t'.date := by rw [date, date, hsame]
    have htime : t.hour < t'.hour ∨ t.hour = t'.hour ∧
        (t.minute < t'.minute ∨ t.minute = t'.minute) := by
      simp only [hour, minute, secondOfDay, secondsPerDay] at *
      omega
    rcases htime with hhour | ⟨hhour, hminute | hminute⟩
    · exact String.lt_asymm (minuteText_lt hyear hyear' (Or.inr ⟨hdate, Or.inl hhour⟩))
    · exact String.lt_asymm (minuteText_lt hyear hyear' (Or.inr ⟨hdate, Or.inr ⟨hhour, hminute⟩⟩))
    · have hchars : t.hourMinuteChars = t'.hourMinuteChars := by
        rw [hourMinuteChars, hourMinuteChars, hhour, hminute]
      rw [minuteText, minuteText, hdate, hchars]
      exact String.lt_irrefl _

end ReviewDesk
