import Mathlib.Data.List.TakeWhile
import ReviewDesk.Calendar.Iso
import ReviewDesk.Proofs.Calendar.Stamp
import ReviewDesk.Proofs.Calendar.Text

/-!
# Stamps that are read

Whatever is read is a stamp that exists, less than a day ahead of universal time or behind
it.  A time that is written to the minute is read as what it says.
-/

namespace ReviewDesk
namespace Iso

variable {n : Nat} {k : Int} {cs rest : List Char} {d : Date} {c : Clock} {more : Bool}

/-!
# Numbers
-/

theorem number?_bounds (h : number? n cs = some (k, rest)) : 0 ≤ k ∧ k < tenPow n := by
  simp only [number?, Option.ite_none_right_eq_some, Bool.and_eq_true, decide_eq_true_eq,
    Option.some.injEq, Prod.mk.injEq] at h
  rcases h with ⟨⟨hlength, hdigits⟩, rfl, _⟩
  have hbelow := ofDigitChars_lt (List.all_eq_true.mp hdigits)
  rw [hlength] at hbelow
  omega

theorem number?_of_isField (h : IsField n k cs) :
    number? n (cs ++ rest) = some (k, rest) := by
  rcases h with ⟨rfl, hdigits, rfl⟩
  have hall : cs.all isDigit = true := List.all_eq_true.mpr hdigits
  simp only [number?, List.take_left', List.drop_left', hall]
  simp

theorem ne_of_isField {mark : Char} (h : IsField n k cs) (hmark : mark.isDigit = false) :
    ∀ c ∈ cs, c ≠ mark := by
  rintro c hc rfl
  rw [h.right.left c hc] at hmark
  cases hmark

/-!
# Clocks
-/

theorem fieldsFrom?_nonneg {left : Nat} {colons : Bool} {f : Fields}
    (h : fieldsFrom? left colons cs = some f) : ∀ k ∈ f.numbers, 0 ≤ k := by
  induction left generalizing colons cs f with
  | zero =>
      cases h
      simp
  | succ left ih =>
      simp only [fieldsFrom?, Option.bind_eq_bind, Option.bind_eq_some_iff] at h
      rcases h with ⟨⟨first, rest⟩, hfirst, h⟩
      have hlow := (number?_bounds hfirst).left
      have hlast (fraction : Option (List Char)) (more : Bool)
          (h : some (Fields.mk [first] fraction more) = some f) : ∀ k ∈ f.numbers, 0 ≤ k := by
        cases h
        simpa using hlow
      have hput (colons : Bool) (cs : List Char)
          (h : (fieldsFrom? left colons cs).map (.put first) = some f) :
          ∀ k ∈ f.numbers, 0 ≤ k := by
        rcases Option.map_eq_some_iff.mp h with ⟨f', hf', rfl⟩
        exact List.forall_mem_cons.mpr ⟨hlow, ih hf'⟩
      split at h
      · exact hlast _ _ h
      · exact hlast _ _ h
      · dsimp only at h
        split_ifs at h <;> first | exact hput _ _ h | exact hlast _ _ h

theorem fraction?_bounds (h : fraction? cs = some (k, more)) :
    0 ≤ k ∧ k < Instant.microsPerSecond := by
  simp only [fraction?, Option.bind_eq_bind, Option.bind_eq_some_iff, Option.pure_def,
    Option.some.injEq, Prod.mk.injEq] at h
  rcases h with ⟨⟨n, rest⟩, hn, rfl, _⟩
  rcases number?_bounds hn with ⟨hlow, hhigh⟩
  have hscale : tenPow (min 6 cs.length) * tenPow (6 - min 6 cs.length) = 1000000 := by
    rw [← tenPow_add, Nat.add_sub_cancel' (Nat.min_le_left 6 cs.length)]
    rfl
  generalize min 6 cs.length = count at *
  have hpos : (0 : Int) < tenPow (6 - count) := Int.natCast_pos.mpr (tenPow_pos _)
  have hscale' : (tenPow count : Int) * tenPow (6 - count) = Instant.microsPerSecond := by
    rw [← Int.natCast_mul, hscale]
    rfl
  constructor
  · exact Int.mul_nonneg hlow (Int.le_of_lt hpos)
  · rw [← hscale']
    exact Int.mul_lt_mul_of_pos_right hhigh hpos

theorem clock?_bounds (h : clock? cs = some (c, more)) :
    0 ≤ c.seconds ∧ 0 ≤ c.micros ∧ c.micros < Instant.microsPerSecond := by
  simp only [clock?, Option.bind_eq_bind, Option.bind_eq_some_iff] at h
  rcases h with ⟨fields, hfields, h⟩
  have hnonneg := fieldsFrom?_nonneg hfields
  have hfield (i : Nat) : 0 ≤ fields.numbers.getD i 0 := by
    rw [List.getD_eq_getElem?_getD]
    cases hi : fields.numbers[i]? with
    | none => exact Int.le_refl 0
    | some k => exact hnonneg k (List.mem_of_getElem? hi)
  have hhour := hfield 0
  have hminute := hfield 1
  have hsecond := hfield 2
  split at h
  · cases h
    have hpos : 0 < Instant.microsPerSecond := by decide
    exact ⟨by simp only [Clock.seconds]; omega, Int.le_refl 0, hpos⟩
  · rcases Option.bind_eq_some_iff.mp h with ⟨⟨micros, more'⟩, hmicros, h⟩
    cases h
    exact ⟨by simp only [Clock.seconds]; omega, fraction?_bounds hmicros⟩

theorem distance?_bounds {sign : Int} (hsign : sign = 1 ∨ sign = -1)
    (h : distance? sign cs = some k) : -Instant.microsPerDay < k ∧ k < Instant.microsPerDay := by
  unfold distance? at h
  split at h
  · rename_i c hc
    split_ifs at h with hzero hday
    · cases h
      decide
    · cases h
      have hbounds := clock?_bounds hc
      simp only [Clock.elapsed, Instant.microsPerSecond, Instant.secondsPerDay,
        Instant.microsPerDay] at *
      rcases hsign with rfl | rfl <;> omega
  · cases h

theorem ahead?_bounds (h : ahead? cs = some k) :
    -Instant.microsPerDay < k ∧ k < Instant.microsPerDay := by
  unfold ahead? at h
  split at h
  · cases h
    decide
  · exact distance?_bounds (Or.inl rfl) h
  · exact distance?_bounds (Or.inr rfl) h
  · cases h

theorem time?_isValid {ahead : Option Int} (h : time? cs = some (c, ahead)) :
    c.IsValid ∧ -Instant.microsPerDay < ahead.getD 0 ∧ ahead.getD 0 < Instant.microsPerDay := by
  simp only [time?, Option.bind_eq_bind, Option.bind_eq_some_iff] at h
  rcases h with ⟨⟨c', more⟩, _, h⟩
  have hnone : -Instant.microsPerDay < 0 ∧ 0 < Instant.microsPerDay := by decide
  split at h
  · rcases Option.bind_eq_some_iff.mp h with ⟨ahead', hahead, h⟩
    split_ifs at hahead h with hmore hvalid
    cases hahead
    cases h
    exact ⟨hvalid, hnone⟩
  · rcases Option.bind_eq_some_iff.mp h with ⟨ahead', hahead, h⟩
    rcases Option.map_eq_some_iff.mp hahead with ⟨k, hk, rfl⟩
    split_ifs at h with hvalid
    cases h
    exact ⟨hvalid, ahead?_bounds hk⟩

/-!
# Dates
-/

theorem firstMonday_ge {year : Int} (h : 1 ≤ year) : (Date.mk 1 1 1).toDays ≤ firstMonday year := by
  have hfirst : (Date.mk 1 1 1).toDays = -719162 := by decide
  have hfourth : (Date.mk 1 1 4).toDays ≤ (Date.mk year 1 4).toDays := by
    rw [Date.toDays_eq_linear, Date.toDays_eq_linear]
    simp only [Date.marchYear, Date.marchMonth]
    omega
  have hstart : (Date.mk 1 1 4).toDays = -719159 := by decide
  simp only [firstMonday]
  omega

theorem ofWeek?_isValid {year week weekday : Int} (h : ofWeek? year week weekday = some d) :
    d.IsValid ∧ 1 ≤ d.year := by
  simp only [ofWeek?] at h
  split_ifs at h with hweek
  cases h
  simp only [Bool.and_eq_true, decide_eq_true_eq] at hweek
  have hmonday : (Date.mk 1 1 1).toDays ≤ firstMonday year := firstMonday_ge (by omega)
  have hfirst : Date.ofDays (Date.mk 1 1 1).toDays = ⟨1, 1, 1⟩ := Date.ofDays_toDays (by decide)
  refine ⟨Date.isValid_ofDays _, ?_⟩
  have hyear := Date.year_ofDays_mono
    (by omega : (Date.mk 1 1 1).toDays ≤ firstMonday year + (week - 1) * 7 + weekday - 1)
  rwa [hfirst] at hyear

theorem weekDate?_isValid {year : Int} {hyphens : Bool} {left : Nat}
    (h : weekDate? year hyphens left cs = some d) : d.IsValid ∧ 1 ≤ d.year := by
  simp only [weekDate?, Option.bind_eq_bind, Option.bind_eq_some_iff] at h
  rcases h with ⟨_, _, h⟩
  split at h
  · exact ofWeek?_isValid h
  · simp only [Option.bind_eq_some_iff] at h
    rcases h with ⟨_, _, _, _, h⟩
    exact ofWeek?_isValid h

theorem monthDate?_isValid {year : Int} {hyphens : Bool}
    (h : monthDate? year hyphens cs = some d) : d.IsValid ∧ 1 ≤ d.year := by
  simp only [monthDate?, Option.bind_eq_bind, Option.bind_eq_some_iff] at h
  rcases h with ⟨_, _, _, _, _, _, h⟩
  split_ifs at h with hvalid
  cases h
  simp only [Bool.and_eq_true, decide_eq_true_eq] at hvalid
  exact ⟨hvalid.right, hvalid.left⟩

theorem date?_isValid (h : date? n cs = some d) : d.IsValid ∧ 1 ≤ d.year := by
  simp only [date?, Option.bind_eq_bind, Option.bind_eq_some_iff] at h
  rcases h with ⟨_, _, h⟩
  split at h
  · exact weekDate?_isValid h
  · exact monthDate?_isValid h

/-!
# Stamps
-/

theorem isValid_of_stamp? {text : String} {s : Stamp} (h : stamp? text = some s) : s.IsValid := by
  simp only [stamp?, Option.bind_eq_bind, Option.bind_none] at h
  split_ifs at h with hshort
  rcases Option.bind_eq_some_iff.mp h with ⟨d, hd, h⟩
  split_ifs at h with hlast
  rcases date?_isValid hd with ⟨hdate, hfirst⟩
  have hyear : Stamp.firstYear ≤ d.year ∧ d.year ≤ Stamp.lastYear := ⟨hfirst, Int.not_lt.mp hlast⟩
  split at h
  · have hclock : Clock.midnight.IsValid := by decide
    have hahead : -Instant.microsPerDay < 0 ∧ 0 < Instant.microsPerDay := by decide
    cases h
    exact ⟨hdate, hyear, hclock, hahead⟩
  · rcases Option.bind_eq_some_iff.mp h with ⟨⟨c, ahead⟩, htime, h⟩
    cases h
    rcases time?_isValid htime with ⟨hclock, hahead⟩
    exact ⟨hdate, hyear, hclock, hahead⟩

theorem read?_eq_iff {text text' : String} {s s' : Stamp} (h : stamp? text = some s)
    (h' : stamp? text' = some s') : read? text = read? text' ↔ s.SameTime s' := by
  rw [Stamp.sameTime_iff (isValid_of_stamp? h) (isValid_of_stamp? h'), read?, read?, h, h',
    Option.map_some, Option.map_some, Option.some.injEq]

/-!
# Times to the minute
-/

theorem clock?_of_isField {hour minute : Int} {hours minutes : List Char}
    (hhours : IsField 2 hour hours) (hminutes : IsField 2 minute minutes) :
    clock? (hours ++ ':' :: minutes) = some (⟨hour, minute, 0, 0⟩, false) := by
  have hminute : number? 2 (minutes ++ []) = some (minute, []) :=
    number?_of_isField hminutes
  have hlast : fieldsFrom? 2 true minutes = some ⟨[minute], none, false⟩ := by
    rw [List.append_nil] at hminute
    rw [fieldsFrom?, hminute]
    rfl
  have hfields : fieldsFrom? 3 false (hours ++ ':' :: minutes) =
      some ⟨[hour, minute], none, false⟩ := by
    rcases List.length_eq_two.mp hminutes.left with ⟨tens, ones, rfl⟩
    rw [fieldsFrom?, number?_of_isField hhours]
    simp [hlast, Fields.put]
  rw [clock?, hfields]
  rfl

theorem time?_of_isField {hour minute : Int} {hours minutes : List Char}
    (hhours : IsField 2 hour hours) (hminutes : IsField 2 minute minutes)
    (hvalid : (Clock.mk hour minute 0 0).IsValid) :
    time? ((hours ++ ':' :: minutes).flatMap bytesOf) =
      some (⟨hour, minute, 0, 0⟩, none) := by
  have hplain : ∀ c ∈ hours ++ ':' :: minutes, c.toNat < 0x80 ∧ isZoneMark c = false := by
    intro c hc
    have hcases : c.isDigit = true ∨ c = ':' := by
      rcases List.mem_append.mp hc with hhour | hrest
      · exact Or.inl (hhours.right.left c hhour)
      · rcases List.mem_cons.mp hrest with hcolon | hminute
        · exact Or.inr hcolon
        · exact Or.inl (hminutes.right.left c hminute)
    rcases hcases with hdigit | rfl
    · rw [isDigit_iff] at hdigit
      refine ⟨by omega, ?_⟩
      simp only [isZoneMark, Bool.or_eq_false_iff, beq_eq_false_iff_ne]
      refine ⟨⟨?_, ?_⟩, ?_⟩ <;> rintro rfl <;> revert hdigit <;> decide
    · decide
  have hbytes : (hours ++ ':' :: minutes).flatMap bytesOf = hours ++ ':' :: minutes := by
    have hsame : ∀ c ∈ hours ++ ':' :: minutes, bytesOf c = [c] := fun c hc =>
      if_pos (hplain c hc).left
    rw [List.flatMap_congr hsame, List.flatMap_singleton']
  have htime : (hours ++ ':' :: minutes).takeWhile (!isZoneMark ·) =
      hours ++ ':' :: minutes := by
    rw [List.takeWhile_eq_self_iff]
    intro c hc
    simp [(hplain c hc).right]
  have hzone : (hours ++ ':' :: minutes).dropWhile (!isZoneMark ·) = [] := by
    rw [List.dropWhile_eq_nil_iff]
    intro c hc
    simp [(hplain c hc).right]
  rw [hbytes, time?, htime, hzone, clock?_of_isField hhours hminutes]
  simp [hvalid]

theorem date?_of_isField {d : Date} {year month day : List Char} (hyears : IsField 4 d.year year)
    (hmonths : IsField 2 d.month month) (hdays : IsField 2 d.day day) (hd : d.IsValid)
    (hyear : 1 ≤ d.year) :
    date? 10 (year ++ '-' :: (month ++ '-' :: (day ++ rest))) = some d := by
  have hmonth : number? 2 (month ++ '-' :: (day ++ rest)) = some (d.month, '-' :: (day ++ rest)) :=
    number?_of_isField hmonths
  have hday : number? 2 (day ++ rest) = some (d.day, rest) := number?_of_isField hdays
  have hread : monthDate? d.year true (month ++ '-' :: (day ++ rest)) = some d := by
    simp [monthDate?, hmonth, hyphen?, hday, hyear, hd]
  rcases List.length_eq_two.mp hmonths.left with ⟨tens, ones, rfl⟩
  have hnoWeek : tens ≠ 'W' := ne_of_isField hmonths (by decide) tens List.mem_cons_self
  rw [date?, number?_of_isField hyears]
  simp only [List.cons_append, List.nil_append] at hread ⊢
  simp only [List.drop_one, Option.bind_eq_bind, Option.bind_some, List.head?_cons, ↓reduceIte,
    List.tail_cons, decide_true]
  split
  · rename_i hweek
    cases hweek
    exact absurd rfl hnoWeek
  · exact hread

theorem dateLength_of_isField {d : Date} {year month : List Char} (hyears : IsField 4 d.year year)
    (hmonths : IsField 2 d.month month) (hrest : rest ≠ []) :
    dateLength (year ++ '-' :: (month ++ rest)) = 10 := by
  rcases List.length_eq_four.mp hyears.left with ⟨a, b, c, e, rfl⟩
  rcases List.length_eq_two.mp hmonths.left with ⟨tens, ones, rfl⟩
  have hnoWeek : tens ≠ 'W' := ne_of_isField hmonths (by decide) tens List.mem_cons_self
  simp [dateLength, hnoWeek, hrest]

theorem stamp?_of_isMinuteText {text : String} {d : Date} {hour minute : Int}
    (h : IsMinuteText text d hour minute) (hd : d.IsValid) (hyear : 1 ≤ d.year)
    (hhour : 0 ≤ hour ∧ hour < 24) (hminute : 0 ≤ minute ∧ minute < 60) :
    stamp? text = some ⟨d, ⟨hour, minute, 0, 0⟩, none⟩ := by
  rcases h with ⟨year, month, day, hours, minutes, htext, hyears, hmonths, hdays, hhours, hminutes⟩
  have hclock : (Clock.mk hour minute 0 0).IsValid := by
    refine ⟨hhour, hminute, ?_, ?_⟩
    · exact ⟨Int.le_refl 0, (by decide : (0 : Int) < 60)⟩
    · exact ⟨Int.le_refl 0, (by decide : 0 < Instant.microsPerSecond)⟩
  have hlength : text.toList.length = 16 := by
    rw [htext]
    simp [hyears.left, hmonths.left, hdays.left, hhours.left, hminutes.left]
  have hstop : dateLength text.toList = 10 := by
    rw [htext]
    exact dateLength_of_isField hyears hmonths (by simp)
  have hdate : date? 10 text.toList = some d := by
    rw [htext]
    exact date?_of_isField hyears hmonths hdays hd hyear
  have hrest : text.toList.drop 10 = ' ' :: (hours ++ ':' :: minutes) := by
    rw [htext]
    rcases List.length_eq_four.mp hyears.left with ⟨y1, y2, y3, y4, rfl⟩
    rcases List.length_eq_two.mp hmonths.left with ⟨m1, m2, rfl⟩
    rcases List.length_eq_two.mp hdays.left with ⟨d1, d2, rfl⟩
    rfl
  have hlast : ¬ Stamp.lastYear < d.year := by
    rcases hyears with ⟨hfour, hdigits, hvalue⟩
    have hbelow := ofDigitChars_lt hdigits
    have hlimit : tenPow 4 = 10000 := rfl
    rw [hfour, hlimit] at hbelow
    rw [Stamp.lastYear]
    omega
  have htime := time?_of_isField hhours hminutes hclock
  generalize hours ++ ':' :: minutes = time at hrest htime
  simp [stamp?, hlength, minLength, hstop, hdate, hlast, hrest, htime]

end Iso
end ReviewDesk
