import ReviewDesk.Calendar.Date
import Mathlib.Tactic.IntervalCases

/-!
# Dates and days

Counting days and finding the date of a day undo each other, and the next date is the next
day.  So dates come in the order of their years, months and days.
-/

namespace ReviewDesk
namespace Date

variable {d : Date} {year month day n : Int}

theorem isLeap_iff : isLeap year = true ↔ year % 4 = 0 ∧ (year % 100 ≠ 0 ∨ year % 400 = 0) := by
  simp [isLeap]

/-!
# Years that begin in March
-/

def marchYear (d : Date) : Int :=
  if d.month ≤ 2 then d.year - 1 else d.year

def marchMonth (d : Date) : Int :=
  if d.month ≤ 2 then d.month + 9 else d.month - 3

def ofMarch (year month day : Int) : Date :=
  { year := year + (if 10 ≤ month then 1 else 0)
    month := if 10 ≤ month then month - 9 else month + 3
    day := day }

theorem toDays_eq (d : Date) :
    d.toDays = d.marchYear / 400 * daysInCycle + daysBeforeYear (d.marchYear % 400) +
      daysBeforeMonth d.marchMonth + (d.day - 1) - epoch :=
  rfl

theorem marchMonth_of_isValid (hd : d.IsValid) : 0 ≤ d.marchMonth ∧ d.marchMonth ≤ 11 := by
  rcases hd with ⟨hlow, hhigh, _, _⟩
  rw [marchMonth]
  omega

theorem ofMarch_march (hd : d.IsValid) : ofMarch d.marchYear d.marchMonth d.day = d := by
  rcases d with ⟨year, month, day⟩
  rcases hd with ⟨hlow, hhigh, _, _⟩
  dsimp only at hlow hhigh
  by_cases hearly : month ≤ 2
  · simp only [ofMarch, marchYear, marchMonth, if_pos hearly, mk.injEq, and_true]
    omega
  · simp only [ofMarch, marchYear, marchMonth, if_neg hearly, mk.injEq, and_true]
    omega

theorem marchYear_ofMarch (hlow : 0 ≤ month) (hhigh : month ≤ 11) :
    (ofMarch year month day).marchYear = year := by
  simp only [ofMarch, marchYear]
  omega

theorem marchMonth_ofMarch (hlow : 0 ≤ month) (hhigh : month ≤ 11) :
    (ofMarch year month day).marchMonth = month := by
  simp only [ofMarch, marchMonth]
  omega

theorem isValid_ofMarch_iff (hlow : 0 ≤ month) (hhigh : month ≤ 11) :
    (ofMarch year month day).IsValid ↔
      1 ≤ day ∧ day ≤ daysBeforeMonth (month + 1) - daysBeforeMonth month ∧
        daysBeforeMonth month + day ≤ 366 ∧
        (daysBeforeMonth month + day = 366 → isLeap (year + 1) = true) := by
  by_cases hlast : month = 11
  · subst hlast
    have hdate : ofMarch year 11 day = ⟨year + 1, 2, day⟩ := rfl
    have hlength : daysInMonth (year + 1) 2 = if isLeap (year + 1) = true then 29 else 28 := rfl
    rw [hdate]
    simp only [IsValid, hlength, daysBeforeMonth]
    by_cases hleap : isLeap (year + 1) = true
    · rw [if_pos hleap]
      simp only [hleap, implies_true, and_true]
      omega
    · rw [if_neg hleap]
      simp only [hleap, Bool.false_eq_true, imp_false]
      omega
  · interval_cases month <;>
      simp [IsValid, ofMarch, daysInMonth, daysBeforeMonth] at hlast ⊢ <;> omega

/-!
# Places in the cycle

The year is found by cycles of four hundred years, centuries and groups of four years, each
of which has its longest part last.
-/

structure Place where
  cycle : Int
  century : Int
  group : Int
  year : Int
  day : Int

namespace Place

variable {p : Place}

structure IsValid (p : Place) : Prop where
  century : 0 ≤ p.century ∧ p.century ≤ 3
  group : 0 ≤ p.group ∧ p.group ≤ 24
  year : 0 ≤ p.year ∧ p.year ≤ 3
  day : 0 ≤ p.day ∧ p.day ≤ 365
  leap : p.day = 365 → p.year = 3 ∧ (p.group = 24 → p.century = 3)

def yearInCycle (p : Place) : Int :=
  100 * p.century + 4 * p.group + p.year

def dayInCycle (p : Place) : Int :=
  36524 * p.century + 1461 * p.group + 365 * p.year + p.day

def marchYear (p : Place) : Int :=
  400 * p.cycle + p.yearInCycle

def marchMonth (p : Place) : Int :=
  (5 * p.day + 2) / 153

def date (p : Place) : Date :=
  ofMarch p.marchYear p.marchMonth (p.day - daysBeforeMonth p.marchMonth + 1)

def days (p : Place) : Int :=
  p.cycle * daysInCycle + p.dayInCycle - epoch

theorem marchMonth_bounds (hp : p.IsValid) : 0 ≤ p.marchMonth ∧ p.marchMonth ≤ 11 := by
  have hday := hp.day
  rw [marchMonth]
  omega

theorem dayInCycle_bounds (hp : p.IsValid) : 0 ≤ p.dayInCycle ∧ p.dayInCycle < daysInCycle := by
  rcases hp with ⟨hcentury, hgroup, hyear, hday, hleap⟩
  simp only [dayInCycle, daysInCycle]
  omega

theorem daysBeforeYear_yearInCycle (hp : p.IsValid) :
    daysBeforeYear p.yearInCycle = p.dayInCycle - p.day := by
  rcases hp with ⟨hcentury, hgroup, hyear, hday, hleap⟩
  simp only [daysBeforeYear, yearInCycle, dayInCycle]
  omega

theorem yearOfCycle_dayInCycle (hp : p.IsValid) : yearOfCycle p.dayInCycle = p.yearInCycle := by
  rcases p with ⟨cycle, century, group, year, day⟩
  rcases hp with ⟨hcentury, hgroup, hyear, hday, hleap⟩
  simp only [dayInCycle, yearInCycle] at *
  have hcenturies : (36524 * century + 1461 * group + 365 * year + day) / 36524 -
      (36524 * century + 1461 * group + 365 * year + day) / 146096 = century := by
    by_cases hend : 36524 * century + 1461 * group + 365 * year + day = 146096
    · rw [hend]
      omega
    · have hshort : 1461 * group + 365 * year + day < 36524 := by omega
      omega
  -- a day more for each group is counted too early, and only close to the end of a group
  have hgroups : ∃ carry, 0 ≤ day - carry ∧ day - carry ≤ 364 ∧
      (36524 * century + 1461 * group + 365 * year + day) / 1460 =
        25 * century + group + carry := by
    by_cases hearly : 24 * century + group + 365 * year + day < 1460
    · exact ⟨0, by omega, by omega, by omega⟩
    · exact ⟨1, by omega, by omega, by omega⟩
  rcases hgroups with ⟨carry, hlow, hhigh, hgroups⟩
  rw [yearOfCycle, hgroups]
  omega

theorem ofDays_days (hp : p.IsValid) : ofDays p.days = p.date := by
  rcases dayInCycle_bounds hp with ⟨hlow, hhigh⟩
  have hshift : p.days + epoch = p.dayInCycle + p.cycle * daysInCycle := by
    rw [days]
    omega
  have hcycle : (p.days + epoch) / daysInCycle = p.cycle := by
    rw [hshift, Int.add_mul_ediv_right _ _ (by decide), Int.ediv_eq_zero_of_lt hlow hhigh,
      Int.zero_add]
  have hrest : (p.days + epoch) % daysInCycle = p.dayInCycle := by
    rw [hshift, Int.add_mul_emod_self_right, Int.emod_eq_of_lt hlow hhigh]
  have hday : p.dayInCycle - daysBeforeYear p.yearInCycle = p.day := by
    rw [daysBeforeYear_yearInCycle hp]
    omega
  simp only [ofDays, hcycle, hrest, yearOfCycle_dayInCycle hp, hday]
  rw [Int.mul_comm p.cycle 400]
  rfl

theorem toDays_date (hp : p.IsValid) : p.date.toDays = p.days := by
  rcases marchMonth_bounds hp with ⟨hlow, hhigh⟩
  have hyear : 0 ≤ p.yearInCycle ∧ p.yearInCycle < 400 := by
    rcases hp with ⟨hcentury, hgroup, hyear, hday, hleap⟩
    rw [yearInCycle]
    omega
  have hcycle : p.marchYear / 400 = p.cycle := by
    rw [marchYear]
    omega
  have hrest : p.marchYear % 400 = p.yearInCycle := by
    rw [marchYear]
    omega
  rw [toDays_eq, date, marchYear_ofMarch hlow hhigh, marchMonth_ofMarch hlow hhigh, hcycle, hrest,
    daysBeforeYear_yearInCycle hp, days]
  simp only [ofMarch]
  omega

theorem isLeap_next_iff (hp : p.IsValid) :
    isLeap (p.marchYear + 1) = true ↔ p.year = 3 ∧ (p.group = 24 → p.century = 3) := by
  rcases hp with ⟨hcentury, hgroup, hyear, hday, hleap⟩
  rw [isLeap_iff, marchYear, yearInCycle]
  omega

theorem isValid_date (hp : p.IsValid) : p.date.IsValid := by
  rcases marchMonth_bounds hp with ⟨hlow, hhigh⟩
  have hday := hp.day
  have hmonth : p.marchMonth = (5 * p.day + 2) / 153 := rfl
  rw [date, isValid_ofMarch_iff hlow hhigh]
  simp only [daysBeforeMonth]
  refine ⟨by omega, by omega, by omega, fun hlast => ?_⟩
  exact (isLeap_next_iff hp).mpr (hp.leap (by omega))

theorem exists_of_days (n : Int) : ∃ p : Place, p.IsValid ∧ p.days = n := by
  have hlow : 0 ≤ (n + epoch) % daysInCycle := Int.emod_nonneg _ (by decide)
  have hhigh : (n + epoch) % daysInCycle < daysInCycle := Int.emod_lt_of_pos _ (by decide)
  have hcycle : (n + epoch) / daysInCycle * daysInCycle + (n + epoch) % daysInCycle = n + epoch :=
    Int.ediv_mul_add_emod _ _
  generalize (n + epoch) / daysInCycle = cycle at hcycle
  generalize (n + epoch) % daysInCycle = inCycle at hlow hhigh hcycle
  simp only [daysInCycle] at hhigh
  obtain ⟨century, hcentury⟩ : ∃ c, c = min 3 (inCycle / 36524) := ⟨_, rfl⟩
  obtain ⟨group, hgroup⟩ : ∃ g, g = (inCycle - 36524 * century) / 1461 := ⟨_, rfl⟩
  obtain ⟨year, hyear⟩ : ∃ y, y = min 3 ((inCycle - 36524 * century - 1461 * group) / 365) :=
    ⟨_, rfl⟩
  refine ⟨⟨cycle, century, group, year,
    inCycle - 36524 * century - 1461 * group - 365 * year⟩, ?_, ?_⟩
  · constructor <;> dsimp only <;> omega
  · simp only [days, dayInCycle]
    omega

theorem exists_of_date (hd : d.IsValid) : ∃ p : Place, p.IsValid ∧ p.date = d := by
  have hmonth := marchMonth_of_isValid hd
  rw [← ofMarch_march hd]
  rw [← ofMarch_march hd, isValid_ofMarch_iff hmonth.left hmonth.right, isLeap_iff] at hd
  rcases hd with ⟨hfirst, hlast, hend, hleap⟩
  generalize d.marchYear = year at *
  generalize d.marchMonth = month at *
  generalize d.day = day at *
  simp only [daysBeforeMonth] at *
  refine ⟨⟨year / 400, year % 400 / 100, year % 100 / 4, year % 4,
    (153 * month + 2) / 5 + day - 1⟩, ?_, ?_⟩
  · constructor <;> dsimp only <;> omega
  · have hsame : (5 * ((153 * month + 2) / 5 + day - 1) + 2) / 153 = month := by omega
    simp only [date, marchYear, marchMonth, yearInCycle, daysBeforeMonth, hsame]
    congr 1 <;> omega

end Place

/-!
# Dates and days undo each other
-/

theorem toDays_ofDays (n : Int) : (ofDays n).toDays = n := by
  rcases Place.exists_of_days n with ⟨p, hp, rfl⟩
  rw [Place.ofDays_days hp, Place.toDays_date hp]

theorem isValid_ofDays (n : Int) : (ofDays n).IsValid := by
  rcases Place.exists_of_days n with ⟨p, hp, rfl⟩
  rw [Place.ofDays_days hp]
  exact Place.isValid_date hp

theorem ofDays_toDays (hd : d.IsValid) : ofDays d.toDays = d := by
  rcases Place.exists_of_date hd with ⟨p, hp, rfl⟩
  rw [Place.toDays_date hp, Place.ofDays_days hp]

/-!
# The next date
-/

def next (d : Date) : Date :=
  if d.day < daysInMonth d.year d.month then ⟨d.year, d.month, d.day + 1⟩
  else if d.month < 12 then ⟨d.year, d.month + 1, 1⟩
  else ⟨d.year + 1, 1, 1⟩

theorem one_le_daysInMonth (year month : Int) : 1 ≤ daysInMonth year month := by
  unfold daysInMonth
  split
  · split <;> omega
  · split <;> omega

theorem isValid_next (hd : d.IsValid) : d.next.IsValid := by
  rcases hd with ⟨hlow, hhigh, hfirst, hlast⟩
  have hone := Int.le_refl 1
  unfold next
  split
  · exact ⟨hlow, hhigh, by dsimp only; omega, by dsimp only; omega⟩
  · split
    · exact ⟨by dsimp only; omega, by dsimp only; omega, hone, one_le_daysInMonth _ _⟩
    · exact ⟨hone, by dsimp only; omega, hone, one_le_daysInMonth _ _⟩

theorem toDays_eq_linear (d : Date) :
    d.toDays = 365 * d.marchYear + d.marchYear / 4 - d.marchYear / 100 + d.marchYear / 400 +
      (153 * d.marchMonth + 2) / 5 + d.day - 1 - 719468 := by
  rw [toDays_eq]
  simp only [daysInCycle, daysBeforeYear, daysBeforeMonth, epoch]
  omega

theorem toDays_next (hd : d.IsValid) : d.next.toDays = d.toDays + 1 := by
  rcases d with ⟨year, month, day⟩
  rcases hd with ⟨hlow, hhigh, hfirst, hlast⟩
  dsimp only at hlow hhigh hfirst hlast
  by_cases hinside : day < daysInMonth year month
  · rw [next, if_pos hinside, toDays_eq_linear, toDays_eq_linear]
    simp only [marchYear, marchMonth]
    omega
  · rw [next, if_neg hinside]
    simp only [toDays_eq_linear]
    by_cases hfebruary : month = 2
    · subst hfebruary
      have hlength : daysInMonth year 2 = if isLeap year = true then 29 else 28 := rfl
      rw [hlength] at hinside hlast
      by_cases hleap : isLeap year = true
      · rw [if_pos hleap] at hinside hlast
        rw [isLeap_iff] at hleap
        simp [marchYear, marchMonth]
        omega
      · rw [if_neg hleap] at hinside hlast
        rw [isLeap_iff] at hleap
        simp [marchYear, marchMonth]
        omega
    · interval_cases month <;> simp [daysInMonth, marchYear, marchMonth] at * <;> omega

theorem ofDays_add_one (n : Int) : ofDays (n + 1) = (ofDays n).next := by
  have hvalid := isValid_ofDays n
  rw [← ofDays_toDays (isValid_next hvalid), toDays_next hvalid, toDays_ofDays]

/-!
# The order of dates
-/

def Before (d d' : Date) : Prop :=
  d.year < d'.year ∨ d.year = d'.year ∧
    (d.month < d'.month ∨ d.month = d'.month ∧ d.day < d'.day)

theorem before_next (d : Date) : d.Before d.next := by
  unfold Before next
  split
  · dsimp only
    omega
  · split <;> dsimp only <;> omega

theorem before_trans {d d' d'' : Date} (h : d.Before d') (h' : d'.Before d'') : d.Before d'' := by
  unfold Before at *
  omega

theorem before_ofDays {n' : Int} (h : n < n') : (ofDays n).Before (ofDays n') := by
  induction n', h using Int.leInduction with
  | base =>
      rw [ofDays_add_one]
      exact before_next (ofDays n)
  | succ later hlater ih =>
      rw [ofDays_add_one]
      exact before_trans ih (before_next (ofDays later))

theorem year_ofDays_mono {n' : Int} (h : n ≤ n') : (ofDays n).year ≤ (ofDays n').year := by
  rcases Int.lt_or_eq_of_le h with hbefore | rfl
  · rcases before_ofDays hbefore with hyear | ⟨hyear, _⟩
    · exact Int.le_of_lt hyear
    · exact Int.le_of_eq hyear
  · exact Int.le_refl _

end Date
end ReviewDesk
