import ReviewDesk.Calendar.Stamp
import ReviewDesk.Proofs.Calendar.Date

/-!
# Stamps that mean the same

A stamp is brought to universal time by the calendar alone: the time of day is moved by what
it is ahead, and if it leaves the day, the date becomes the one before or after.  Stamps that
come to the same date and time are the same instant.
-/

namespace ReviewDesk

theorem Clock.elapsed_bounds {c : Clock} (hc : c.IsValid) :
    0 ≤ c.elapsed ∧ c.elapsed < Instant.microsPerDay := by
  rcases hc with ⟨hhour, hminute, hsecond, hmicros⟩
  simp only [elapsed, seconds, Instant.microsPerSecond, Instant.microsPerDay] at *
  omega

namespace Stamp

variable {s s' : Stamp} {d : Date} {micros : Int}

structure IsValid (s : Stamp) : Prop where
  date : s.date.IsValid
  year : firstYear ≤ s.date.year ∧ s.date.year ≤ lastYear
  clock : s.clock.IsValid
  ahead : -Instant.microsPerDay < s.ahead.getD 0 ∧ s.ahead.getD 0 < Instant.microsPerDay

/-- In universal time it is this date, and so many microseconds of the day have passed. -/
inductive InUniversal (s : Stamp) : Date → Int → Prop
  | sameDay {micros : Int} : micros + s.ahead.getD 0 = s.clock.elapsed → InUniversal s s.date micros
  | dayBefore {d : Date} {micros : Int} : d.IsValid → d.next = s.date →
      micros + s.ahead.getD 0 = s.clock.elapsed + Instant.microsPerDay → InUniversal s d micros
  | dayAfter {micros : Int} : micros + s.ahead.getD 0 = s.clock.elapsed - Instant.microsPerDay →
      InUniversal s s.date.next micros

def SameTime (s s' : Stamp) : Prop :=
  ∃ d micros, (0 ≤ micros ∧ micros < Instant.microsPerDay) ∧
    s.InUniversal d micros ∧ s'.InUniversal d micros

theorem instant_of_inUniversal (hs : s.IsValid) (h : s.InUniversal d micros) :
    s.instant = ⟨d.toDays * Instant.microsPerDay + micros⟩ := by
  rw [instant, Instant.mk.injEq]
  cases h with
  | sameDay hmicros => omega
  | dayBefore hd hnext hmicros =>
      rw [← hnext, Date.toDays_next hd, Int.add_mul]
      omega
  | dayAfter hmicros =>
      rw [Date.toDays_next hs.date, Int.add_mul]
      omega

theorem exists_inUniversal (hs : s.IsValid) :
    ∃ d micros, (0 ≤ micros ∧ micros < Instant.microsPerDay) ∧ s.InUniversal d micros := by
  rcases Clock.elapsed_bounds hs.clock with ⟨hstart, hend⟩
  rcases hs.ahead with ⟨hbehind, hahead⟩
  by_cases hbefore : s.clock.elapsed < s.ahead.getD 0
  · have hnext : (Date.ofDays (s.date.toDays - 1)).next = s.date := by
      rw [← Date.ofDays_add_one, Int.sub_add_cancel, Date.ofDays_toDays hs.date]
    exact ⟨_, s.clock.elapsed + Instant.microsPerDay - s.ahead.getD 0, by omega,
      .dayBefore (Date.isValid_ofDays _) hnext (by omega)⟩
  · by_cases hafter : s.clock.elapsed - s.ahead.getD 0 < Instant.microsPerDay
    · exact ⟨_, s.clock.elapsed - s.ahead.getD 0, by omega, .sameDay (by omega)⟩
    · exact ⟨_, s.clock.elapsed - Instant.microsPerDay - s.ahead.getD 0, by omega,
        .dayAfter (by omega)⟩

theorem isValid_of_inUniversal (hs : s.IsValid) (h : s.InUniversal d micros) : d.IsValid := by
  cases h with
  | sameDay _ => exact hs.date
  | dayBefore hd _ _ => exact hd
  | dayAfter _ => exact Date.isValid_next hs.date

theorem date_of_inUniversal (hs : s.IsValid) (h : s.InUniversal d micros)
    (hmicros : 0 ≤ micros ∧ micros < Instant.microsPerDay) : s.instant.date = d := by
  have hday : s.instant.seconds / Instant.secondsPerDay = d.toDays := by
    rw [instant_of_inUniversal hs h]
    simp only [Instant.seconds, Instant.microsPerDay, Instant.microsPerSecond,
      Instant.secondsPerDay] at *
    omega
  rw [Instant.date, hday, Date.ofDays_toDays (isValid_of_inUniversal hs h)]

theorem sameTime_iff (hs : s.IsValid) (hs' : s'.IsValid) :
    s.SameTime s' ↔ s.instant = s'.instant := by
  constructor
  · rintro ⟨d, micros, _, h, h'⟩
    rw [instant_of_inUniversal hs h, instant_of_inUniversal hs' h']
  · intro hsame
    rcases exists_inUniversal hs with ⟨d, micros, hmicros, h⟩
    rcases exists_inUniversal hs' with ⟨d', micros', hmicros', h'⟩
    have hmicrosSame : micros = micros' := by
      rw [instant_of_inUniversal hs h, instant_of_inUniversal hs' h', Instant.mk.injEq] at hsame
      simp only [Instant.microsPerDay] at *
      omega
    have hd : d = d' := by
      rw [← date_of_inUniversal hs h hmicros, ← date_of_inUniversal hs' h' hmicros', hsame]
    subst hmicrosSame hd
    exact ⟨d, micros, hmicros, h, h'⟩

theorem isUniversal_iff : s.isUniversal = true ↔
    firstYear ≤ s.instant.date.year ∧ s.instant.date.year ≤ lastYear := by
  simp only [isUniversal, Bool.and_eq_true, decide_eq_true_eq]

end Stamp
end ReviewDesk
