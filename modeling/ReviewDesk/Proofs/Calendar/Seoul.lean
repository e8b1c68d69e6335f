import ReviewDesk.Calendar.Seoul
import ReviewDesk.Proofs.Calendar.Date

/-!
# Times that can be shown

The local time in Seoul has a year of four digits up to the last afternoon of the year
9999 in universal time.
-/

namespace ReviewDesk

namespace Date

theorem year_le_of_days {n : Int} (h : n ≤ (Date.mk 9999 12 31).toDays) :
    (ofDays n).year ≤ 9999 := by
  have hlast : ofDays (Date.mk 9999 12 31).toDays = ⟨9999, 12, 31⟩ := ofDays_toDays (by decide)
  have hyear := year_ofDays_mono h
  rwa [hlast] at hyear

end Date

namespace Seoul

/-- From this instant on it is the year 10000 in Seoul. -/
def end9999 : Instant :=
  .atTime ⟨9999, 12, 31⟩ 15 0 0 0

theorem ahead_le (t : Instant) : ahead t ≤ summer := by
  unfold ahead
  split
  · rename_i c hc
    have hmem : c ∈ changes := by simpa using List.mem_of_find?_eq_some hc
    have hall : ∀ c ∈ changes, c.ahead ≤ summer := by decide
    exact hall c hmem
  · decide

theorem ahead_of_recent {t : Instant}
    (h : (change 1988 10 8 17 0 0 standard).since.micros ≤ t.micros) : ahead t = standard := by
  have hlast : changes.reverse.find? (fun c => c.since.micros ≤ t.micros) =
      some (change 1988 10 8 17 0 0 standard) := by
    have hreverse : changes.reverse =
        change 1988 10 8 17 0 0 standard :: changes.dropLast.reverse := by rfl
    rw [hreverse, List.find?_cons_of_pos (by simpa using h)]
  simp [ahead, hlast, change]

theorem display?_isSome {t : Instant} (h : t.micros < end9999.micros) :
    ∃ text, display? t = some text := by
  have hdays : (t.shift (ahead t)).seconds / Instant.secondsPerDay ≤
      (Date.mk 9999 12 31).toDays := by
    have hlast : (Date.mk 9999 12 31).toDays = 2932896 := by decide
    have hend : end9999.micros = 253402268400000000 := by decide
    have hchange : (change 1988 10 8 17 0 0 standard).since.micros = 592333200000000 := by decide
    have hahead := ahead_le t
    have hstandard := ahead_of_recent (t := t)
    rw [hend] at h
    rw [hchange] at hstandard
    simp only [Instant.shift, Instant.seconds, Instant.microsPerSecond, Instant.secondsPerDay,
      summer, standard] at hahead hstandard ⊢
    omega
  have hyear : (t.shift (ahead t)).date.year ≤ lastYear := Date.year_le_of_days hdays
  simp [display?, hyear]

end Seoul
end ReviewDesk
