import ReviewDesk.Proofs.Calendar.Iso
import ReviewDesk.Proofs.Calendar.Seoul
import ReviewDesk.Review.Display

/-!
# Times that are shown

Only the instant matters for what is shown of a stamp, not how it was written.  Since the
clocks in Seoul were last changed, what is shown can be read again: nine hours earlier it is
the instant, cut to the minute.
-/

namespace ReviewDesk

def Instant.toMinute (t : Instant) : Instant :=
  ⟨t.micros / 60000000 * 60000000⟩

namespace Display

variable {t t' : Instant} {s s' : Stamp}

/-- The clocks are not changed any more, and the year in Seoul has four digits. -/
def IsRecent (t : Instant) : Prop :=
  (Instant.atTime ⟨1988, 10, 8⟩ 17 0 0 0).micros ≤ t.micros ∧
    (t.shift (Seoul.ahead t)).date.year ≤ 9999

theorem ahead_of_isRecent (ht : IsRecent t) : Seoul.ahead t = 9 * 3600 :=
  Seoul.ahead_of_recent ht.left

theorem year_of_isRecent (ht : IsRecent t) :
    (1988 ≤ t.date.year ∧ t.date.year ≤ 9999) ∧
      1988 ≤ (t.shift (9 * 3600)).date.year ∧ (t.shift (9 * 3600)).date.year ≤ 9999 := by
  have hahead := ahead_of_isRecent ht
  rcases ht with ⟨hsince, hyear⟩
  have hchange : (Instant.atTime ⟨1988, 10, 8⟩ 17 0 0 0).micros = 592333200000000 := by decide
  have hfirst : Date.ofDays 6855 = ⟨1988, 10, 8⟩ := by decide
  have hlow : 6855 ≤ t.seconds / Instant.secondsPerDay := by
    rw [hchange] at hsince
    simp only [Instant.seconds, Instant.microsPerSecond, Instant.secondsPerDay]
    omega
  have hlater : t.seconds / Instant.secondsPerDay ≤
      (t.shift (9 * 3600)).seconds / Instant.secondsPerDay := by
    simp only [Instant.shift, Instant.seconds, Instant.microsPerSecond, Instant.secondsPerDay]
    omega
  have hyearLow := Date.year_ofDays_mono hlow
  have hyearLater := Date.year_ofDays_mono hlater
  rw [hfirst] at hyearLow
  rw [hahead] at hyear
  simp only [Instant.date] at *
  omega

theorem createdAt_of_isRecent (ht : IsRecent t) :
    createdAt (some t) = .ok (t.shift (9 * 3600)).minuteText := by
  have hdisplay : Seoul.display? t = some (t.shift (9 * 3600)).minuteText := by
    rw [Seoul.display?, ahead_of_isRecent ht]
    exact if_pos (year_of_isRecent ht).right.right
  rw [createdAt, hdisplay]

theorem stampedAt_of_isRecent (hs : IsRecent s.instant) :
    stampedAt (some s) = .ok (s.instant.shift (9 * 3600)).minuteText := by
  have hyear := (year_of_isRecent hs).left
  have hfirst : Stamp.firstYear ≤ s.instant.date.year :=
    Int.le_trans (by decide : Stamp.firstYear ≤ 1988) hyear.left
  rw [stampedAt, if_pos (Stamp.isUniversal_iff.mpr ⟨hfirst, hyear.right⟩)]
  exact createdAt_of_isRecent hs

theorem instant_of_minute (t : Instant) :
    (Stamp.mk t.date ⟨t.hour, t.minute, 0, 0⟩ none).instant = t.toMinute := by
  rw [Stamp.instant, Instant.date, Date.toDays_ofDays, Instant.toMinute, Instant.mk.injEq]
  simp only [Clock.elapsed, Clock.seconds, Instant.hour, Instant.minute, Instant.secondOfDay,
    Instant.seconds, Instant.microsPerSecond, Instant.secondsPerDay, Instant.microsPerDay,
    Option.getD_none]
  omega

theorem shift_toMinute (t : Instant) :
    (t.shift (9 * 3600)).toMinute.shift (-(9 * 3600)) = t.toMinute := by
  simp only [Instant.toMinute, Instant.shift, Instant.microsPerSecond, Instant.mk.injEq]
  omega

/-!
# What is shown of stamps
-/

theorem stampedAt_of_sameTime (hs : s.IsValid) (hs' : s'.IsValid) (h : s.SameTime s') :
    stampedAt (some s) = stampedAt (some s') := by
  have hinstant : s.instant = s'.instant := (Stamp.sameTime_iff hs hs').mp h
  have huniversal : s.isUniversal = s'.isUniversal := by
    rw [Stamp.isUniversal, Stamp.isUniversal, hinstant]
  rw [stampedAt, stampedAt, huniversal, hinstant]

theorem stampedAt_of_texts {text text' : String} (h : Iso.stamp? text = some s)
    (h' : Iso.stamp? text' = some s') (hsame : s.SameTime s') :
    stampedAt (some s) = stampedAt (some s') :=
  stampedAt_of_sameTime (Iso.isValid_of_stamp? h) (Iso.isValid_of_stamp? h') hsame

theorem stampedAt_outside {d : Date} {micros : Int} (hs : s.IsValid) (h : s.InUniversal d micros)
    (hmicros : 0 ≤ micros ∧ micros < Instant.microsPerDay)
    (hyear : d.year < Stamp.firstYear ∨ Stamp.lastYear < d.year) :
    stampedAt (some s) = .error (.overflow "date value out of range") := by
  have hoff : ¬ s.isUniversal = true := by
    rw [Stamp.isUniversal_iff, Stamp.date_of_inUniversal hs h hmicros]
    omega
  rw [stampedAt, if_neg hoff]

example : stampedAt (some ⟨⟨1, 1, 1⟩, ⟨8, 59, 59, 0⟩, some 32400000000⟩) =
    .error (.overflow "date value out of range") := by
  decide

theorem stampedAt_decodes (h : IsRecent s.instant) :
    ∃ shown d hour minute, stampedAt (some s) = .ok shown ∧ IsMinuteText shown d hour minute ∧
      Iso.stamp? shown = some ⟨d, ⟨hour, minute, 0, 0⟩, none⟩ ∧
      (Stamp.mk d ⟨hour, minute, 0, 0⟩ none).instant.shift (-(9 * 3600)) =
        s.instant.toMinute := by
  have hyear := (year_of_isRecent h).right
  have hlow : 1 ≤ (s.instant.shift (9 * 3600)).date.year := by omega
  have htext : IsMinuteText (s.instant.shift (9 * 3600)).minuteText _ _ _ :=
    isMinuteText_minuteText ⟨by omega, hyear.right⟩
  refine ⟨_, _, _, _, stampedAt_of_isRecent h, htext, ?_, ?_⟩
  · exact Iso.stamp?_of_isMinuteText htext (Date.isValid_ofDays _) hlow
      (Instant.hour_bounds _) (Instant.minute_bounds _)
  · rw [instant_of_minute, shift_toMinute]

theorem stampedAt_mono (h : IsRecent s.instant) (h' : IsRecent s'.instant)
    (hle : s.instant.micros ≤ s'.instant.micros) :
    ∃ shown shown', stampedAt (some s) = .ok shown ∧ stampedAt (some s') = .ok shown' ∧
      ¬ shown' < shown := by
  have hyear := (year_of_isRecent h).right
  have hyear' := (year_of_isRecent h').right
  refine ⟨_, _, stampedAt_of_isRecent h, stampedAt_of_isRecent h', ?_⟩
  apply Instant.minuteText_mono ⟨by omega, hyear.right⟩ ⟨by omega, hyear'.right⟩
  exact Int.add_le_add_right hle _

/-- Stamps of the same time look the same, or neither can be shown.  What is shown of a recent
time gives its minute back, and shown times come in their order. -/
theorem times_decode (hs : s.IsValid) (hs' : s'.IsValid) :
    (s.SameTime s' → stampedAt (some s) = stampedAt (some s')) ∧
      (IsRecent s.instant → ∃ shown d hour minute, stampedAt (some s) = .ok shown ∧
        IsMinuteText shown d hour minute ∧
        Iso.stamp? shown = some ⟨d, ⟨hour, minute, 0, 0⟩, none⟩ ∧
        (Stamp.mk d ⟨hour, minute, 0, 0⟩ none).instant.shift (-(9 * 3600)) =
          s.instant.toMinute) ∧
      (IsRecent s.instant → IsRecent s'.instant → s.instant.micros ≤ s'.instant.micros →
        ∃ shown shown', stampedAt (some s) = .ok shown ∧ stampedAt (some s') = .ok shown' ∧
          ¬ shown' < shown) :=
  ⟨stampedAt_of_sameTime hs hs', stampedAt_decodes, stampedAt_mono⟩

theorem times_decode_leapDay :
    stampedAt (some ⟨⟨2024, 2, 28⟩, ⟨15, 30, 45, 250000⟩, none⟩) =
        stampedAt (some ⟨⟨2024, 2, 29⟩, ⟨0, 30, 45, 250000⟩, some 32400000000⟩) ∧
      (∃ read, Iso.stamp? "2024-02-29 00:30" = some read ∧ read.instant.shift (-(9 * 3600)) =
        (Stamp.mk ⟨2024, 2, 28⟩ ⟨15, 30, 45, 250000⟩ none).instant.toMinute) ∧
      ∃ shown, stampedAt (some ⟨⟨9999, 12, 31⟩, ⟨23, 59, 59, 0⟩, some 32400000000⟩) = .ok shown ∧
        ¬ shown < "2024-02-29 00:30" := by
  have hnaive : (Stamp.mk ⟨2024, 2, 28⟩ ⟨15, 30, 45, 250000⟩ none).IsValid :=
    ⟨by decide, by decide, by decide, by decide⟩
  have haware : (Stamp.mk ⟨2024, 2, 29⟩ ⟨0, 30, 45, 250000⟩ (some 32400000000)).IsValid :=
    ⟨by decide, by decide, by decide, by decide⟩
  have hlast : (Stamp.mk ⟨9999, 12, 31⟩ ⟨23, 59, 59, 0⟩ (some 32400000000)).IsValid :=
    ⟨by decide, by decide, by decide, by decide⟩
  have hsame : (Stamp.mk ⟨2024, 2, 28⟩ ⟨15, 30, 45, 250000⟩ none).SameTime
      ⟨⟨2024, 2, 29⟩, ⟨0, 30, 45, 250000⟩, some 32400000000⟩ :=
    ⟨⟨2024, 2, 28⟩, 55845250000, by decide, .sameDay rfl, .dayBefore (by decide) (by decide) rfl⟩
  have hshown : stampedAt (some ⟨⟨2024, 2, 28⟩, ⟨15, 30, 45, 250000⟩, none⟩) =
      .ok "2024-02-29 00:30" := by decide
  have hearly : IsRecent (Stamp.mk ⟨2024, 2, 28⟩ ⟨15, 30, 45, 250000⟩ none).instant :=
    ⟨by decide, by decide⟩
  have hlate : IsRecent (Stamp.mk ⟨9999, 12, 31⟩ ⟨23, 59, 59, 0⟩ (some 32400000000)).instant :=
    ⟨by decide, by decide⟩
  rcases (times_decode hnaive haware).right.left hearly with
    ⟨_, _, _, _, hdecoded, _, hread, hback⟩
  rcases (times_decode hnaive hlast).right.right hearly hlate (by decide) with
    ⟨_, late, hfirst, hsecond, horder⟩
  rw [hshown] at hdecoded hfirst
  cases hdecoded
  cases hfirst
  exact ⟨(times_decode hnaive haware).left hsame, ⟨_, hread, hback⟩, late, hsecond, horder⟩

end Display
end ReviewDesk
