import ReviewDesk.Calendar.Instant

/-!
# Stamps

A stamp is a date and a time of day as they are written down, with or without how far
they are ahead of universal time.  Without it they are meant in universal time.
-/

namespace ReviewDesk

/-!
# Times of day
-/

structure Clock where
  hour : Int
  minute : Int
  second : Int
  micros : Int
  deriving DecidableEq

namespace Clock

def midnight : Clock :=
  ⟨0, 0, 0, 0⟩

def seconds (c : Clock) : Int :=
  c.hour * 3600 + c.minute * 60 + c.second

def elapsed (c : Clock) : Int :=
  c.seconds * Instant.microsPerSecond + c.micros

def IsValid (c : Clock) : Prop :=
  (0 ≤ c.hour ∧ c.hour < 24) ∧ (0 ≤ c.minute ∧ c.minute < 60) ∧
    (0 ≤ c.second ∧ c.second < 60) ∧ (0 ≤ c.micros ∧ c.micros < Instant.microsPerSecond)

instance (c : Clock) : Decidable c.IsValid :=
  inferInstanceAs (Decidable (_ ∧ _ ∧ _ ∧ _))

end Clock

/-!
# Stamps and instants
-/

structure Stamp where
  date : Date
  clock : Clock
  /-- Microseconds ahead of universal time. -/
  ahead : Option Int
  deriving DecidableEq

namespace Stamp

def instant (s : Stamp) : Instant :=
  ⟨s.date.toDays * Instant.microsPerDay + (s.clock.elapsed - s.ahead.getD 0)⟩

def firstYear : Int := 1
def lastYear : Int := 9999

/-- Whether the date in universal time has a year that can be written. -/
def isUniversal (s : Stamp) : Bool :=
  let year := s.instant.date.year
  firstYear ≤ year && year ≤ lastYear

end Stamp
end ReviewDesk
