import ReviewDesk.Calendar.Instant

/-!
# Time in Seoul

Creation times are shown in the local time of Seoul.  The table lists from which
instant on the clocks there were how far ahead of universal time.
-/

namespace ReviewDesk
namespace Seoul

structure Change where
  since : Instant
  ahead : Int

def change (year month day hour minute second ahead : Int) : Change :=
  ⟨.atTime ⟨year, month, day⟩ hour minute second 0, ahead⟩

def firstAhead : Int := 8 * 3600 + 27 * 60 + 52

def summer : Int := 10 * 3600
def standard : Int := 9 * 3600
def oldStandard : Int := 8 * 3600 + 1800
def oldSummer : Int := 9 * 3600 + 1800

def changes : List Change :=
  [change 1908 3 31 15 32 8 oldStandard, change 1911 12 31 15 30 0 standard,
    change 1948 5 31 15 0 0 summer, change 1948 9 12 14 0 0 standard,
    change 1949 4 2 15 0 0 summer, change 1949 9 10 14 0 0 standard,
    change 1950 3 31 15 0 0 summer, change 1950 9 9 14 0 0 standard,
    change 1951 5 5 15 0 0 summer, change 1951 9 8 14 0 0 standard,
    change 1954 3 20 15 0 0 oldStandard, change 1955 5 4 15 30 0 oldSummer,
    change 1955 9 8 14 30 0 oldStandard, change 1956 5 19 15 30 0 oldSummer,
    change 1956 9 29 14 30 0 oldStandard, change 1957 5 4 15 30 0 oldSummer,
    change 1957 9 21 14 30 0 oldStandard, change 1958 5 3 15 30 0 oldSummer,
    change 1958 9 20 14 30 0 oldStandard, change 1959 5 2 15 30 0 oldSummer,
    change 1959 9 19 14 30 0 oldStandard, change 1960 4 30 15 30 0 oldSummer,
    change 1960 9 17 14 30 0 oldStandard, change 1961 8 9 15 30 0 standard,
    change 1987 5 9 17 0 0 summer, change 1987 10 10 17 0 0 standard,
    change 1988 5 7 17 0 0 summer, change 1988 10 8 17 0 0 standard]

def ahead (t : Instant) : Int :=
  match changes.reverse.find? fun c => c.since.micros ≤ t.micros with
  | some c => c.ahead
  | none => firstAhead

def lastYear : Int := 9999

/-- The local time to the minute, if its year has at most four digits. -/
def display? (t : Instant) : Option String :=
  let here := t.shift (ahead t)
  if here.date.year ≤ lastYear then some here.minuteText else none

end Seoul
end ReviewDesk
