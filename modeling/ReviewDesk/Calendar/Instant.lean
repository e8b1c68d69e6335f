import ReviewDesk.Calendar.Date

/-!
# Instants

An instant is a number of microseconds since the beginning of 1970 in universal
time.  It is written as a date and a time of day.
-/

namespace ReviewDesk

structure Instant where
  micros : Int
  deriving DecidableEq

namespace Instant

/-!
# Parts of an instant
-/

def microsPerSecond : Int := 1000000
def secondsPerDay : Int := 86400
def microsPerDay : Int := 86400000000

def seconds (t : Instant) : Int :=
  t.micros / microsPerSecond

def fraction (t : Instant) : Int :=
  t.micros % microsPerSecond

def ofSeconds (s : Int) : Instant :=
  ⟨s * microsPerSecond⟩

def shift (t : Instant) (seconds : Int) : Instant :=
  ⟨t.micros + seconds * microsPerSecond⟩

def date (t : Instant) : Date :=
  .ofDays (t.seconds / secondsPerDay)

def secondOfDay (t : Instant) : Int :=
  t.seconds % secondsPerDay

def hour (t : Instant) : Int := t.secondOfDay / 3600
def minute (t : Instant) : Int := t.secondOfDay / 60 % 60
def second (t : Instant) : Int := t.secondOfDay % 60

def atTime (d : Date) (hour minute second micros : Int) : Instant :=
  ⟨(d.toDays * secondsPerDay + hour * 3600 + minute * 60 + second) * microsPerSecond + micros⟩

/-!
# Writing
-/

def field (width : Nat) (n : Int) : List Char :=
  let ds := Nat.toDigits 10 n.toNat
  List.replicate (width - ds.length) '0' ++ ds

def dateChars (d : Date) : List Char :=
  field 4 d.year ++ '-' :: field 2 d.month ++ '-' :: field 2 d.day

def hourMinuteChars (t : Instant) : List Char :=
  field 2 t.hour ++ ':' :: field 2 t.minute

def minuteText (t : Instant) : String :=
  String.ofList (dateChars t.date ++ ' ' :: t.hourMinuteChars)

def secondText (t : Instant) : String :=
  String.ofList (dateChars t.date ++ ' ' :: t.hourMinuteChars ++ ':' :: field 2 t.second)

def fractionChars (t : Instant) : List Char :=
  if t.fraction = 0 then [] else '.' :: field 6 t.fraction

def isoText (t : Instant) : String :=
  String.ofList (dateChars t.date ++ 'T' :: t.hourMinuteChars ++ ':' :: field 2 t.second ++
    t.fractionChars ++ ['Z'])

end Instant
end ReviewDesk
