import ReviewDesk.Calendar.Stamp
import ReviewDesk.Number.Power
import ReviewDesk.Text.Encoding

/-!
# Reading stamps

The standard form is a date, a separator, which may be any character, a time of day, and
how far the local time is ahead of universal time.  A date is given by its month and day
or by its week and weekday, with hyphens or without.  A time without the last part is
universal time, and a date alone is its midnight.
-/

namespace ReviewDesk
namespace Iso

/-!
# Digits
-/

def isDigit (c : Char) : Bool :=
  '0' ≤ c && c ≤ '9'

def number? (n : Nat) (cs : List Char) : Option (Int × List Char) :=
  let ds := cs.take n
  if ds.length = n && ds.all isDigit then
    some ((Nat.ofDigitChars 10 ds 0 : Nat), cs.drop n)
  else none

def hyphen? (needed : Bool) : List Char → Option (List Char)
  | '-' :: cs => if needed then some cs else some ('-' :: cs)
  | cs => if needed then none else some cs

/-!
# Weeks

The first week of a year is the one that holds its fourth of January; weeks begin on
Monday.
-/

def firstMonday (year : Int) : Int :=
  let fourth := Date.toDays ⟨year, 1, 4⟩
  fourth - (fourth + 3) % 7

def ofWeek? (year week weekday : Int) : Option Date :=
  let day := firstMonday year + (week - 1) * 7 + weekday - 1
  if 1 ≤ year && year ≤ Stamp.lastYear && 1 ≤ week && 1 ≤ weekday && weekday ≤ 7 &&
      firstMonday year + (week - 1) * 7 < firstMonday (year + 1) then some (.ofDays day)
  else none

/-!
# Where the date ends

A date with a week may have a weekday or not, and the separator can look like a part of
it.  A digit behind what could be a weekday tells that the hyphen before that is the
separator, and without hyphens times have an even number of digits.
-/

def digitsFrom (n : Nat) (cs : List Char) : Nat :=
  ((cs.drop n).takeWhile isDigit).length

def dateLength (cs : List Char) : Nat :=
  if cs.length = 7 then 7
  else if cs[4]? = some '-' then
    if cs[5]? = some 'W' then
      if cs[8]? = some '-' && !(cs[10]?.any isDigit) then 10 else 8
    else 10
  else if cs[4]? = some 'W' then
    let stop := 7 + digitsFrom 7 cs
    if stop < 9 then stop else if stop % 2 = 0 then 7 else 8
  else 8

/-!
# Dates
-/

def weekDate? (year : Int) (hyphens : Bool) (rest : Nat) (cs : List Char) : Option Date := do
  let (week, cs) ← number? 2 cs
  if rest ≤ 2 then ofWeek? year week 1
  else
    let (weekday, _) ← number? 1 (← hyphen? hyphens cs)
    ofWeek? year week weekday

def monthDate? (year : Int) (hyphens : Bool) (cs : List Char) : Option Date := do
  let (month, cs) ← number? 2 cs
  let (day, _) ← number? 2 (← hyphen? hyphens cs)
  let d : Date := ⟨year, month, day⟩
  if 1 ≤ year && decide d.IsValid then some d else none

def date? (length : Nat) (cs : List Char) : Option Date := do
  let (year, cs) ← number? 4 cs
  let hyphens := cs.head? = some '-'
  let cs := if hyphens then cs.drop 1 else cs
  match cs with
  | 'W' :: cs => weekDate? year hyphens (length - (if hyphens then 6 else 5)) cs
  | cs => monthDate? year hyphens cs

/-!
# Times

Hours, minutes and seconds have two digits each, and those that are missing are zero.
What stands behind the hours tells whether there are colons between them.
-/

/-- The fields of a time, and where its fraction begins.  Without a fraction, `true` tells
that a character follows that belongs to no field. -/
structure Fields where
  numbers : List Int
  fraction : Option (List Char)
  more : Bool

def Fields.put (n : Int) (f : Fields) : Fields :=
  { f with numbers := n :: f.numbers }

/-- At most `left` fields; `colons` tells whether there are colons between them. -/
def fieldsFrom? : Nat → Bool → List Char → Option Fields
  | 0, _, cs => some ⟨[], some cs, false⟩
  | left + 1, colons, cs => do
      let (n, rest) ← number? 2 cs
      match rest with
      | [] => some ⟨[n], none, false⟩
      | [_] => some ⟨[n], none, true⟩
      | c :: rest =>
          let colons := if left = 2 then c = ':' else colons
          if colons && c = ':' then (fieldsFrom? left colons rest).map (.put n)
          else if c = '.' || c = ',' then some ⟨[n], some rest, false⟩
          else if colons then none
          else (fieldsFrom? left colons (c :: rest)).map (.put n)

def fraction? (cs : List Char) : Option (Int × Bool) := do
  let count := min 6 cs.length
  let (n, rest) ← number? count cs
  return (n * tenPow (6 - count), !(rest.dropWhile isDigit).isEmpty)

def clock? (cs : List Char) : Option (Clock × Bool) := do
  let fields ← fieldsFrom? 3 false cs
  let field (i : Nat) : Int := fields.numbers.getD i 0
  let (micros, more) ← match fields.fraction with
    | none => some (0, fields.more)
    | some cs => fraction? cs
  return (⟨field 0, field 1, field 2, micros⟩, more)

/-!
# Local times

What stands between the time and the mark of its zone is passed over, and no seconds are no
distance at all.
-/

def isZoneMark (c : Char) : Bool :=
  c == '+' || c == '-' || c == 'Z'

def distance? (sign : Int) (cs : List Char) : Option Int :=
  match clock? cs with
  | some (c, false) =>
      if c.seconds = 0 then some 0
      else if c.seconds < Instant.secondsPerDay then some (sign * c.elapsed)
      else none
  | _ => none

def ahead? : List Char → Option Int
  | ['Z'] => some 0
  | '+' :: rest => distance? 1 rest
  | '-' :: rest => distance? (-1) rest
  | _ => none

/-- A time of day and how far it is ahead, if that is told.  What stands between the time
and the mark of its zone is passed over. -/
def time? (cs : List Char) : Option (Clock × Option Int) := do
  let (c, more) ← clock? (cs.takeWhile (!isZoneMark ·))
  let zone := cs.dropWhile (!isZoneMark ·)
  let ahead ← if zone.isEmpty then (if more then none else some none) else (ahead? zone).map some
  if c.IsValid then some (c, ahead) else none

/-!
# Stamps
-/

def bytesOf (c : Char) : List Char :=
  if c.toNat < 0x80 then [c] else (Text.utf8Bytes (String.singleton c)).map Char.ofNat

def minLength : Nat := 7

def stamp? (s : String) : Option Stamp := do
  let cs := s.toList
  if cs.length < minLength then none
  let length := dateLength cs
  let d ← date? length cs
  if Stamp.lastYear < d.year then none
  match cs.drop length with
  | [] => some ⟨d, .midnight, none⟩
  | _ :: rest =>
      let (c, ahead) ← time? (rest.flatMap bytesOf)
      some ⟨d, c, ahead⟩

def read? (s : String) : Option Instant :=
  (stamp? s).map Stamp.instant

end Iso
end ReviewDesk
