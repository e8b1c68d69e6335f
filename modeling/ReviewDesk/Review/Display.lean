import ReviewDesk.Calendar.Seoul
import ReviewDesk.Calendar.Stamp
import ReviewDesk.Decimal.Grouped
import ReviewDesk.Fault
import ReviewDesk.Review.Basic

/-!
# Showing a review

Costs and times are shown to readers as texts: dollars with six places, won without
any, and the local time in Seoul.  What is missing is shown as a hyphen.
-/

namespace ReviewDesk
namespace Display

def missing : String := "-"

def usd : Option Decimal → String
  | none => missing
  | some d => String.ofList ('$' :: d.groupedText 6)

def wholeOf : Decimal → Except Fault Int
  | .finite negative c _ => .ok (if negative then -c else c)
  | .infinite _ => .error (.overflow "an infinite amount")
  | .nan _ _ _ => .error (.badValue "an amount that is no number")

def krw : Option Decimal → Except Fault String
  | none => .ok missing
  | some d =>
      match d.quantize .halfUp 0 with
      | .error trap => .error (.decimal trap)
      | .ok rounded => do
          return String.ofList (Decimal.groupedInt (← wholeOf rounded) ++ ['원'])

def createdAt : Option Instant → Except Fault String
  | none => .ok missing
  | some t =>
      match Seoul.display? t with
      | some s => .ok s
      | none => .error (.overflow "date value out of range")

def stampedAt : Option Stamp → Except Fault String
  | none => .ok missing
  | some s =>
      if s.isUniversal then createdAt (some s.instant)
      else .error (.overflow "date value out of range")

end Display
end ReviewDesk
