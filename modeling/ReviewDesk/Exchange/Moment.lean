import ReviewDesk.Json.Basic

/-!
# Moments

The age of a rate is measured by a clock that only runs forward.  Its readings are
whole numbers of seconds until a fraction of a second passes, and binary numbers
from then on.
-/

namespace ReviewDesk

inductive Moment where
  | whole (n : Int)
  | binary (x : Binary64)
  deriving DecidableEq

namespace Moment

def start : Moment := whole 0

def toBinary : Moment → Binary64
  | whole n => .nearest (decide (n < 0)) n.natAbs 1
  | binary x => x

def add : Moment → Moment → Moment
  | whole m, whole n => whole (m + n)
  | x, y => binary (x.toBinary.add y.toBinary)

def sub : Moment → Moment → Moment
  | whole m, whole n => whole (m - n)
  | x, y => binary (x.toBinary.sub y.toBinary)

def ltInt (x : Moment) (n : Int) : Bool :=
  match x with
  | whole m => m < n
  | binary y => y.ltInt n

def toJson : Moment → Json
  | whole n => .int n
  | binary x => .double x

def ofJson? : Json → Option Moment
  | .int n => some (whole n)
  | .double x => some (binary x)
  | _ => none

end Moment

/-- The clock is read when a rate is looked for, and again when one has arrived. -/
structure Readings where
  asked : Moment
  arrived : Moment
  deriving DecidableEq

namespace Readings

def still (now : Moment) : Readings := ⟨now, now⟩

end Readings
end ReviewDesk
