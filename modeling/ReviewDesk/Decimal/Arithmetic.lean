import ReviewDesk.Decimal.Basic
import ReviewDesk.Number.Power

/-!
# Arithmetic on decimal numbers

Sums and products are exact first and then settled: rounded to twenty-eight
digits, halves to even, and checked against the range of exponents.
-/

namespace ReviewDesk
namespace Decimal

/-!
# The working range
-/

def precision : Nat := 28
def maxMagnitude : Int := 999999
def minExponent : Int := -1000026

/-!
# Dropping digits

`dropDigits mode n k` rounds `n / 10 ^ k`.  A shift past the last digit leaves
nothing to round up, so no large power is ever formed.
-/

def dropDigits (mode : Rounding) (n k : Nat) : Nat :=
  if digitCount n < k then 0 else mode.quotient n (tenPow k)

/-- Rounds a finite result into the working range. -/
def settle (negative : Bool) (coefficient : Nat) (exponent : Int) : Except Trap Decimal :=
  if coefficient = 0 then
    .ok (finite negative 0 (max minExponent (min exponent maxMagnitude)))
  else
    let excess : Int := (digitCount coefficient : Int) - precision
    let drop := (max excess (minExponent - exponent)).toNat
    let c := dropDigits .halfEven coefficient drop
    let e := exponent + drop
    let carried := precision < digitCount c
    let c' := if carried then c / 10 else c
    let e' := if carried then e + 1 else e
    if maxMagnitude < magnitude c' e' then .error .overflow
    else .ok (finite negative c' e')

/-!
# Values that stand for no number

They pass through an operation with their sign; only the last digits of a long
payload fit.  A signaling one ends the operation.
-/

def passNan (negative signaling : Bool) (payload : Nat) : Except Trap Decimal :=
  if signaling then .error .invalid else .ok (nan negative false (payload % tenPow precision))

def passNans : Decimal → Decimal → Option (Except Trap Decimal)
  | nan _ true _, _ => some (.error .invalid)
  | _, nan _ true _ => some (.error .invalid)
  | nan s false p, _ => some (passNan s false p)
  | _, nan s false p => some (passNan s false p)
  | _, _ => none

/-!
# Products and sums
-/

def mul (x y : Decimal) : Except Trap Decimal :=
  match passNans x y with
  | some r => r
  | none =>
    match x, y with
    | finite s c e, finite t d f => settle (s != t) (c * d) (e + f)
    | infinite s, infinite t => .ok (infinite (s != t))
    | infinite s, finite t d _ => if d = 0 then .error .invalid else .ok (infinite (s != t))
    | finite s c _, infinite t => if c = 0 then .error .invalid else .ok (infinite (s != t))
    | _, _ => .error .invalid

def signed (negative : Bool) (n : Nat) : Int :=
  if negative then -n else n

def add (x y : Decimal) : Except Trap Decimal :=
  match passNans x y with
  | some r => r
  | none =>
    match x, y with
    | finite s c e, finite t d f =>
        let low := min e f
        let total :=
          signed s c * tenPow (e - low).toNat + signed t d * tenPow (f - low).toNat
        settle (if total = 0 then s && t else decide (total < 0)) total.natAbs low
    | infinite s, infinite t => if s = t then .ok (infinite s) else .error .invalid
    | infinite s, finite _ _ _ => .ok (infinite s)
    | finite _ _ _, infinite t => .ok (infinite t)
    | _, _ => .error .invalid

def shiftDown (places : Nat) (x : Decimal) : Except Trap Decimal :=
  match x with
  | finite s c e => settle s c (e - places)
  | infinite s => .ok (infinite s)
  | nan s signaling p => passNan s signaling p

/-!
# Fixed places

`quantize` brings a number to a fixed number of places.  It fails when the result
would have more than twenty-eight digits, so that a long amount is never cut in
silence.
-/

def quantize (mode : Rounding) (places : Nat) : Decimal → Except Trap Decimal
  | finite s c e =>
      let shift := e + places
      if c = 0 then .ok (finite s 0 (-places))
      else if precision < (digitCount c : Int) + shift then .error .invalid
      else
        let n := if 0 ≤ shift then c * tenPow shift.toNat else dropDigits mode c (-shift).toNat
        if precision < digitCount n then .error .invalid else .ok (finite s n (-places))
  | infinite _ => .error .invalid
  | nan s signaling p => passNan s signaling p

end Decimal
end ReviewDesk
