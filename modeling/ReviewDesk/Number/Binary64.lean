import ReviewDesk.Number.Power
import ReviewDesk.Number.Rounding

/-!
# Binary numbers of sixty-four bits

Numbers with a fraction reach this library as binary numbers of sixty-four bits:
a sign, a mantissa of at most fifty-three bits and a power of two.  They are kept
in that form and not as machine numbers, so that rounding, comparison and
printing are exact arithmetic on integers.
-/

namespace ReviewDesk

/-- A finite number is `± mantissa * 2 ^ exponent`. -/
inductive Binary64 where
  | nan
  | infinite (negative : Bool)
  | finite (negative : Bool) (mantissa : Nat) (exponent : Int)
  deriving DecidableEq

namespace Binary64

/-!
# The format

The exponent is never below `minExponent`.  Above it the mantissa has all its
bits, so every number has one form.
-/

def precision : Nat := 53
def minExponent : Int := -1074
def maxExponent : Int := 971

def zero (negative : Bool) : Binary64 :=
  finite negative 0 minExponent

def isZero : Binary64 → Bool
  | finite _ m _ => m == 0
  | _ => false

def isNegative : Binary64 → Bool
  | finite negative m _ => negative && m != 0
  | infinite negative => negative
  | nan => false

/-!
# Rounding to nearest

`exponentFor` is the exponent at which the quotient has a mantissa of fifty-three
bits, or the least one.  A mantissa that rounds up to one bit more is halved.
-/

def exponentFor (n d : Nat) : Int :=
  let k : Int := (Nat.log2 n : Int) - Nat.log2 d
  let reached := d * twoPow k.toNat ≤ n * twoPow (-k).toNat
  max minExponent ((if reached then k else k - 1) - (precision - 1))

def ofMantissa (negative : Bool) (m : Nat) (e : Int) : Binary64 :=
  let carried := m == twoPow precision
  let e' := if carried then e + 1 else e
  if maxExponent < e' then infinite negative
  else finite negative (if carried then twoPow (precision - 1) else m) e'

def nearest (negative : Bool) (n d : Nat) : Binary64 :=
  if n = 0 then zero negative
  else
    let e := exponentFor n d
    ofMantissa negative
      (Rounding.halfEven.quotient (n * twoPow (-e).toNat) (d * twoPow e.toNat)) e

/-- The number nearest to `± coefficient * 10 ^ exponent`.  Powers far outside the
format are decided by the number of digits alone. -/
def ofScientific (negative : Bool) (coefficient : Nat) (exponent : Int) : Binary64 :=
  let magnitude := (digitCount coefficient : Int) + exponent
  if coefficient = 0 || magnitude < -330 then zero negative
  else if 320 < magnitude then infinite negative
  else nearest negative (coefficient * tenPow exponent.toNat) (tenPow (-exponent).toNat)

/-!
# Arithmetic and order

A finite number is an integer over a power of two.  Sums are exact before they are
rounded, and comparisons with integers are exact.
-/

def numerator (negative : Bool) (m : Nat) (e : Int) : Int :=
  let n : Int := m * twoPow e.toNat
  if negative then -n else n

/-- The exact value of `± m * 2 ^ e` times `2 ^ 1074`, an integer. -/
def scaled (negative : Bool) (m : Nat) (e : Int) : Int :=
  numerator negative m (e - minExponent)

def ofScaled (n : Int) : Binary64 :=
  nearest (decide (n < 0)) n.natAbs (twoPow (-minExponent).toNat)

def neg : Binary64 → Binary64
  | nan => nan
  | infinite negative => infinite (!negative)
  | finite negative m e => finite (!negative) m e

def add : Binary64 → Binary64 → Binary64
  | nan, _ => nan
  | _, nan => nan
  | infinite s, infinite t => if s = t then infinite s else nan
  | infinite s, finite _ _ _ => infinite s
  | finite _ _ _, infinite t => infinite t
  | finite s m e, finite t n f =>
      if m = 0 && n = 0 then zero (s && t)
      else ofScaled (scaled s m e + scaled t n f)

def sub (x y : Binary64) : Binary64 :=
  x.add y.neg

def ltInt (x : Binary64) (n : Int) : Bool :=
  match x with
  | nan => false
  | infinite negative => negative
  | finite s m e => scaled s m e < n * twoPow (-minExponent).toNat

def truncate? : Binary64 → Option Int
  | finite s m e =>
      let n : Int := (m * twoPow e.toNat) / twoPow (-e).toNat
      some (if s then -n else n)
  | _ => none

end Binary64
end ReviewDesk
