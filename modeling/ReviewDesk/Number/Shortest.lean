import ReviewDesk.Number.Binary64

/-!
# Writing binary numbers in decimal

Three ways to write a binary number of sixty-four bits: with the fewest digits
that read back as the same number, with a fixed number of significant digits, and
with a fixed number of decimal places.
-/

namespace ReviewDesk

structure Scientific where
  coefficient : Nat
  exponent : Int
  deriving DecidableEq

namespace Scientific

def dropZeros (x : Scientific) : Scientific :=
  go (digitCount x.coefficient) x
where
  go : Nat → Scientific → Scientific
    | 0, x => x
    | fuel + 1, x =>
        if x.coefficient ≠ 0 && x.coefficient % 10 = 0 then
          go fuel ⟨x.coefficient / 10, x.exponent + 1⟩
        else x

def magnitude (x : Scientific) : Int :=
  x.exponent + (digitCount x.coefficient : Int) - 1

end Scientific

namespace Binary64

/-!
# Decimal digits of a positive quotient

`n / d` lies between two neighbours on the grid whose step is a power of ten.
-/

def decimalMagnitude (n d : Nat) : Int :=
  let k : Int := (digitCount n : Int) - digitCount d
  if d * tenPow k.toNat ≤ n * tenPow (-k).toNat then k else k - 1

def onGrid (n d : Nat) (step : Int) : Nat × Nat :=
  (n * tenPow (-step).toNat, d * tenPow step.toNat)

/-- The neighbour of `n / d` on the grid that reads back as `x`, the nearer one if
both do. -/
def neighbour? (x : Binary64) (n d : Nat) (step : Int) : Option Scientific :=
  let (a, b) := onGrid n d step
  let below : Scientific := ⟨a / b, step⟩
  let above : Scientific := ⟨a / b + 1, step⟩
  let readsBack (y : Scientific) : Bool := ofScientific false y.coefficient y.exponent == x
  let nearerBelow := Rounding.halfEven.quotient a b == a / b
  let (first, second) := if nearerBelow then (below, above) else (above, below)
  if readsBack first then some first
  else if readsBack second then some second
  else none

def maxDigits : Nat := 17

/-- The shortest decimal that reads back as `m * 2 ^ e`, for positive `m`. -/
def shortest (m : Nat) (e : Int) : Scientific :=
  let n := m * twoPow e.toNat
  let d := twoPow (-e).toNat
  let top := decimalMagnitude n d
  let found := (List.range maxDigits).findSome? fun (i : Nat) =>
    neighbour? (finite false m e) n d (top - i)
  (found.getD ⟨0, 0⟩).dropZeros

def significant (mode : Rounding) (digits m : Nat) (e : Int) : Scientific :=
  let n := m * twoPow e.toNat
  let d := twoPow (-e).toNat
  let step := decimalMagnitude n d - (digits - 1)
  let (a, b) := onGrid n d step
  Scientific.dropZeros ⟨mode.quotient a b, step⟩

/-!
# Layout

A number is written positionally when its magnitude is inside a window, and with
an exponent of at least two digits otherwise.
-/

structure Layout where
  /-- The least magnitude that is written positionally. -/
  low : Int
  /-- The first magnitude that is not. -/
  high : Int
  /-- Whether a mantissa of one digit before an exponent keeps its `.0`. -/
  pointedMantissa : Bool
  /-- The texts of the two kinds of numbers that are not finite. -/
  notANumber : String
  infinity : String

def digitsText (n : Nat) : List Char :=
  Nat.toDigits 10 n

def zeros (n : Nat) : List Char :=
  List.replicate n '0'

def twoDigits (n : Nat) : List Char :=
  (if n < 10 then ['0'] else []) ++ digitsText n

def positional (x : Scientific) : List Char :=
  let ds := digitsText x.coefficient
  let point : Int := ds.length + x.exponent
  if point ≤ 0 then '0' :: '.' :: (zeros (-point).toNat ++ ds)
  else if ds.length ≤ point.toNat then ds ++ zeros x.exponent.toNat ++ ['.', '0']
  else ds.take point.toNat ++ '.' :: ds.drop point.toNat

def exponential (pointed : Bool) (x : Scientific) : List Char :=
  let mantissa :=
    match digitsText x.coefficient with
    | [] => []
    | [d] => if pointed then [d, '.', '0'] else [d]
    | d :: ds => d :: '.' :: ds
  let sign := if x.magnitude < 0 then '-' else '+'
  mantissa ++ 'e' :: sign :: twoDigits x.magnitude.natAbs

def Layout.place (l : Layout) (negative : Bool) (x : Scientific) : String :=
  let body :=
    if l.low ≤ x.magnitude && x.magnitude < l.high then positional x
    else exponential l.pointedMantissa x
  String.ofList (if negative then '-' :: body else body)

def Layout.write (l : Layout) (digits : Nat → Int → Scientific) : Binary64 → String
  | .nan => l.notANumber
  | .infinite negative => (if negative then "-" else "") ++ l.infinity
  | .finite negative m e =>
      if m = 0 then (if negative then "-0.0" else "0.0")
      else l.place negative (digits m e)

def text : Binary64 → String :=
  Layout.write ⟨-4, 16, false, "nan", "inf"⟩ shortest

def jsonText : Binary64 → String :=
  Layout.write ⟨-4, 16, false, "NaN", "Infinity"⟩ shortest

/-!
# Fixed places
-/

/-- The magnitude of a finite number in units of `10 ^ -places`, rounded to the
nearest unit with ties to even. -/
def units (places m : Nat) (e : Int) : Nat :=
  Rounding.halfEven.quotient (m * twoPow e.toNat * tenPow places) (twoPow (-e).toNat)

end Binary64
end ReviewDesk
