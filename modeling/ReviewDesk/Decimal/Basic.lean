import ReviewDesk.Number.Rounding

/-!
# Decimal numbers

Prices, rates and amounts of money are decimal numbers: a sign, a coefficient and a
power of ten.  The coefficient and the power are kept as written, so `1.50` and
`1.5` are different values of the type that denote the same number.  Besides the
finite numbers there are two infinities and numbers that stand for no number.
-/

namespace ReviewDesk

inductive Decimal where
  | finite (negative : Bool) (coefficient : Nat) (exponent : Int)
  | infinite (negative : Bool)
  | nan (negative signaling : Bool) (payload : Nat)
  deriving DecidableEq

namespace Decimal

inductive Trap where
  | invalid
  | overflow
  deriving DecidableEq

def ofNat (n : Nat) : Decimal :=
  finite false n 0

def ofInt (n : Int) : Decimal :=
  finite (decide (n < 0)) n.natAbs 0

def ofUnits (places n : Nat) : Decimal :=
  finite false n (-places)

def isFinite : Decimal → Bool
  | finite _ _ _ => true
  | _ => false

def isPositive : Decimal → Bool
  | finite negative c _ => !negative && c != 0
  | infinite negative => !negative
  | nan _ _ _ => false

/-- Comparison with zero, which a signaling value refuses. -/
def isZero? : Decimal → Except Trap Bool
  | finite _ c _ => .ok (c == 0)
  | infinite _ => .ok false
  | nan _ signaling _ => if signaling then .error .invalid else .ok false

def magnitude (coefficient : Nat) (exponent : Int) : Int :=
  exponent + (digitCount coefficient : Int) - 1

/-!
# Text

A number is written without an exponent when the exponent is not positive and the
number is not below one millionth of its first digit's place; otherwise it is
written with one digit before the point.
-/

def signText (negative : Bool) : List Char :=
  if negative then ['-'] else []

def payloadText (payload : Nat) : List Char :=
  if payload = 0 then [] else Nat.toDigits 10 payload

def exponentText (e : Int) : List Char :=
  'E' :: (if e < 0 then '-' else '+') :: Nat.toDigits 10 e.natAbs

def finiteText (coefficient : Nat) (exponent : Int) : List Char :=
  let ds := Nat.toDigits 10 coefficient
  let point : Int := ds.length + exponent
  if exponent ≤ 0 && -6 < point then
    if point ≤ 0 then '0' :: '.' :: (List.replicate (-point).toNat '0' ++ ds)
    else if exponent = 0 then ds
    else ds.take point.toNat ++ '.' :: ds.drop point.toNat
  else
    let mantissa :=
      match ds with
      | d :: e :: rest => d :: '.' :: e :: rest
      | short => short
    mantissa ++ (if point = 1 then [] else exponentText (point - 1))

def chars : Decimal → List Char
  | finite negative c e => signText negative ++ finiteText c e
  | infinite negative => signText negative ++ "Infinity".toList
  | nan negative signaling payload =>
      signText negative ++ (if signaling then "sNaN" else "NaN").toList ++ payloadText payload

def text (x : Decimal) : String :=
  String.ofList x.chars

end Decimal
end ReviewDesk
