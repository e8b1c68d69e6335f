import ReviewDesk.Decimal.Arithmetic

/-!
# Grouped amounts

Amounts are shown with their integer digits in groups of three.
-/

namespace ReviewDesk
namespace Decimal

/-!
# Groups of three from the right
-/

def groupReversed : List Char → List Char
  | a :: b :: c :: d :: rest => a :: b :: c :: ',' :: groupReversed (d :: rest)
  | short => short

def grouped (n : Nat) : List Char :=
  (groupReversed (Nat.toDigits 10 n).reverse).reverse

def padded (places n : Nat) : List Char :=
  let ds := Nat.toDigits 10 n
  List.replicate (places - ds.length) '0' ++ ds

/-!
# Amounts with a fixed number of places
-/

def unitsOf (mode : Rounding) (places coefficient : Nat) (exponent : Int) : Nat :=
  let shift := exponent + places
  if coefficient = 0 then 0
  else if 0 ≤ shift then coefficient * tenPow shift.toNat
  else dropDigits mode coefficient (-shift).toNat

def fixed (places units : Nat) : List Char :=
  grouped (units / tenPow places) ++ '.' :: padded places (units % tenPow places)

/-- Grouped digits with a fixed number of places; halves go to even, and values
that are not finite keep their names. -/
def groupedText (places : Nat) : Decimal → List Char
  | finite negative c e => signText negative ++ fixed places (unitsOf .halfEven places c e)
  | x => x.chars

def groupedInt (n : Int) : List Char :=
  signText (decide (n < 0)) ++ grouped n.natAbs

end Decimal
end ReviewDesk
