import ReviewDesk.Number.Rounding
import ReviewDesk.Text.Blank
import ReviewDesk.Text.Digit

/-!
# Reading and writing whole numbers

A whole number is written with an optional sign and digits of any script; single
underscores may stand between digits, and blank ends are ignored, unless they are
information separators.  The number of digits is limited in both directions.
-/

namespace ReviewDesk
namespace Integer

open Text

def isDigit (c : Char) : Bool :=
  '0' ≤ c && c ≤ '9'

/-- The digits of a numeral without its underscores; `afterDigit` tells whether the
character before the text was a digit. -/
def digits? : Bool → List Char → Option (List Char)
  | afterDigit, [] => if afterDigit then some [] else none
  | afterDigit, c :: cs =>
      if isDigit c then (digits? true cs).map (c :: ·)
      else if c = '_' && afterDigit then digits? false cs
      else none

def maxDigits : Nat := 4300

def value? (ds : List Char) : Option Nat :=
  if maxDigits < ds.length then none else some (Nat.ofDigitChars 10 ds 0)

def unsigned? (cs : List Char) : Option Nat :=
  (digits? false cs).bind value?

def signed? : List Char → Option Int
  | '-' :: cs => (unsigned? cs).map fun n => -(n : Int)
  | '+' :: cs => (unsigned? cs).map Int.ofNat
  | cs => (unsigned? cs).map Int.ofNat

def isWritable (n : Int) : Bool :=
  digitCount n.natAbs ≤ maxDigits

def read? (s : String) : Option Int :=
  signed? (asciiDigits (trim isWhiteSpace s.toList))

end Integer
end ReviewDesk
