import ReviewDesk.Decimal.Basic
import ReviewDesk.Text.Blank
import ReviewDesk.Text.Digit

/-!
# Reading decimal numbers

A decimal number is read exactly, whatever its length.  Blank ends and underscores
are ignored and the digits of every script are understood.  What is left must be a
signed numeral with an optional point and an optional power of ten, or the name of
an infinity or of a value that stands for no number.
-/

namespace ReviewDesk
namespace Decimal

open Text

/-!
# Characters of a numeral
-/

def isDigit (c : Char) : Bool :=
  '0' ≤ c && c ≤ '9'

def plainChar? (c : Char) : Option Char :=
  if c.toNat = 0 then none
  else if c.toNat < 128 then some c
  else if isBlank c then some ' '
  else (digitValue? c).map Nat.digitChar

def plain? (s : String) : Option (List Char) :=
  ((trim isBlank s.toList).filter (· != '_')).mapM plainChar?

def splitSign : List Char → Bool × List Char
  | '-' :: cs => (true, cs)
  | '+' :: cs => (false, cs)
  | cs => (false, cs)

def value (digits : List Char) : Nat :=
  Nat.ofDigitChars 10 digits 0

def allDigits? (cs : List Char) : Option Nat :=
  if cs ≠ [] && cs.all isDigit then some (value cs) else none

/-!
# Names
-/

def lowerAscii (cs : List Char) : List Char :=
  cs.map Char.toLower

def named? (negative : Bool) (cs : List Char) : Option Decimal :=
  let payload (rest : List Char) : Option Nat :=
    if rest.all isDigit then some (value rest) else none
  match lowerAscii cs with
  | ['i', 'n', 'f'] => some (infinite negative)
  | ['i', 'n', 'f', 'i', 'n', 'i', 't', 'y'] => some (infinite negative)
  | 'n' :: 'a' :: 'n' :: rest => (payload rest).map (nan negative false)
  | 's' :: 'n' :: 'a' :: 'n' :: rest => (payload rest).map (nan negative true)
  | _ => none

/-!
# Numerals

The exact form has bounds of its own, far outside the working range: beyond them a
numeral is not read.
-/

def maxWritten : Int := 999999999999999999
def minWritten : Int := -1999999999999999997

def inWrittenRange (coefficient : Nat) (exponent : Int) : Bool :=
  minWritten ≤ exponent &&
    (if coefficient = 0 then exponent ≤ maxWritten
     else magnitude coefficient exponent ≤ maxWritten)

def exponent? : List Char → Option Int
  | [] => some 0
  | c :: cs =>
      if c = 'e' || c = 'E' then
        let (negative, digits) := splitSign cs
        (allDigits? digits).map fun n => if negative then -(n : Int) else n
      else none

def numeral? (negative : Bool) (cs : List Char) : Option Decimal := do
  let whole := cs.takeWhile isDigit
  let rest := cs.dropWhile isDigit
  let (fraction, rest) :=
    match rest with
    | '.' :: more => (more.takeWhile isDigit, more.dropWhile isDigit)
    | _ => ([], rest)
  if whole.isEmpty && fraction.isEmpty then none
  let e ← exponent? rest
  let c := value (whole ++ fraction)
  let e := e - fraction.length
  if inWrittenRange c e then some (finite negative c e) else none

def read? (s : String) : Option Decimal := do
  let cs ← plain? s
  let (negative, body) := splitSign cs
  (named? negative body).orElse fun _ => numeral? negative body

end Decimal
end ReviewDesk
