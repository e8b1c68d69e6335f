import ReviewDesk.FieldFault
import ReviewDesk.Json.Reader
import ReviewDesk.Number.Integer
import ReviewDesk.Number.Binary64
import ReviewDesk.Text.Case

/-!
# Values of settings

A setting is given as a text.  This module reads whole numbers, binary numbers,
truth values and lists of texts from it.
-/

namespace ReviewDesk
namespace SettingValue

open Text

/-!
# Whole numbers

The standard form is a sign, if the number is negative, and digits without leading zeros.
Other forms are brought into it first: blank ends, a plus sign, leading zeros, decimal
places that are all zeros and single underscores are taken out.
-/

def maxNumeralLength : Nat := 4300

def standardInteger (cs : List Char) : Except Expected Int :=
  let negative := cs.head? = some '-'
  let body := if negative then cs.drop 1 else cs
  let digits := body.takeWhile Integer.isDigit
  if digits.isEmpty || (digits.head? = some '0' && digits ≠ ['0']) then .error .integer
  else if maxNumeralLength < (cs.length - body.length) + digits.length then .error .shortInteger
  else if digits.length < body.length then .error .integer
  else
    let n : Int := Nat.ofDigitChars 10 digits 0
    .ok (if negative then -n else n)

/-- The text from its first character that is no leading zero; a sign may stand behind
zeros, and the last zero before a point is kept.  Of a row of zeros the last one is left. -/
def dropZerosFrom : Char → List Char → Option (List Char)
  | last, [] => some [last]
  | last, c :: cs =>
      if c = '0' || c = '_' then dropZerosFrom c cs
      else if c = '-' || Integer.isDigit c then some (c :: cs)
      else if c = '.' then some (last :: c :: cs)
      else none

def dropZeros? : List Char → Option (List Char)
  | '0' :: cs => dropZerosFrom '0' cs
  | c :: cs => if c = '-' || Integer.isDigit c then some (c :: cs) else none
  | [] => none

def dropZeroPlaces (cs : List Char) : List Char :=
  match cs.dropWhile (· != '.') with
  | '.' :: '0' :: places =>
      if places.all (· == '0') then cs.takeWhile (· != '.') else cs
  | _ => cs

def dropPlus? : List Char → Option (List Char)
  | '+' :: '-' :: _ => none
  | '+' :: cs => some cs
  | cs => some cs

def hasDoubleUnderscore : List Char → Bool
  | '_' :: '_' :: _ => true
  | _ :: cs => hasDoubleUnderscore cs
  | [] => false

def dropUnderscores? (cs : List Char) : Option (List Char) :=
  if cs.head? == some '_' || cs.getLast? == some '_' || hasDoubleUnderscore cs then none
  else some (cs.filter (· != '_'))

def standardForm? (cs : List Char) : Option (List Char) := do
  let body ← dropZeros? (← dropPlus? (trim isWhiteSpace cs))
  let body := dropZeroPlaces body
  return (dropUnderscores? body).getD body

def integer (s : String) : Except Expected Int :=
  match standardInteger s.toList with
  | .error .integer => (standardForm? s.toList).elim (.error .integer) standardInteger
  | result => result

/-!
# Binary numbers
-/

def splitSign : List Char → Bool × List Char
  | '-' :: cs => (true, cs)
  | '+' :: cs => (false, cs)
  | cs => (false, cs)

def power? : List Char → Option Int
  | [] => some 0
  | c :: cs =>
      if c = 'e' || c = 'E' then
        let (negative, ds) := splitSign cs
        if ds ≠ [] && ds.all Integer.isDigit then
          let n : Int := Nat.ofDigitChars 10 ds 0
          some (if negative then -n else n)
        else none
      else none

def numeral? (negative : Bool) (cs : List Char) : Option Binary64 := do
  let whole := cs.takeWhile Integer.isDigit
  let rest := cs.dropWhile Integer.isDigit
  let (places, rest) :=
    match rest with
    | '.' :: more => (more.takeWhile Integer.isDigit, more.dropWhile Integer.isDigit)
    | _ => ([], rest)
  if whole.isEmpty && places.isEmpty then none
  let e ← power? rest
  return .ofScientific negative (Nat.ofDigitChars 10 (whole ++ places) 0) (e - places.length)

def plainBinary? (cs : List Char) : Option Binary64 :=
  let (negative, body) := splitSign cs
  let name := String.ofList (body.map Char.toLower)
  if name = "inf" || name = "infinity" then some (.infinite negative)
  else if name = "nan" then some .nan
  else numeral? negative body

def binary? (s : String) : Option Binary64 :=
  (plainBinary? (trim isWhiteSpace s.toList)).orElse fun _ =>
    (dropUnderscores? s.toList).bind plainBinary?

def binary (s : String) : Except Expected Binary64 :=
  (binary? s).elim (.error .binary) .ok

/-!
# Truth values
-/

def trueWords : List String := ["1", "true", "yes", "on", "t", "y"]
def falseWords : List String := ["0", "false", "no", "off", "f", "n"]

def truth? (s : String) : Option Bool :=
  let word := String.ofList (s.toList.map Char.toLower)
  if trueWords.contains word then some true
  else if falseWords.contains word then some false
  else none

def truth (s : String) : Except Expected Bool :=
  (truth? s).elim (.error .truth) .ok

end SettingValue
end ReviewDesk
