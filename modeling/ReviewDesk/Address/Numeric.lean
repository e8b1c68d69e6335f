import ReviewDesk.Address.Path
import ReviewDesk.Text.Percent

/-!
# Numeric hosts

A host may be given by its number: four decimal numbers up to 255 with dots between them,
or up to eight hexadecimal ones of four digits with colons between them, some of which
may be left out in one place when they are zero.
-/

namespace ReviewDesk
namespace Address

open Text

def isDigit (c : Char) : Bool :=
  '0' ≤ c && c ≤ '9'

/-!
# Four numbers
-/

def isOctet (cs : List Char) : Bool :=
  !cs.isEmpty && cs.all isDigit && cs.length ≤ 3 && (cs.head? != some '0' || cs == ['0']) &&
    Nat.ofDigitChars 10 cs 0 ≤ 255

def isFourNumbers (cs : List Char) : Bool :=
  let octets := splitAt '.' cs
  octets.length == 4 && octets.all isOctet

def runLengths : List Char → List Nat
  | [] => [0]
  | c :: cs =>
      match runLengths cs with
      | [] => [1]
      | n :: rest => if isDigit c then (n + 1) :: rest else 0 :: n :: rest

/-- Whether a host could pass for four numbers with some character between each two, even
if that is a digit itself: each run of digits that are not at its ends gives away one
character in two.  Such a host has to be numeric. -/
def resemblesFourNumbers (cs : List Char) : Bool :=
  let runs := runLengths cs
  runs.all (0 < ·) && runs.length ≤ 4 &&
    4 ≤ runs.foldl (fun total n => total + (n - 1) / 2) runs.length

/-!
# Eight numbers
-/

def isHextet (cs : List Char) : Bool :=
  !cs.isEmpty && cs.length ≤ 4 && cs.all fun c => (hexValue? c).isSome

/-- The parts between colons, with four numbers at the end counting as two parts. -/
def hextets? (cs : List Char) : Option (List (List Char)) :=
  let parts := splitAt ':' cs
  if parts.length < 3 then none
  else
    match parts.reverse with
    | last :: rest =>
        if last.contains '.' then
          if isFourNumbers last then some (rest.reverse ++ [['0'], ['0']]) else none
        else some parts
    | [] => none

def splitEmpty : List (List Char) → Option (List (List Char) × List (List Char))
  | [] => none
  | [] :: rest => some ([], rest)
  | part :: rest => (splitEmpty rest).map fun (before, after) => (part :: before, after)

def dropEmptyEnd : List (List Char) → List (List Char)
  | [[]] => []
  | parts => parts

def isEightNumbers (cs : List Char) : Bool :=
  match hextets? cs with
  | none => false
  | some parts =>
      match parts with
      | [] :: [] :: rest =>
          let after := dropEmptyEnd rest
          after.length < 8 && after.all isHextet
      | parts =>
          match splitEmpty parts with
          | none => parts.length == 8 && parts.all isHextet
          | some (before, after) =>
              let after' := dropEmptyEnd after
              !before.isEmpty && !after.isEmpty &&
                before.length + after'.length < 8 && before.all isHextet && after'.all isHextet

def isZoned (cs : List Char) : Bool :=
  match cs.dropWhile (· != '%') with
  | [] => isEightNumbers cs
  | _ :: zone =>
      !zone.isEmpty && !zone.contains '%' && isEightNumbers (cs.takeWhile (· != '%'))

def isBracketedNumber (cs : List Char) : Bool :=
  !cs.contains '/' && isZoned cs

end Address
end ReviewDesk
