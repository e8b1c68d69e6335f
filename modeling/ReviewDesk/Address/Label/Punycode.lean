/-!
# Names in ASCII alone

A name with other characters is written in ASCII as its ASCII characters, a hyphen, and a
row of digits to the base thirty-six that says which other characters go where: for each,
how many steps of going through all places, and of counting up the character after the
last place, lie between it and the one before.
-/

namespace ReviewDesk
namespace Punycode

def base : Nat := 36

/-!
# Digits
-/

def digitChar (d : Nat) : Char :=
  if d < 26 then Char.ofNat ('a'.toNat + d) else Char.ofNat ('0'.toNat + (d - 26))

def digitValue? (c : Char) : Option Nat :=
  if 'a' ≤ c && c ≤ 'z' then some (c.toNat - 'a'.toNat)
  else if '0' ≤ c && c ≤ '9' then some (c.toNat - '0'.toNat + 26)
  else none

def threshold (place bias : Nat) : Nat :=
  min 26 (max 1 (base * (place + 1) - bias))

theorem threshold_pos (place bias : Nat) : 0 < threshold place bias := by
  unfold threshold
  omega

theorem threshold_le (place bias : Nat) : threshold place bias ≤ 26 := by
  unfold threshold
  omega

def numberChars (place bias n : Nat) : List Char :=
  let t := threshold place bias
  if n < t then [digitChar n]
  else digitChar (t + (n - t) % (base - t)) :: numberChars (place + 1) bias ((n - t) / (base - t))
termination_by n
decreasing_by
  have := threshold_pos place bias
  have := threshold_le place bias
  have : (n - threshold place bias) / (base - threshold place bias) ≤ n - threshold place bias :=
    Nat.div_le_self _ _
  omega

/-- The number at the head of a row of digits, and what follows it; `weight` is what the
next digit counts. -/
def numberFrom? (bias : Nat) : Nat → Nat → List Char → Option (Nat × List Char)
  | _, _, [] => none
  | place, weight, c :: cs =>
      match digitValue? c with
      | none => none
      | some d =>
          let t := threshold place bias
          if d < t then some (d * weight, cs)
          else (numberFrom? bias (place + 1) (weight * (base - t)) cs).map
            fun (n, rest) => (d * weight + n, rest)

/-!
# The bias

It follows the size of the numbers, so that they need few digits.
-/

def firstBias : Nat := 72

def reduce (delta divisions : Nat) : Nat × Nat :=
  if 455 < delta then reduce (delta / 35) (divisions + base) else (delta, divisions)
termination_by delta
decreasing_by omega

def adapted (delta : Nat) (isFirst : Bool) (count : Nat) : Nat :=
  let delta := if isFirst then delta / 700 else delta / 2
  let (delta, divisions) := reduce (delta + delta / count) 0
  divisions + base * delta / (delta + 38)

/-!
# Writing
-/

def isBasic (c : Char) : Bool :=
  c.toNat < 0x80

/-- Where writing has got to: the digits from the last one on, the steps since the last
character that was put in, the bias, and the number of characters in place. -/
structure Writing where
  digits : List Char
  steps : Nat
  bias : Nat
  placed : Nat
  isFirst : Bool

def Writing.pass (n : Nat) (w : Writing) (c : Char) : Writing :=
  if c.toNat < n then { w with steps := w.steps + 1 }
  else if c.toNat = n then
    { digits := (numberChars 0 w.bias w.steps).reverse ++ w.digits
      steps := 0
      bias := adapted w.steps w.isFirst (w.placed + 1)
      placed := w.placed + 1
      isFirst := false }
  else w

def Writing.passAll (cs : List Char) : Nat → List Nat → Writing → Writing
  | _, [], w => w
  | next, n :: rest, w =>
      let w := { w with steps := w.steps + (n - next) * (w.placed + 1) }
      let w := cs.foldl (Writing.pass n) w
      Writing.passAll cs (n + 1) rest { w with steps := w.steps + 1 }

def others (cs : List Char) : List Nat :=
  (((cs.filter (!isBasic ·)).map Char.toNat).mergeSort (· ≤ ·)).eraseDups

def encode (cs : List Char) : List Char :=
  let basic := cs.filter isBasic
  let w := Writing.passAll cs 0x80 (others cs) ⟨[], 0, firstBias, basic.length, true⟩
  basic ++ (if basic.isEmpty then [] else ['-']) ++ w.digits.reverse

/-!
# Reading
-/

def maxChar : Nat := 0x10FFFF

/-- Puts in one character after the other; `n` is the last one, and `place` the place
after it.  Each step uses up at least one digit. -/
def insertFrom? : Nat → Nat → Nat → Nat → Bool → List Char → List Char → Option (List Char)
  | 0, _, _, _, _, _, cs => some cs
  | _, _, _, _, _, [], cs => some cs
  | fuel + 1, n, place, bias, isFirst, digits, cs => do
      let (delta, rest) ← numberFrom? bias 0 1 digits
      let place := place + delta
      let count := cs.length + 1
      let n := n + place / count
      let place := place % count
      if maxChar < n then none
      insertFrom? fuel n (place + 1) (adapted delta isFirst count) false rest
        (cs.take place ++ Char.ofNat n :: cs.drop place)

def split (cs : List Char) : List Char × List Char :=
  let after := (cs.reverse.takeWhile (· != '-')).reverse
  ((cs.take (cs.length - after.length)).dropLast, after)

def decode? (cs : List Char) : Option (List Char) :=
  let (basic, digits) := split cs
  insertFrom? digits.length 0x80 0 firstBias true digits basic

end Punycode
end ReviewDesk
