/-!
# Rounding a quotient

Money and measured times are rounded to whole units in two ways: halves to the
even neighbour, and halves away from zero.  Both are stated on quotients of
natural numbers, so that every caller rounds exactly.
-/

namespace ReviewDesk

inductive Rounding where
  | halfEven
  | halfUp
  deriving DecidableEq

namespace Rounding

/-!
# The rounded quotient

The quotient is rounded down, and goes up by one when the remainder is more than
half of the divisor, or is exactly half and the mode says so.
-/

def roundsUp (mode : Rounding) (quotient remainder divisor : Nat) : Bool :=
  if 2 * remainder < divisor then false
  else if divisor < 2 * remainder then true
  else
    match mode with
    | halfEven => quotient % 2 == 1
    | halfUp => true

def quotient (mode : Rounding) (n d : Nat) : Nat :=
  n / d + if mode.roundsUp (n / d) (n % d) d then 1 else 0

theorem le_quotient (mode : Rounding) (n d : Nat) : n / d ≤ mode.quotient n d :=
  Nat.le_add_right _ _

theorem quotient_le (mode : Rounding) (n d : Nat) : mode.quotient n d ≤ n / d + 1 := by
  unfold quotient
  split <;> omega

theorem quotient_of_dvd (mode : Rounding) {n d : Nat} (hd : 0 < d) (h : d ∣ n) :
    mode.quotient n d = n / d := by
  simp [quotient, roundsUp, Nat.mod_eq_zero_of_dvd h, hd]

end Rounding

/-!
# Counting decimal digits
-/

def digitCount (n : Nat) : Nat :=
  (Nat.toDigits 10 n).length

theorem digitCount_pos (n : Nat) : 0 < digitCount n :=
  Nat.length_toDigits_pos

end ReviewDesk
