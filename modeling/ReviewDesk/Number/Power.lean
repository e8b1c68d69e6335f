/-!
# Powers of two and of ten

The two bases of the numbers in this library.
-/

namespace ReviewDesk

def twoPow (k : Nat) : Nat :=
  Nat.pow 2 k

def tenPow (k : Nat) : Nat :=
  Nat.pow 10 k

theorem twoPow_pos (k : Nat) : 0 < twoPow k :=
  Nat.pow_pos (by decide)

theorem tenPow_zero : tenPow 0 = 1 :=
  rfl

theorem tenPow_succ (k : Nat) : tenPow (k + 1) = tenPow k * 10 :=
  rfl

theorem tenPow_pos (k : Nat) : 0 < tenPow k :=
  Nat.pow_pos (by decide)

theorem tenPow_add (j k : Nat) : tenPow (j + k) = tenPow j * tenPow k :=
  Nat.pow_add 10 j k

end ReviewDesk
