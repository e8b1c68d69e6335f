import Mathlib.Tactic.Ring
import ReviewDesk.Number.Power
import ReviewDesk.Number.Rounding

/-!
# Numbers of digits

A number with `k` digits lies between two neighbouring powers of ten, so bounds on the
number and bounds on its digits are the same thing.
-/

namespace ReviewDesk

/-!
# Digits and bounds
-/

theorem tenPow_le {j k : Nat} (h : j ≤ k) : tenPow j ≤ tenPow k :=
  Nat.pow_le_pow_right (by decide) h

theorem digitCount_zero : digitCount 0 = 1 :=
  rfl

theorem digitCount_le_iff {n k : Nat} (hk : 0 < k) : digitCount n ≤ k ↔ n < tenPow k :=
  Nat.length_toDigits_le_iff (by decide) hk

theorem lt_tenPow_digitCount (n : Nat) : n < tenPow (digitCount n) :=
  (digitCount_le_iff (digitCount_pos n)).mp (Nat.le_refl _)

theorem lt_digitCount_iff {n k : Nat} (hk : 0 < k) : k < digitCount n ↔ tenPow k ≤ n := by
  rw [← Nat.not_le, digitCount_le_iff hk, Nat.not_lt]

theorem tenPow_le_of_digitCount {n k : Nat} (hn : n ≠ 0) (h : digitCount n = k + 1) :
    tenPow k ≤ n := by
  cases k with
  | zero => exact Nat.one_le_iff_ne_zero.mpr hn
  | succ k => exact (lt_digitCount_iff (Nat.succ_pos k)).mp (h ▸ Nat.lt_succ_self _)

theorem digitCount_eq {n k : Nat} (hlow : tenPow k ≤ n) (hhigh : n < tenPow (k + 1)) :
    digitCount n = k + 1 := by
  apply Nat.le_antisymm
  · exact (digitCount_le_iff (Nat.succ_pos k)).mpr hhigh
  · cases k with
    | zero => exact digitCount_pos n
    | succ k => exact (lt_digitCount_iff (Nat.succ_pos k)).mpr hlow

theorem digitCount_mul_tenPow {n : Nat} (hn : n ≠ 0) (k : Nat) :
    digitCount (n * tenPow k) = digitCount n + k := by
  obtain ⟨j, hj⟩ : ∃ j, digitCount n = j + 1 :=
    Nat.exists_eq_succ_of_ne_zero (Nat.ne_of_gt (digitCount_pos n))
  have hlow : tenPow (j + k) ≤ n * tenPow k := by
    rw [tenPow_add]
    exact Nat.mul_le_mul_right _ (tenPow_le_of_digitCount hn hj)
  have hhigh : n * tenPow k < tenPow (j + k + 1) := by
    rw [Nat.add_right_comm, tenPow_add, ← hj]
    exact Nat.mul_lt_mul_of_pos_right (lt_tenPow_digitCount n) (tenPow_pos k)
  rw [digitCount_eq hlow hhigh, hj]
  omega

namespace Rounding

/-!
# Rounded quotients
-/

theorem quotient_le_of_lt (mode : Rounding) {n d bound : Nat} (h : n < bound * d) :
    mode.quotient n d ≤ bound := by
  have hdiv : n / d < bound := Nat.div_lt_of_lt_mul (by rwa [Nat.mul_comm])
  exact Nat.le_trans (mode.quotient_le n d) hdiv

theorem roundsUp_halfEven_of_odd {q r d : Nat} (hq : q % 2 = 1) :
    halfEven.roundsUp q r d = decide (d ≤ 2 * r) := by
  unfold roundsUp
  split
  · rename_i hbelow
    exact (decide_eq_false (Nat.not_le.mpr hbelow)).symm
  · rename_i hbelow
    rw [decide_eq_true (Nat.not_lt.mp hbelow)]
    split
    · rfl
    · simp [hq]

theorem quotient_halfEven_lt_iff {n d bound : Nat} (hbound : bound % 2 = 0)
    (h : n < bound * d) : halfEven.quotient n d < bound ↔ 2 * n + d < 2 * (bound * d) := by
  have hdiv : n / d < bound := Nat.div_lt_of_lt_mul (by rwa [Nat.mul_comm])
  have hd : 0 < d := Nat.pos_of_lt_mul_left h
  have hn : d * (n / d) + n % d = n := Nat.div_add_mod n d
  have hrest : n % d < d := Nat.mod_lt n hd
  obtain ⟨j, hj⟩ : ∃ j, bound = n / d + 1 + j := ⟨bound - (n / d + 1), by omega⟩
  have hproduct : bound * d = d * (n / d) + d + j * d := by
    rw [hj]
    ring
  cases j with
  | zero =>
      have hodd : n / d % 2 = 1 := by omega
      have hquotient : halfEven.quotient n d < bound ↔ 2 * (n % d) < d := by
        rw [quotient, roundsUp_halfEven_of_odd hodd]
        by_cases hhalf : d ≤ 2 * (n % d)
        · simp [hhalf]
          omega
        · simp [hhalf]
          omega
      omega
  | succ j =>
      have hfar : d ≤ (j + 1) * d := Nat.le_mul_of_pos_left d (Nat.succ_pos j)
      have hquotient : halfEven.quotient n d < bound := by
        have hle := halfEven.quotient_le n d
        omega
      constructor
      · intro _
        omega
      · intro _
        exact hquotient

end Rounding
end ReviewDesk
