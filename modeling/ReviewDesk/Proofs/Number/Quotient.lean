import Mathlib.Algebra.Order.Field.Basic
import Mathlib.Algebra.Order.Floor.Ring
import Mathlib.Data.Rat.Floor
import Mathlib.Tactic.FieldSimp
import Mathlib.Tactic.Linarith
import Mathlib.Tactic.Ring
import ReviewDesk.Number.Rounding

/-!
# Rounded quotients as numbers

A rounded quotient is above a whole number exactly when the quotient is more than half a
unit above it, or half a unit above it and the mode takes halves up there.  So rounding
depends on the value of the quotient alone, never reverses an order and goes at most half
a unit astray.
-/

namespace ReviewDesk
namespace Rounding

/-!
# What is rounded up
-/

/-- A half above this whole number goes up. -/
def TakesHalf (mode : Rounding) (k : Nat) : Prop :=
  mode = halfUp ∨ k % 2 = 1

theorem roundsUp_iff (mode : Rounding) (q r d : Nat) :
    mode.roundsUp q r d = true ↔ d < 2 * r ∨ (d = 2 * r ∧ mode.TakesHalf q) := by
  unfold roundsUp TakesHalf
  split
  · simp only [Bool.false_eq_true, false_iff]
    omega
  · split
    · simp only [true_iff]
      omega
    · cases mode with
      | halfEven => simp; omega
      | halfUp => simp; omega

theorem lt_quotient_iff (mode : Rounding) {d : Nat} (hd : 0 < d) (n k : Nat) :
    k < mode.quotient n d ↔
      (2 * k + 1) * d < 2 * n ∨ ((2 * k + 1) * d = 2 * n ∧ mode.TakesHalf k) := by
  have hn : d * (n / d) + n % d = n := Nat.div_add_mod n d
  have hrest : n % d < d := Nat.mod_lt n hd
  have hlow : n / d ≤ mode.quotient n d := mode.le_quotient n d
  have hhigh : mode.quotient n d ≤ n / d + 1 := mode.quotient_le n d
  rcases Nat.lt_trichotomy k (n / d) with hbelow | hequal | habove
  case inl =>
    obtain ⟨j, hj⟩ : ∃ j, n / d = k + 1 + j := ⟨n / d - (k + 1), by omega⟩
    have hproduct : 2 * (d * (n / d)) = (2 * k + 1) * d + d + 2 * (d * j) := by
      rw [hj]
      ring
    refine iff_of_true (by omega) (Or.inl ?_)
    omega
  case inr.inl =>
    subst hequal
    have hup : n / d < mode.quotient n d ↔ mode.roundsUp (n / d) (n % d) d = true := by
      unfold quotient
      cases mode.roundsUp (n / d) (n % d) d with
      | true => simp
      | false => simp
    have hproduct : (2 * (n / d) + 1) * d = 2 * (d * (n / d)) + d := by ring
    rw [hup, roundsUp_iff, hproduct]
    constructor
    · rintro (hmore | ⟨hhalf, htakes⟩)
      · exact Or.inl (by omega)
      · exact Or.inr ⟨by omega, htakes⟩
    · rintro (hmore | ⟨hhalf, htakes⟩)
      · exact Or.inl (by omega)
      · exact Or.inr ⟨by omega, htakes⟩
  case inr.inr =>
    obtain ⟨j, hj⟩ : ∃ j, k = n / d + 1 + j := ⟨k - (n / d + 1), by omega⟩
    have hproduct : (2 * k + 1) * d = 2 * (d * (n / d)) + 3 * d + 2 * (d * j) := by
      rw [hj]
      ring
    refine iff_of_false (by omega) ?_
    rintro (hmore | ⟨hhalf, _⟩)
    · omega
    · omega

theorem lt_quotient_iff_half (mode : Rounding) {d : Nat} (hd : 0 < d) (n k : Nat) :
    k < mode.quotient n d ↔
      (k : ℚ) + 1 / 2 < n / d ∨ ((k : ℚ) + 1 / 2 = n / d ∧ mode.TakesHalf k) := by
  have hpositive : (0 : ℚ) < d := by exact_mod_cast hd
  have hless : (k : ℚ) + 1 / 2 < n / d ↔ (2 * k + 1) * d < 2 * n := by
    rw [lt_div_iff₀ hpositive, ← Nat.cast_lt (α := ℚ)]
    push_cast
    constructor
    · intro h
      linarith
    · intro h
      linarith
  have hequal : (k : ℚ) + 1 / 2 = n / d ↔ (2 * k + 1) * d = 2 * n := by
    rw [eq_div_iff (ne_of_gt hpositive), ← Nat.cast_inj (R := ℚ)]
    push_cast
    constructor
    · intro h
      linarith
    · intro h
      linarith
  rw [lt_quotient_iff mode hd, hless, hequal]

/-!
# Order and error
-/

theorem quotient_mono (mode : Rounding) {n d n' d' : Nat} (hd : 0 < d) (hd' : 0 < d')
    (h : (n : ℚ) / d ≤ n' / d') : mode.quotient n d ≤ mode.quotient n' d' := by
  apply Nat.le_of_not_lt
  intro hlt
  have hself : ¬ mode.quotient n' d' < mode.quotient n' d' := Nat.lt_irrefl _
  rw [lt_quotient_iff_half mode hd'] at hself
  apply hself
  rcases (lt_quotient_iff_half mode hd _ _).mp hlt with hmore | ⟨hhalf, htakes⟩
  · exact Or.inl (lt_of_lt_of_le hmore h)
  · rw [← hhalf] at h
    rcases lt_or_eq_of_le h with hmore | hequal
    · exact Or.inl hmore
    · exact Or.inr ⟨hequal, htakes⟩

theorem quotient_le_half (mode : Rounding) {d : Nat} (hd : 0 < d) (n : Nat) :
    (mode.quotient n d : ℚ) ≤ n / d + 1 / 2 := by
  cases hquotient : mode.quotient n d with
  | zero =>
      have hnonneg : (0 : ℚ) ≤ n / d := by positivity
      push_cast
      linarith
  | succ k =>
      have hk : k < mode.quotient n d := by omega
      have hbelow : (k : ℚ) + 1 / 2 ≤ n / d := by
        rcases (lt_quotient_iff_half mode hd n k).mp hk with hmore | ⟨hhalf, _⟩
        · exact le_of_lt hmore
        · exact le_of_eq hhalf
      push_cast
      linarith

theorem half_le_quotient (mode : Rounding) {d : Nat} (hd : 0 < d) (n : Nat) :
    (n : ℚ) / d ≤ mode.quotient n d + 1 / 2 := by
  apply le_of_not_gt
  intro hmore
  exact Nat.lt_irrefl _ ((lt_quotient_iff_half mode hd n _).mpr (Or.inl hmore))

theorem abs_quotient_sub_le (mode : Rounding) {d : Nat} (hd : 0 < d) (n : Nat) :
    |(mode.quotient n d : ℚ) - n / d| ≤ 1 / 2 := by
  have hhigh := quotient_le_half mode hd n
  have hlow := half_le_quotient mode hd n
  rw [abs_le]
  constructor
  · linarith
  · linarith

theorem quotient_of_eq (mode : Rounding) {n d m : Nat} (hd : 0 < d) (h : (n : ℚ) / d = m) :
    mode.quotient n d = m := by
  have hpositive : (d : ℚ) ≠ 0 := by exact_mod_cast Nat.ne_of_gt hd
  have hn : n = m * d := by
    rw [div_eq_iff hpositive] at h
    exact_mod_cast h
  rw [hn, mode.quotient_of_dvd hd (Nat.dvd_mul_left d m), Nat.mul_div_cancel m hd]

theorem quotient_halfUp {d : Nat} (hd : 0 < d) (n : Nat) :
    (halfUp.quotient n d : ℤ) = ⌊(n : ℚ) / d + 1 / 2⌋ := by
  symm
  rw [Int.floor_eq_iff]
  have hhigh := quotient_le_half halfUp hd n
  have hlow : (n : ℚ) / d < halfUp.quotient n d + 1 / 2 := by
    apply lt_of_not_ge
    intro hreached
    apply Nat.lt_irrefl (halfUp.quotient n d)
    rw [lt_quotient_iff_half halfUp hd]
    rcases lt_or_eq_of_le hreached with hmore | hequal
    · exact Or.inl hmore
    · exact Or.inr ⟨hequal, Or.inl rfl⟩
  push_cast
  constructor
  · linarith
  · linarith

end Rounding
end ReviewDesk
