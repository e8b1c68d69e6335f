import ReviewDesk.Proofs.Number.Quotient

/-!
# Nearest whole numbers

Rounding brings a number to a whole number that is at most half a unit away.  Of two that
are equally near it takes the even one, or the one that is farther from zero.  Only one
whole number meets this, and a rounded quotient does, whatever the sign.
-/

namespace ReviewDesk
namespace Rounding

variable {mode : Rounding} {q : ℚ} {k k' : ℤ}

/-- The whole number is the one that `q` is rounded to. -/
def IsNearest (mode : Rounding) (q : ℚ) (k : ℤ) : Prop :=
  |q - k| ≤ 1 / 2 ∧
    (|q - k| = 1 / 2 →
      match mode with
      | halfEven => Even k
      | halfUp => |q| < |(k : ℚ)|)

theorem isNearest_neg (h : mode.IsNearest q k) : mode.IsNearest (-q) (-k) := by
  have hdistance : |-q - ((-k : ℤ) : ℚ)| = |q - k| := by
    rw [← abs_neg]
    congr 1
    push_cast
    ring
  refine ⟨hdistance ▸ h.left, fun hhalf => ?_⟩
  rw [hdistance] at hhalf
  have htie := h.right hhalf
  cases mode with
  | halfEven => exact htie.neg
  | halfUp => simpa using htie

theorem isNearest_self (mode : Rounding) (k : ℤ) : mode.IsNearest k k := by
  constructor
  · rw [sub_self, abs_zero]
    norm_num
  · intro hhalf
    rw [sub_self, abs_zero] at hhalf
    norm_num at hhalf

theorem not_isNearest_succ (h : mode.IsNearest q k) (h' : mode.IsNearest q (k + 1)) : False := by
  have hbelow := abs_le.mp h.left
  have habove := abs_le.mp h'.left
  push_cast at habove
  have hhalf : q - k = 1 / 2 := by linarith
  have hhalf' : q - ((k + 1 : ℤ) : ℚ) = -(1 / 2) := by
    push_cast
    linarith
  have htie := h.right (by rw [hhalf]; norm_num)
  have htie' := h'.right (by rw [hhalf']; norm_num)
  cases mode with
  | halfEven =>
      rw [Int.even_add_one] at htie'
      exact htie' htie
  | halfUp =>
      have hq : q = k + 1 / 2 := by linarith
      rcases le_or_gt 0 k with hk | hk
      · have hk' : (0 : ℚ) ≤ k := by exact_mod_cast hk
        rw [hq, abs_of_nonneg (by linarith), abs_of_nonneg hk'] at htie
        linarith
      · have hk' : (k : ℚ) + 1 ≤ 0 := by exact_mod_cast hk
        push_cast at htie'
        rw [hq, abs_of_nonpos (by linarith), abs_of_nonpos hk'] at htie'
        linarith

theorem isNearest_unique (h : mode.IsNearest q k) (h' : mode.IsNearest q k') : k = k' := by
  have hbelow := abs_le.mp h.left
  have habove := abs_le.mp h'.left
  have hle : k' ≤ k + 1 := by
    have hcast : (k' : ℚ) ≤ k + 1 := by linarith
    exact_mod_cast hcast
  have hle' : k ≤ k' + 1 := by
    have hcast : (k : ℚ) ≤ k' + 1 := by linarith
    exact_mod_cast hcast
  rcases lt_trichotomy k k' with hlt | heq | hgt
  · have hsucc : k' = k + 1 := by omega
    exact (not_isNearest_succ h (hsucc ▸ h')).elim
  · exact heq
  · have hsucc : k = k' + 1 := by omega
    exact (not_isNearest_succ h' (hsucc ▸ h)).elim

theorem isNearest_quotient (mode : Rounding) {d : Nat} (hd : 0 < d) (n : Nat) :
    mode.IsNearest ((n : ℚ) / d) (mode.quotient n d) := by
  have herror := abs_quotient_sub_le mode hd n
  rw [abs_sub_comm] at herror
  refine ⟨by exact_mod_cast herror, fun hhalf => ?_⟩
  rcases abs_eq (by norm_num : (0 : ℚ) ≤ 1 / 2) |>.mp hhalf with habove | hbelow
  case inl =>
    -- the half above the quotient was not taken
    have hreached : (mode.quotient n d : ℚ) + 1 / 2 = n / d := by
      push_cast at habove
      linarith
    have hrefuses : ¬ mode.TakesHalf (mode.quotient n d) := fun htakes =>
      Nat.lt_irrefl _ ((lt_quotient_iff_half mode hd n _).mpr (Or.inr ⟨hreached, htakes⟩))
    cases mode with
    | halfEven =>
        have hodd : ¬ halfEven.quotient n d % 2 = 1 := fun h => hrefuses (Or.inr h)
        have heven : Even (halfEven.quotient n d) := Nat.even_iff.mpr (by omega)
        exact_mod_cast heven
    | halfUp => exact (hrefuses (Or.inl rfl)).elim
  case inr =>
    have hreached : (n : ℚ) / d = mode.quotient n d - 1 / 2 := by
      push_cast at hbelow
      linarith
    have hnonneg : (0 : ℚ) ≤ n / d := by positivity
    have hpositive : 0 < mode.quotient n d := by
      have hcast : (0 : ℚ) < mode.quotient n d := by linarith
      exact_mod_cast hcast
    cases mode with
    | halfEven =>
        obtain ⟨j, hj⟩ : ∃ j, halfEven.quotient n d = j + 1 :=
          Nat.exists_eq_succ_of_ne_zero (Nat.ne_of_gt hpositive)
        have htaken : halfEven.TakesHalf j := by
          rcases (lt_quotient_iff_half halfEven hd n j).mp (by omega) with hmore | ⟨_, htakes⟩
          · rw [hreached, hj] at hmore
            push_cast at hmore
            linarith
          · exact htakes
        have hodd : j % 2 = 1 := htaken.elim (fun h => nomatch h) id
        have heven : Even (halfEven.quotient n d) := Nat.even_iff.mpr (by omega)
        exact_mod_cast heven
    | halfUp =>
        have hcast : (0 : ℚ) ≤ halfUp.quotient n d := by positivity
        push_cast
        rw [hreached, abs_of_nonneg (by linarith), abs_of_nonneg hcast]
        linarith

end Rounding
end ReviewDesk
