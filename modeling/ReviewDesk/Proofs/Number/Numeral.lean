import Mathlib.Data.List.Basic
import ReviewDesk.Decimal.Grouped
import ReviewDesk.Number.Power

/-!
# Numerals

A number is written without superfluous zeros, or in a field that is filled up with them.
Either way the digits have the value of the number, and digits that follow one another
have the value of the number that they form together.
-/

namespace ReviewDesk

variable {c : Char} {ds es : List Char}

/-!
# Digits
-/

theorem isDigit_iff (c : Char) : c.isDigit = true ↔ 48 ≤ c.toNat ∧ c.toNat ≤ 57 := by
  simp only [Char.isDigit, Bool.and_eq_true, decide_eq_true_eq, UInt32.le_iff_toNat_le, ge_iff_le]
  rfl

theorem digitChar_of_isDigit (h : c.isDigit = true) : Nat.digitChar (c.toNat - 48) = c := by
  have hall : ∀ n < 10, Nat.digitChar n = Char.ofNat (n + 48) := by decide
  rw [isDigit_iff] at h
  rw [hall _ (by omega), Nat.sub_add_cancel h.left, Char.ofNat_toNat]

/-!
# Without superfluous zeros
-/

/-- At least one digit, and a zero in front only if it is the whole numeral. -/
def IsNumeral (ds : List Char) : Prop :=
  ds ≠ [] ∧ (∀ c ∈ ds, c.isDigit = true) ∧ (ds.head? = some '0' → ds = ['0'])

theorem isDigit_of_mem_toDigits {n : Nat} (h : c ∈ Nat.toDigits 10 n) : c.isDigit = true :=
  Nat.isDigit_of_mem_toDigits (by decide) (by decide) h

theorem toDigits_eq_zero {n : Nat} (h : (Nat.toDigits 10 n).head? = some '0') : n = 0 := by
  induction n using Nat.strongRecOn with
  | ind n ih =>
      by_cases hsmall : n < 10
      · have hall : ∀ m < 10, [Nat.digitChar m].head? = some '0' → m = 0 := by decide
        rw [Nat.toDigits_of_lt_base hsmall] at h
        exact hall n hsmall h
      · rw [Nat.toDigits_of_base_le (by decide) (Nat.not_lt.mp hsmall),
          List.head?_append_of_ne_nil _ Nat.toDigits_ne_nil] at h
        have hnone := ih (n / 10) (by omega) h
        omega

theorem isNumeral_toDigits (n : Nat) : IsNumeral (Nat.toDigits 10 n) := by
  refine ⟨Nat.toDigits_ne_nil, fun c hc => isDigit_of_mem_toDigits hc, fun hzero => ?_⟩
  rw [toDigits_eq_zero hzero]
  rfl

/-!
# Values
-/

theorem ofDigitChars_append_toNat (ds es : List Char) :
    Nat.ofDigitChars 10 (ds ++ es) 0 =
      Nat.ofDigitChars 10 ds 0 * tenPow es.length + Nat.ofDigitChars 10 es 0 := by
  rw [Nat.ofDigitChars_append, Nat.ofDigitChars_eq_ofDigitChars_zero, Nat.mul_comm]
  rfl

theorem ofDigitChars_cons_toNat (c : Char) (ds : List Char) :
    Nat.ofDigitChars 10 (c :: ds) 0 =
      (c.toNat - 48) * tenPow ds.length + Nat.ofDigitChars 10 ds 0 := by
  rw [← List.singleton_append, ofDigitChars_append_toNat, Nat.ofDigitChars_cons,
    Nat.ofDigitChars_nil, Nat.mul_zero, Nat.zero_add]
  rfl

theorem ofDigitChars_lt (h : ∀ c ∈ ds, c.isDigit = true) :
    Nat.ofDigitChars 10 ds 0 < tenPow ds.length := by
  induction ds with
  | nil => exact tenPow_pos 0
  | cons d ds ih =>
      rw [List.forall_mem_cons, isDigit_iff] at h
      have hrest := ih h.right
      have hfirst : (d.toNat - 48) * tenPow ds.length ≤ 9 * tenPow ds.length :=
        Nat.mul_le_mul_right _ (by omega)
      rw [ofDigitChars_cons_toNat, List.length_cons, tenPow_succ]
      omega

theorem lt_of_ofDigitChars_lt (hds : ∀ c ∈ ds, c.isDigit = true)
    (hes : ∀ c ∈ es, c.isDigit = true) (hlength : ds.length = es.length)
    (h : Nat.ofDigitChars 10 ds 0 < Nat.ofDigitChars 10 es 0) : ds < es := by
  induction ds generalizing es with
  | nil =>
      rw [List.length_eq_zero_iff.mp hlength.symm] at h
      exact absurd h (Nat.lt_irrefl _)
  | cons d ds ih =>
      cases es with
      | nil => cases hlength
      | cons e es =>
          rw [List.forall_mem_cons] at hds hes
          have hrest : ds.length = es.length := Nat.succ.inj hlength
          rw [ofDigitChars_cons_toNat, ofDigitChars_cons_toNat, hrest] at h
          rw [List.cons_lt_cons_iff]
          by_cases hfirst : d = e
          · subst hfirst
            exact Or.inr ⟨rfl, ih hds.right hes.right hrest (Nat.lt_of_add_lt_add_left h)⟩
          · left
            by_contra hnot
            have hdigits := (isDigit_iff e).mp hes.left
            have hne : e.toNat ≠ d.toNat := fun hsame => hfirst (Char.toNat_inj.mp hsame.symm)
            have hgreater : e.toNat < d.toNat := Nat.lt_of_le_of_ne (Nat.not_lt.mp hnot) hne
            have hbelow := ofDigitChars_lt hes.right
            have hmore : (e.toNat - 48 + 1) * tenPow es.length ≤
                (d.toNat - 48) * tenPow es.length :=
              Nat.mul_le_mul_right _ (by omega)
            rw [Nat.add_mul, Nat.one_mul] at hmore
            omega

/-!
# Fields
-/

open Decimal (padded)

theorem isDigit_of_mem_padded {width n : Nat} (h : c ∈ padded width n) : c.isDigit = true := by
  rcases List.mem_append.mp h with hzero | hdigit
  · rw [List.eq_of_mem_replicate hzero]
    rfl
  · exact isDigit_of_mem_toDigits hdigit

theorem length_padded {width n : Nat} (hwidth : 0 < width) (h : n < tenPow width) :
    (padded width n).length = width := by
  have hdigits : (Nat.toDigits 10 n).length ≤ width :=
    (Nat.length_toDigits_le_iff (by decide) hwidth).mpr h
  rw [padded, List.length_append, List.length_replicate]
  omega

theorem ofDigitChars_padded (width n : Nat) : Nat.ofDigitChars 10 (padded width n) 0 = n := by
  rw [padded, ofDigitChars_append_toNat, Nat.ofDigitChars_replicate_zero,
    Nat.ofDigitChars_ten_toDigits]
  simp

end ReviewDesk
