import ReviewDesk.Decimal.Arithmetic

/-!
# Finite results

Arithmetic on finite numbers ends with a trap or with a finite number.  A number with
a fixed number of places is never a signaling one, whatever it was made from, so it
can always be compared with zero.
-/

namespace ReviewDesk
namespace Decimal

def IsZero (x : Decimal) : Prop :=
  ∃ negative exponent, x = finite negative 0 exponent

theorem isZero?_eq_true_iff (x : Decimal) : x.isZero? = .ok true ↔ x.IsZero := by
  cases x with
  | finite negative c e =>
      simp [isZero?, IsZero, beq_iff_eq]
  | infinite negative =>
      simp [isZero?, IsZero]
  | nan negative signaling payload =>
      cases signaling <;> simp [isZero?, IsZero]

theorem exists_of_isFinite {x : Decimal} (h : x.isFinite = true) :
    ∃ negative c e, x = finite negative c e := by
  cases x with
  | finite negative c e => exact ⟨negative, c, e, rfl⟩
  | infinite negative => cases h
  | nan negative signaling payload => cases h

/-!
# Operations
-/

private theorem eq_of_checked {p : Prop} [Decidable p] {trap : Trap} {x y : Decimal}
    (h : (if p then .error trap else .ok x : Except Trap Decimal) = .ok y) : x = y := by
  split at h
  · cases h
  · cases h
    rfl

theorem isFinite_settle {negative : Bool} {c : Nat} {e : Int} {x : Decimal}
    (h : settle negative c e = .ok x) : x.isFinite = true := by
  unfold settle at h
  split at h
  · cases h
    rfl
  · rw [← eq_of_checked h]
    rfl

theorem isFinite_mul {x y z : Decimal} (hx : x.isFinite = true) (hy : y.isFinite = true)
    (h : x.mul y = .ok z) : z.isFinite = true := by
  rcases exists_of_isFinite hx with ⟨s, c, e, rfl⟩
  rcases exists_of_isFinite hy with ⟨t, d, f, rfl⟩
  exact isFinite_settle h

theorem isFinite_add {x y z : Decimal} (hx : x.isFinite = true) (hy : y.isFinite = true)
    (h : x.add y = .ok z) : z.isFinite = true := by
  rcases exists_of_isFinite hx with ⟨s, c, e, rfl⟩
  rcases exists_of_isFinite hy with ⟨t, d, f, rfl⟩
  exact isFinite_settle h

theorem isFinite_shiftDown {places : Nat} {x z : Decimal} (hx : x.isFinite = true)
    (h : x.shiftDown places = .ok z) : z.isFinite = true := by
  rcases exists_of_isFinite hx with ⟨s, c, e, rfl⟩
  exact isFinite_settle h

theorem isFinite_quantize {mode : Rounding} {places : Nat} {x z : Decimal}
    (hx : x.isFinite = true) (h : x.quantize mode places = .ok z) : z.isFinite = true := by
  rcases exists_of_isFinite hx with ⟨s, c, e, rfl⟩
  simp only [quantize] at h
  split at h
  · cases h
    rfl
  · split at h
    · cases h
    · rw [← eq_of_checked h]
      rfl

/-!
# Comparing with zero
-/

theorem isZero?_of_isFinite {x : Decimal} (h : x.isFinite = true) :
    ∃ answer, x.isZero? = .ok answer := by
  rcases exists_of_isFinite h with ⟨s, c, e, rfl⟩
  exact ⟨_, rfl⟩

theorem isZero?_of_quantize {mode : Rounding} {places : Nat} {x z : Decimal}
    (h : x.quantize mode places = .ok z) : ∃ answer, z.isZero? = .ok answer := by
  cases x with
  | finite s c e =>
      exact isZero?_of_isFinite (isFinite_quantize rfl h)
  | infinite s =>
      cases h
  | nan s signaling payload =>
      cases signaling with
      | true => cases h
      | false =>
          cases h
          exact ⟨false, rfl⟩

end Decimal
end ReviewDesk
