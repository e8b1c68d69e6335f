import ReviewDesk.Decimal.Grouped
import ReviewDesk.Proofs.Decimal.Operations
import ReviewDesk.Proofs.Number.Nearest
import ReviewDesk.Proofs.Number.Numeral

/-!
# Digits in groups

Digits are grouped into threes from the right, so only the first group can be shorter.
Without the commas they are the numeral that was grouped.
-/

namespace ReviewDesk
namespace Decimal

variable {ds text : List Char}

/-!
# Groups
-/

/-- The text is made of the digits in groups of three, counted from the right, each with a
comma in front of it except for the first, which has at least one digit. -/
def GroupedAs (ds text : List Char) : Prop :=
  ∃ (first : List Char) (rest : List (List Char)), ds = first ++ rest.flatten ∧
    text = first ++ rest.flatMap (',' :: ·) ∧ 1 ≤ first.length ∧ first.length ≤ 3 ∧
    ∀ group ∈ rest, group.length = 3

theorem groupedAs_short (hsome : ds ≠ []) (hshort : ds.length ≤ 3) : GroupedAs ds ds := by
  refine ⟨ds, [], ?_, ?_, List.length_pos_iff.mpr hsome, hshort, ?_⟩
  · simp
  · simp
  · intro group hgroup
    cases hgroup

theorem groupedAs_append {group : List Char} (h : GroupedAs ds text) (hgroup : group.length = 3) :
    GroupedAs (ds ++ group) (text ++ ',' :: group) := by
  rcases h with ⟨first, rest, rfl, rfl, hsome, hshort, hrest⟩
  refine ⟨first, rest ++ [group], ?_, ?_, hsome, hshort, ?_⟩
  · simp
  · simp
  · intro other hother
    rcases List.mem_append.mp hother with hbefore | hlast
    · exact hrest other hbefore
    · rw [List.mem_singleton.mp hlast]
      exact hgroup

theorem groupedAs_reverse {reversed : List Char} (hsome : reversed ≠ []) :
    GroupedAs reversed.reverse (groupReversed reversed).reverse := by
  induction reversed using groupReversed.induct with
  | case1 a b c d rest ih =>
      have hlast : [c, b, a].length = 3 := rfl
      have hmore := groupedAs_append (ih (List.cons_ne_nil d rest)) hlast
      simpa [groupReversed] using hmore
  | case2 short hshort =>
      have hlength : short.length ≤ 3 := by
        match short, hshort with
        | [], _ => simp
        | [_], _ => simp
        | [_, _], _ => simp
        | [_, _, _], _ => simp
        | a :: b :: c :: d :: rest, hshort => exact (hshort a b c d rest rfl).elim
      have hself : groupReversed short = short := by
        unfold groupReversed
        split
        · rename_i a b c d rest
          exact (hshort a b c d rest rfl).elim
        · rfl
      rw [hself]
      exact groupedAs_short (by simpa using hsome) (by simpa using hlength)

theorem groupedAs_grouped (n : Nat) : GroupedAs (Nat.toDigits 10 n) (grouped n) := by
  have hsome : (Nat.toDigits 10 n).reverse ≠ [] := by simp
  have hreverse := groupedAs_reverse hsome
  rwa [List.reverse_reverse] at hreverse

/-!
# Without commas
-/

theorem filter_of_groupedAs {keep : Char → Bool} (hcomma : keep ',' = false)
    (hdigits : ∀ c ∈ ds, keep c = true) (h : GroupedAs ds text) : text.filter keep = ds := by
  rcases h with ⟨first, rest, rfl, rfl, _, _, _⟩
  have hrest : ∀ groups : List (List Char), (∀ c ∈ groups.flatten, keep c = true) →
      (groups.flatMap (',' :: ·)).filter keep = groups.flatten := by
    intro groups hgroups
    induction groups with
    | nil => rfl
    | cons group groups ih =>
        rw [List.flatten_cons, List.forall_mem_append] at hgroups
        rw [List.flatMap_cons, List.filter_append, ih hgroups.right,
          List.filter_cons_of_neg (by simp [hcomma]), List.filter_eq_self.mpr hgroups.left,
          List.flatten_cons]
  rw [List.forall_mem_append] at hdigits
  rw [List.filter_append, hrest rest hdigits.right, List.filter_eq_self.mpr hdigits.left]

/-!
# Units
-/

theorem unitsOf_eq_stepsOf (mode : Rounding) (places c : Nat) (e : Int) :
    unitsOf mode places c e = stepsOf mode c e (-places) := by
  unfold unitsOf
  split
  · rename_i hzero
    rw [hzero, stepsOf_zero]
  · exact moved_eq_stepsOf mode places c e

theorem isNearest_stepsOf (mode : Rounding) (places : Nat) (negative : Bool) (c : Nat) (e : Int) :
    mode.IsNearest ((finite negative c e).toRat * 10 ^ places)
      (signed negative (stepsOf mode c e (-places))) := by
  have hvalue : (c : ℚ) * 10 ^ e / 10 ^ (-places : Int) = c * 10 ^ e * 10 ^ places := by
    rw [zpow_neg, zpow_natCast, div_inv_eq_mul]
  have hnearest : mode.IsNearest (c * 10 ^ e * 10 ^ places) (stepsOf mode c e (-places) : ℤ) := by
    rw [← hvalue, ← stepsOf_quotient]
    exact mode.isNearest_quotient (tenPow_pos _) _
  rw [toRat_finite, mul_assoc]
  cases negative with
  | false => simpa [signOf, signed] using hnearest
  | true => simpa [signOf, signed] using Rounding.isNearest_neg hnearest

theorem value_fixed {places : Nat} (hplaces : 0 < places) (n : Nat) :
    Nat.ofDigitChars 10 (Nat.toDigits 10 (n / tenPow places) ++
      padded places (n % tenPow places)) 0 = n := by
  have hlength : (padded places (n % tenPow places)).length = places :=
    length_padded hplaces (Nat.mod_lt n (tenPow_pos places))
  rw [ofDigitChars_append_toNat, hlength, Nat.ofDigitChars_ten_toDigits, ofDigitChars_padded]
  exact Nat.div_add_mod' n (tenPow places)

/-!
# Room at fixed places
-/

theorem quantize_eq_ite (mode : Rounding) (places : Nat) (negative : Bool) (c : Nat) (e : Int) :
    quantize mode places (finite negative c e) =
      if precision < digitCount (stepsOf mode c e (-places)) then .error .invalid
      else .ok (finite negative (stepsOf mode c e (-places)) (-places)) := by
  simp only [quantize, moved_eq_stepsOf]
  by_cases hc : c = 0
  · rw [if_pos hc, hc, stepsOf_zero, if_neg (by decide)]
  · rw [if_neg hc]
    split
    · rename_i hlong
      rw [if_pos]
      rw [← moved_eq_stepsOf]
      split
      · rw [digitCount_mul_tenPow hc]
        omega
      · have hdropped := le_digitCount_dropDigits mode hc (k := (-(e + places)).toNat) (by omega)
        omega
    · rfl

theorem reach_stepsOf_le (mode : Rounding) {c : Nat} {e g n : Int} (hg : g ≤ n)
    (h : reach c e ≤ n) (hsome : stepsOf mode c e g ≠ 0) :
    reach (stepsOf mode c e g) g ≤ n + 1 := by
  have hbelow : (c : ℚ) * 10 ^ e ≤ 10 ^ n :=
    le_trans (le_of_lt (lt_zpow_reach c e)) (zpow_le_zpow_right₀ (by norm_num) h)
  apply reach_le_of_lt hsome
  calc (stepsOf mode c e g : ℚ) * 10 ^ g ≤ 10 ^ n := steps_le_zpow mode hg hbelow
    _ < 10 ^ (n + 1) := zpow_lt_zpow_right₀ (by norm_num) (by omega)

end Decimal
end ReviewDesk
