import ReviewDesk.Number.Integer
import ReviewDesk.Proofs.Decimal.Reader

/-!
# Reading whole numbers

A text of a sign and not too many digits is read as the whole number that it shows.
-/

namespace ReviewDesk
namespace Integer

open Text

variable {ds : List Char}

theorem trim_isWhiteSpace_eq_self {cs : List Char} (h : ∀ c ∈ cs, isBlank c = false) :
    trim isWhiteSpace cs = cs := by
  apply trim_eq_self
  apply isTrimmed_of_not_blank
  intro c hc
  rw [isWhiteSpace, h c hc]
  rfl

theorem asciiDigits_eq_self {cs : List Char} (h : ∀ c ∈ cs, Decimal.IsPlain c) :
    asciiDigits cs = cs := by
  have hself : ∀ c ∈ cs, ((digitValue? c).map Nat.digitChar).getD c = c := by
    intro c hc
    have hplain := h c hc
    unfold Decimal.IsPlain at hplain
    rw [digitValue?, if_pos (by omega)]
    by_cases hdigit : c.isDigit = true
    · rw [if_pos (by simpa using (isDigit_iff c).mp hdigit)]
      exact digitChar_of_isDigit hdigit
    · rw [if_neg (by simpa using mt (isDigit_iff c).mpr hdigit)]
      rfl
  rw [asciiDigits, List.map_congr_left hself, List.map_id']

theorem digits?_of_isDigit (h : ∀ c ∈ ds, c.isDigit = true) : digits? true ds = some ds := by
  induction ds with
  | nil => rfl
  | cons c ds ih =>
      rw [List.forall_mem_cons] at h
      have hc : isDigit c = true := h.left
      simp [digits?, hc, ih h.right]

theorem unsigned?_of_isDigit (hsome : ds ≠ []) (h : ∀ c ∈ ds, c.isDigit = true)
    (hlength : ds.length ≤ maxDigits) : unsigned? ds = some (Decimal.value ds) := by
  obtain ⟨c, rest, rfl⟩ := List.exists_cons_of_ne_nil hsome
  rw [List.forall_mem_cons] at h
  have hc : isDigit c = true := h.left
  have hdigits : digits? false (c :: rest) = some (c :: rest) := by
    simp [digits?, hc, digits?_of_isDigit h.right]
  rw [unsigned?, hdigits, Option.bind_some, value?, if_neg (Nat.not_lt.mpr hlength)]
  rfl

theorem signed?_signText (negative : Bool) (hsome : ds ≠ []) (h : ∀ c ∈ ds, c.isDigit = true)
    (hlength : ds.length ≤ maxDigits) :
    signed? (Decimal.signText negative ++ ds) =
      some (Decimal.signed negative (Decimal.value ds)) := by
  have hunsigned := unsigned?_of_isDigit hsome h hlength
  cases negative with
  | true =>
      have hsigned : signed? (Decimal.signText true ++ ds) =
          (unsigned? ds).map fun n => -(n : Int) := rfl
      rw [hsigned, hunsigned]
      rfl
  | false =>
      have hsigned : signed? (Decimal.signText false ++ ds) = (unsigned? ds).map Int.ofNat := by
        obtain ⟨c, rest, rfl⟩ := List.exists_cons_of_ne_nil hsome
        have hc : c.isDigit = true := h c List.mem_cons_self
        simp only [Decimal.signText, Bool.false_eq_true, if_false, List.nil_append]
        unfold signed?
        split
        · rename_i heq
          cases heq
          exact absurd hc (by decide)
        · rename_i heq
          cases heq
          exact absurd hc (by decide)
        · rfl
      rw [hsigned, hunsigned]
      rfl

theorem read?_signText (negative : Bool) (hsome : ds ≠ []) (h : ∀ c ∈ ds, c.isDigit = true)
    (hlength : ds.length ≤ maxDigits) :
    read? (String.ofList (Decimal.signText negative ++ ds)) =
      some (Decimal.signed negative (Decimal.value ds)) := by
  have hplain : ∀ c ∈ Decimal.signText negative ++ ds, Decimal.IsPlain c := by
    intro c hc
    rcases List.mem_append.mp hc with hsign | hdigit
    · exact Decimal.isPlain_of_mem_signText hsign
    · exact Decimal.isPlain_of_isDigit (h c hdigit)
  rw [read?, String.toList_ofList,
    trim_isWhiteSpace_eq_self fun c hc => Decimal.isBlank_of_isPlain (hplain c hc),
    asciiDigits_eq_self hplain, signed?_signText negative hsome h hlength]

end Integer
end ReviewDesk
