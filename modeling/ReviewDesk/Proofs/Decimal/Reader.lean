import ReviewDesk.Decimal.Reader
import ReviewDesk.Proofs.Number.Numeral
import ReviewDesk.Proofs.Text.Blank

/-!
# Reading plain numerals

A text of a sign, digits, a point and further digits is read as the number that it shows,
with as many places as there are digits after the point, if decimal numbers go so far.
-/

namespace ReviewDesk
namespace Decimal

open Text

variable {cs ds es whole fraction : List Char}

/-!
# Plain characters
-/

/-- A digit, the point or the hyphen; the slash lies between them. -/
def IsPlain (c : Char) : Prop :=
  45 ≤ c.toNat ∧ c.toNat ≤ 57

instance (c : Char) : Decidable (IsPlain c) :=
  inferInstanceAs (Decidable (_ ∧ _))

theorem isPlain_of_isDigit {c : Char} (h : c.isDigit = true) : IsPlain c := by
  rw [isDigit_iff] at h
  unfold IsPlain
  omega

theorem isBlank_of_isPlain {c : Char} (h : IsPlain c) : isBlank c = false := by
  unfold IsPlain at h
  rw [← Bool.not_eq_true]
  simp only [isBlank, Bool.or_eq_true, Bool.and_eq_true, decide_eq_true_eq, beq_iff_eq]
  omega

theorem plainChar?_of_isPlain {c : Char} (h : IsPlain c) : plainChar? c = some c := by
  unfold IsPlain at h
  rw [plainChar?, if_neg (by omega), if_pos (by omega)]

theorem plain?_ofList (h : ∀ c ∈ cs, IsPlain c) : plain? (String.ofList cs) = some cs := by
  have htrim : trim isBlank cs = cs :=
    trim_eq_self (isTrimmed_of_not_blank fun c hc => isBlank_of_isPlain (h c hc))
  have hfilter : cs.filter (· != '_') = cs := by
    rw [List.filter_eq_self]
    intro c hc
    rw [bne_iff_ne]
    rintro rfl
    exact absurd (h '_' hc) (by decide)
  have hmap : ∀ ds : List Char, (∀ c ∈ ds, IsPlain c) → ds.mapM plainChar? = some ds := by
    intro ds hds
    induction ds with
    | nil => rfl
    | cons c ds ih =>
        rw [List.forall_mem_cons] at hds
        simp [plainChar?_of_isPlain hds.left, ih hds.right]
  rw [plain?, String.toList_ofList, htrim, hfilter, hmap cs h]

/-!
# Parts of a numeral
-/

theorem splitSign_signText (negative : Bool) (hsome : ds ≠ []) (h : ∀ c ∈ ds, c.isDigit = true) :
    splitSign (signText negative ++ ds ++ es) = (negative, ds ++ es) := by
  obtain ⟨c, rest, rfl⟩ := List.exists_cons_of_ne_nil hsome
  have hc : c.isDigit = true := h c List.mem_cons_self
  cases negative with
  | true => rfl
  | false =>
      simp only [signText, Bool.false_eq_true, if_false, List.nil_append, List.cons_append]
      unfold splitSign
      split
      · rename_i heq
        cases heq
        exact absurd hc (by decide)
      · rename_i heq
        cases heq
        exact absurd hc (by decide)
      · rfl

theorem toLower_of_isDigit {c : Char} (h : c.isDigit = true) : c.toLower = c := by
  rw [isDigit_iff] at h
  have hupper : ¬ (c.val ≥ 'A'.val ∧ c.val ≤ 'Z'.val) := by
    rintro ⟨hlow, _⟩
    have hlow' : 65 ≤ c.toNat := UInt32.le_iff_toNat_le.mp hlow
    omega
  exact dif_neg hupper

theorem named?_of_isDigit (negative : Bool) (hsome : ds ≠ []) (h : ∀ c ∈ ds, c.isDigit = true) :
    named? negative (ds ++ es) = none := by
  obtain ⟨c, rest, rfl⟩ := List.exists_cons_of_ne_nil hsome
  have hc : c.isDigit = true := h c List.mem_cons_self
  have hlower : lowerAscii (c :: rest ++ es) = c :: lowerAscii (rest ++ es) := by
    rw [lowerAscii, List.cons_append, List.map_cons, toLower_of_isDigit hc]
    rfl
  have hne : ∀ d ∈ ['i', 'n', 's'], c ≠ d := by
    have hletters : ∀ d ∈ ['i', 'n', 's'], d.isDigit = false :=
      List.forall_mem_cons.mpr ⟨by decide, List.forall_mem_cons.mpr
        ⟨by decide, List.forall_mem_singleton.mpr (by decide)⟩⟩
    rintro d hd rfl
    rw [hletters c hd] at hc
    cases hc
  unfold named?
  rw [hlower]
  split
  · rename_i heq
    exact (hne 'i' (by decide) (List.cons.inj heq).left).elim
  · rename_i heq
    exact (hne 'i' (by decide) (List.cons.inj heq).left).elim
  · rename_i heq
    exact (hne 'n' (by decide) (List.cons.inj heq).left).elim
  · rename_i heq
    exact (hne 's' (by decide) (List.cons.inj heq).left).elim
  · rfl

theorem numeral?_fixed (negative : Bool) (hsome : whole ≠ [])
    (hwhole : ∀ c ∈ whole, c.isDigit = true) (hfraction : ∀ c ∈ fraction, c.isDigit = true) :
    numeral? negative (whole ++ '.' :: fraction) =
      if inWrittenRange (value (whole ++ fraction)) (-fraction.length) then
        some (finite negative (value (whole ++ fraction)) (-fraction.length))
      else none := by
  have htake : (whole ++ '.' :: fraction).takeWhile isDigit = whole := by
    rw [List.takeWhile_append_of_pos (p := isDigit) hwhole]
    simp [isDigit]
  have hdrop : (whole ++ '.' :: fraction).dropWhile isDigit = '.' :: fraction := by
    rw [List.dropWhile_append_of_pos (p := isDigit) hwhole]
    simp [isDigit]
  have htake' : fraction.takeWhile isDigit = fraction := List.takeWhile_eq_self_iff.mpr hfraction
  have hdrop' : fraction.dropWhile isDigit = [] := List.dropWhile_eq_nil_iff.mpr hfraction
  have hempty : whole.isEmpty = false := by simpa using hsome
  simp [numeral?, htake, hdrop, htake', hdrop', hempty, exponent?]

theorem isPlain_of_mem_signText {c : Char} {negative : Bool} (h : c ∈ signText negative) :
    IsPlain c := by
  cases negative with
  | false => cases h
  | true =>
      rw [List.mem_singleton.mp h]
      decide

theorem read?_fixed (negative : Bool) (hsome : whole ≠ [])
    (hwhole : ∀ c ∈ whole, c.isDigit = true) (hfraction : ∀ c ∈ fraction, c.isDigit = true) :
    read? (String.ofList (signText negative ++ whole ++ '.' :: fraction)) =
      if inWrittenRange (value (whole ++ fraction)) (-fraction.length) then
        some (finite negative (value (whole ++ fraction)) (-fraction.length))
      else none := by
  have hplain : ∀ c ∈ signText negative ++ whole ++ '.' :: fraction, IsPlain c := by
    intro c hc
    rw [List.mem_append, List.mem_append, List.mem_cons] at hc
    rcases hc with (hsign | hdigit) | rfl | hdigit
    · exact isPlain_of_mem_signText hsign
    · exact isPlain_of_isDigit (hwhole c hdigit)
    · decide
    · exact isPlain_of_isDigit (hfraction c hdigit)
  simp only [read?, plain?_ofList hplain, Option.bind_eq_bind, Option.bind_some,
    splitSign_signText negative hsome hwhole, named?_of_isDigit negative hsome hwhole,
    numeral?_fixed negative hsome hwhole hfraction]
  rfl

end Decimal
end ReviewDesk
