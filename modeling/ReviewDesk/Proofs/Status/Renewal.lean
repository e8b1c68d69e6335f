import ReviewDesk.Proofs.Desk.Warnings
import ReviewDesk.Review.Basic

/-!
# Statuses that are read back

The warning of a status is the beginning of the text that was given, or nothing if that
text was blank.  Blankness is looked for before the text is cut, and once more when the
status is read back: a text whose kept beginning is blank, though the whole is not, is kept
at first and then lost.  Every other status is read back as it was.
-/

namespace ReviewDesk
namespace IntegrationStatus

open Text

variable {text : String}

def cut (text : String) : String :=
  String.ofList (text.toList.take maxWarningLength)

/-- The text is not blank, but what is kept of it is. -/
def BeginsBlank (text : String) : Prop :=
  isBlankText text = false ∧ isBlankText (cut text) = true

theorem cut_isPrefix (text : String) : (cut text).toList <+: text.toList := by
  rw [cut, String.toList_ofList]
  exact List.take_prefix maxWarningLength text.toList

@[simp] theorem cut_cut (text : String) : cut (cut text) = cut text := by
  rw [cut, cut, String.toList_ofList, List.take_take, Nat.min_self]

theorem normalWarning_of_blank (h : isBlankText text = true) :
    normalWarning (some text) = none := by
  simp [normalWarning, h]

theorem normalWarning_of_not_blank (h : isBlankText text = false) :
    normalWarning (some text) = some (cut text) := by
  simp [normalWarning, h, cut]

theorem normalWarning_eq_none_iff {warning : Option String} :
    normalWarning warning = none ↔ ∀ text, warning = some text → isBlankText text = true := by
  cases warning with
  | none => simp [normalWarning]
  | some text =>
      cases hblank : isBlankText text with
      | true => simp [normalWarning_of_blank hblank, hblank]
      | false => simp [normalWarning_of_not_blank hblank, hblank]

theorem normalWarning_eq_some_iff {warning : Option String} {kept : String} :
    normalWarning warning = some kept ↔
      ∃ text, warning = some text ∧ isBlankText text = false ∧ kept = cut text := by
  cases warning with
  | none => simp [normalWarning]
  | some text =>
      cases hblank : isBlankText text with
      | true => simp [normalWarning_of_blank hblank, hblank]
      | false =>
          rw [normalWarning_of_not_blank hblank]
          constructor
          · intro h
            exact ⟨text, rfl, hblank, (Option.some.inj h).symm⟩
          · intro h
            rcases h with ⟨other, hsame, _, rfl⟩
            cases hsame
            rfl

theorem normalWarning_normalWarning_iff (warning : Option String) :
    normalWarning (normalWarning warning) = normalWarning warning ↔
      ∀ text, warning = some text → ¬ BeginsBlank text := by
  cases hkept : normalWarning warning with
  | none =>
      apply iff_of_true rfl
      intro text htext hbegins
      have hblank := normalWarning_eq_none_iff.mp hkept text htext
      rw [hbegins.left] at hblank
      cases hblank
  | some kept =>
      rcases normalWarning_eq_some_iff.mp hkept with ⟨text, rfl, hblank, rfl⟩
      cases hcut : isBlankText (cut text) with
      | true =>
          rw [normalWarning_of_blank hcut]
          simp [BeginsBlank, hblank, hcut]
      | false =>
          rw [normalWarning_of_not_blank hcut]
          simp [BeginsBlank, hcut]

variable (polish cost archive : StepStatus) (warning : Option String)

theorem warning_make : (make polish cost archive warning).warning = normalWarning warning :=
  rfl

theorem renewed_make_iff :
    (make polish cost archive warning).renewed = make polish cost archive warning ↔
      ∀ text, warning = some text → ¬ BeginsBlank text := by
  rw [← normalWarning_normalWarning_iff]
  simp [renewed, make]

/-- What a status keeps of its warning, and when a review gives it back as it was. -/
theorem make_kept (r : Review) :
    ((make polish cost archive warning).warning = none ↔
        ∀ text, warning = some text → isBlankText text = true) ∧
      (∀ kept, (make polish cost archive warning).warning = some kept →
        ∃ text, warning = some text ∧ kept.toList <+: text.toList ∧ kept.length ≤ 500 ∧
          (isBlankText kept = true ↔ BeginsBlank text)) ∧
      (({ r with status := make polish cost archive warning } : Review).status.renewed =
          make polish cost archive warning ↔
        ∀ text, warning = some text → ¬ BeginsBlank text) := by
  rw [renewed_make_iff, warning_make]
  refine ⟨normalWarning_eq_none_iff, ?_, Iff.rfl⟩
  intro kept hkept
  have hlength := length_normalWarning hkept
  rcases normalWarning_eq_some_iff.mp hkept with ⟨text, htext, hblank, rfl⟩
  exact ⟨text, htext, cut_isPrefix text, hlength, by simp [BeginsBlank, hblank]⟩

def indented : String :=
  String.ofList (List.replicate maxWarningLength ' ' ++ ['x'])

theorem beginsBlank_indented : BeginsBlank indented := by
  have hspace : isBlank ' ' = true := by decide
  have hletter : isBlank 'x' = false := by decide
  constructor
  · rw [isBlankText, indented, String.toList_ofList, List.all_append]
    simp [hletter]
  · rw [isBlankText, cut, indented, String.toList_ofList, String.toList_ofList,
      List.take_left' List.length_replicate]
    simp [hspace]

/-- Only blanks are kept of this warning, and they are gone when the status is read back. -/
theorem make_indented :
    (∃ kept, (make .success .success .failed (some indented)).warning = some kept ∧
        isBlankText kept = true) ∧
      (make .success .success .failed (some indented)).renewed ≠
        make .success .success .failed (some indented) := by
  have hblank := beginsBlank_indented
  constructor
  · refine ⟨cut indented, ?_, hblank.right⟩
    rw [warning_make, normalWarning_of_not_blank hblank.left]
  · intro hsame
    exact (renewed_make_iff _ _ _ _).mp hsame indented rfl hblank

end IntegrationStatus
end ReviewDesk
