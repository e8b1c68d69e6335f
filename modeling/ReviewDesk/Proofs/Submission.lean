import ReviewDesk.Proofs.Text.Blank
import ReviewDesk.Submission

/-!
# Checked submissions

What passes the checks is the trimmed title and the trimmed content.  Since trimming
a trimmed text changes nothing, a submission that passed once passes again as it is.
The title is checked first, so it is the title that is refused whenever it does not fit,
whatever the content is.
-/

namespace ReviewDesk
namespace Submission

open Text

def given (value : Option (List Mark)) : List Mark :=
  value.getD []

def bare (value : Option (List Mark)) : List Mark :=
  trim Mark.isBlank (given value)

theorem validate_eq (title content : Option (List Mark)) :
    validate title content =
      match checkTitle (bare title), checkContent (bare content) with
      | .error rejection, _ => .error rejection
      | .ok (), .error rejection => .error rejection
      | .ok (), .ok () => .ok ⟨bare title, bare content⟩ := by
  simp only [validate, bare, given, bind, Except.bind]
  cases checkTitle (trim Mark.isBlank (title.getD [])) with
  | error rejection => rfl
  | ok _ =>
      cases checkContent (trim Mark.isBlank (content.getD [])) with
      | error rejection => rfl
      | ok _ => rfl

theorem validate_eq_ok_iff {title content : Option (List Mark)} {s : Submission} :
    validate title content = .ok s ↔
      s = ⟨bare title, bare content⟩ ∧
        checkTitle s.title = .ok () ∧ checkContent s.content = .ok () := by
  rw [validate_eq]
  constructor
  · intro h
    split at h
    · cases h
    · cases h
    · rename_i htitle hcontent
      cases h
      exact ⟨rfl, htitle, hcontent⟩
  · rintro ⟨rfl, htitle, hcontent⟩
    simp only [htitle, hcontent]

theorem validate_accepted {title content : Option (List Mark)} {s : Submission}
    (h : validate title content = .ok s) :
    validate (some s.title) (some s.content) = .ok s := by
  rcases validate_eq_ok_iff.mp h with ⟨rfl, htitle, hcontent⟩
  rw [validate_eq_ok_iff]
  refine ⟨?_, htitle, hcontent⟩
  simp [bare, given]

/-!
# What fits

Lengths are counted in marks, after trimming.
-/

def FitsTitle (title : List Mark) : Prop :=
  1 ≤ title.length ∧ title.length ≤ 100 ∧
    ∀ c ∈ ['\\', '/', ':', '*', '?', '"', '<', '>', '|', '#', '%'], .char c ∉ title

def FitsContent (content : List Mark) : Prop :=
  1 ≤ content.length ∧ content.length ≤ 5000

theorem isEmpty_eq_false_iff (ms : List Mark) : ms.isEmpty = false ↔ 1 ≤ ms.length := by
  rw [Nat.one_le_iff_ne_zero, Ne, List.length_eq_zero_iff, ← List.isEmpty_iff]
  simp

theorem isForbidden_iff {m : Mark} :
    isForbidden m = true ↔ ∃ c ∈ forbiddenTitleChars, m = .char c := by
  cases m with
  | half unit => simp [isForbidden, Mark.char?]
  | char c => simp [isForbidden, Mark.char?]

theorem any_isForbidden_eq_false_iff (ms : List Mark) :
    ms.any isForbidden = false ↔ ∀ c ∈ forbiddenTitleChars, .char c ∉ ms := by
  rw [List.any_eq_false]
  constructor
  · intro h c hforbidden hc
    exact h (.char c) hc (isForbidden_iff.mpr ⟨c, hforbidden, rfl⟩)
  · intro h m hm hforbidden
    rcases isForbidden_iff.mp hforbidden with ⟨c, hc, rfl⟩
    exact h c hc hm

theorem fitsTitle_iff {title : List Mark} :
    FitsTitle title ↔ title.isEmpty = false ∧ title.length ≤ maxTitleLength ∧
      title.any isForbidden = false := by
  rw [isEmpty_eq_false_iff, any_isForbidden_eq_false_iff]
  rfl

theorem fitsContent_iff {content : List Mark} :
    FitsContent content ↔ content.isEmpty = false ∧ content.length ≤ maxContentLength := by
  rw [isEmpty_eq_false_iff]
  rfl

theorem checkTitle_eq_ok_iff {title : List Mark} : checkTitle title = .ok () ↔ FitsTitle title := by
  rw [fitsTitle_iff, checkTitle]
  cases hempty : title.isEmpty with
  | true => simp
  | false =>
      by_cases hlong : maxTitleLength < title.length
      · simp [hlong, Nat.not_le.mpr hlong]
      · cases hany : title.any isForbidden with
        | true => simp [hlong]
        | false => simp [hlong, Nat.not_lt.mp hlong]

theorem checkContent_eq_ok_iff {content : List Mark} :
    checkContent content = .ok () ↔ FitsContent content := by
  rw [fitsContent_iff, checkContent]
  cases hempty : content.isEmpty with
  | true => simp
  | false =>
      by_cases hlong : maxContentLength < content.length
      · simp [hlong, Nat.not_le.mpr hlong]
      · simp [hlong, Nat.not_lt.mp hlong]

theorem field_of_checkTitle {title : List Mark} {rejection : Rejection}
    (h : checkTitle title = .error rejection) : rejection.field = .title := by
  unfold checkTitle at h
  split at h
  · cases h
    rfl
  · split at h
    · cases h
      rfl
    · split at h
      · cases h
        rfl
      · cases h

theorem field_of_checkContent {content : List Mark} {rejection : Rejection}
    (h : checkContent content = .error rejection) : rejection.field = .originalContent := by
  unfold checkContent at h
  split at h
  · cases h
    rfl
  · split at h
    · cases h
      rfl
    · cases h

theorem exists_checkTitle_error {title : List Mark} (h : ¬ FitsTitle title) :
    ∃ rejection, checkTitle title = .error rejection ∧ rejection.field = .title := by
  cases hcheck : checkTitle title with
  | ok _ => exact absurd (checkTitle_eq_ok_iff.mp hcheck) h
  | error rejection => exact ⟨rejection, rfl, field_of_checkTitle hcheck⟩

theorem exists_checkContent_error {content : List Mark} (h : ¬ FitsContent content) :
    ∃ rejection, checkContent content = .error rejection ∧
      rejection.field = .originalContent := by
  cases hcheck : checkContent content with
  | ok _ => exact absurd (checkContent_eq_ok_iff.mp hcheck) h
  | error rejection => exact ⟨rejection, rfl, field_of_checkContent hcheck⟩

/-!
# Decisions
-/

theorem validate_eq_error_iff {title content : Option (List Mark)} {rejection : Rejection} :
    validate title content = .error rejection ↔
      checkTitle (bare title) = .error rejection ∨
        (checkTitle (bare title) = .ok () ∧
          checkContent (bare content) = .error rejection) := by
  rw [validate_eq]
  cases checkTitle (bare title) with
  | error other => simp
  | ok _ =>
      cases checkContent (bare content) with
      | error other => simp
      | ok _ => simp

theorem refused_iff (title content : Option (List Mark)) (field : Field) :
    (∃ rejection, validate title content = .error rejection ∧ rejection.field = field) ↔
      (¬ FitsTitle (bare title) ∧ field = .title) ∨
        (FitsTitle (bare title) ∧ ¬ FitsContent (bare content) ∧
          field = .originalContent) := by
  constructor
  · rintro ⟨rejection, hrefused, rfl⟩
    rcases validate_eq_error_iff.mp hrefused with htitle | ⟨htitle, hcontent⟩
    · apply Or.inl
      refine ⟨fun hfits => ?_, field_of_checkTitle htitle⟩
      rw [checkTitle_eq_ok_iff.mpr hfits] at htitle
      cases htitle
    · apply Or.inr
      refine ⟨checkTitle_eq_ok_iff.mp htitle, fun hfits => ?_, field_of_checkContent hcontent⟩
      rw [checkContent_eq_ok_iff.mpr hfits] at hcontent
      cases hcontent
  · rintro (⟨htitle, rfl⟩ | ⟨htitle, hcontent, rfl⟩)
    · rcases exists_checkTitle_error htitle with ⟨rejection, hcheck, hfield⟩
      exact ⟨rejection, validate_eq_error_iff.mpr (Or.inl hcheck), hfield⟩
    · rcases exists_checkContent_error hcontent with ⟨rejection, hcheck, hfield⟩
      have hpassed := checkTitle_eq_ok_iff.mpr htitle
      exact ⟨rejection, validate_eq_error_iff.mpr (Or.inr ⟨hpassed, hcheck⟩), hfield⟩

theorem accepted_iff (title content : Option (List Mark)) (s : Submission) :
    validate title content = .ok s ↔
      FitsTitle (bare title) ∧ FitsContent (bare content) ∧
        s = ⟨bare title, bare content⟩ := by
  rw [validate_eq_ok_iff]
  constructor
  · rintro ⟨rfl, htitle, hcontent⟩
    exact ⟨checkTitle_eq_ok_iff.mp htitle, checkContent_eq_ok_iff.mp hcontent, rfl⟩
  · rintro ⟨htitle, hcontent, rfl⟩
    exact ⟨rfl, checkTitle_eq_ok_iff.mpr htitle, checkContent_eq_ok_iff.mpr hcontent⟩

theorem validate_congr {title title' content content' : Option (List Mark)}
    (htitle : bare title' = bare title) (hcontent : bare content' = bare content) :
    validate title' content' = validate title content := by
  rw [validate_eq, validate_eq, htitle, hcontent]

/-- What is accepted, what a refusal names, and that blanks around a value, or a second
check, make no difference. -/
theorem validate_decides (title content : Option (List Mark)) :
    ∃ t c : List Mark, Stripped Mark.isBlank (given title) t ∧
      Stripped Mark.isBlank (given content) c ∧
      (∀ s, validate title content = .ok s ↔ FitsTitle t ∧ FitsContent c ∧ s = ⟨t, c⟩) ∧
      (∀ field, (∃ rejection, validate title content = .error rejection ∧
          rejection.field = field) ↔
        (¬ FitsTitle t ∧ field = .title) ∨
          (FitsTitle t ∧ ¬ FitsContent c ∧ field = .originalContent)) ∧
      (∀ title' content', Padded Mark.isBlank (given title) (given title') →
        Padded Mark.isBlank (given content) (given content') →
          validate title' content' = validate title content) ∧
      ∀ s, validate title content = .ok s → validate (some s.title) (some s.content) = .ok s := by
  refine ⟨bare title, bare content, stripped_trim _,
    stripped_trim _, accepted_iff title content, refused_iff title content, ?_, ?_⟩
  · intro title' content' htitle hcontent
    exact validate_congr (trim_of_padded htitle) (trim_of_padded hcontent)
  · intro s haccepted
    exact validate_accepted haccepted

theorem validate_decides_padded :
    validate (some "\u3000Emma\t") (some "\nGood.\u2003") = .ok ⟨"Emma", "Good."⟩ ∧
      validate (some "Emma") (some "Good.") = .ok ⟨"Emma", "Good."⟩ := by
  rcases validate_decides (some "Emma") (some "Good.") with ⟨t, c, _, _, _, _, hpadded, _⟩
  have haccepted : validate (some "Emma") (some "Good.") = .ok ⟨"Emma", "Good."⟩ := by decide
  have htitle : Padded Mark.isBlank (given (some "Emma")) (given (some "\u3000Emma\t")) :=
    ⟨[.char '\u3000'], [.char '\t'], by decide, List.forall_mem_singleton.mpr (by decide),
      List.forall_mem_singleton.mpr (by decide)⟩
  have hcontent : Padded Mark.isBlank (given (some "Good.")) (given (some "\nGood.\u2003")) :=
    ⟨[.char '\n'], [.char '\u2003'], by decide, List.forall_mem_singleton.mpr (by decide),
      List.forall_mem_singleton.mpr (by decide)⟩
  exact ⟨(hpadded _ _ htitle hcontent).trans haccepted, haccepted⟩

end Submission
end ReviewDesk
