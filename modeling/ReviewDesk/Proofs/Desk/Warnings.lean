import ReviewDesk.Desk.Creation

/-!
# Statuses and warnings

A step that did not succeed has a warning, which begins with the title of the step, and
a step that succeeded has none.  Joined warnings are therefore missing only when every
step succeeded; they are never blank, and each is a short line, so the status of a review
keeps them as they are.
-/

namespace ReviewDesk

namespace Text

@[simp] theorem isBlankText_append (s t : String) :
    isBlankText (s ++ t) = (isBlankText s && isBlankText t) := by
  simp [isBlankText]

/-!
# Lines
-/

def lines (s : String) : List String :=
  (s.toList.splitOn '\n').map String.ofList

theorem lines_intercalate {ls : List String} (hne : ls ≠ [])
    (h : ∀ line ∈ ls, '\n' ∉ line.toList) : lines ("\n".intercalate ls) = ls := by
  have hsplit : (['\n'].intercalate (ls.map String.toList)).splitOn '\n' = ls.map String.toList :=
    List.splitOn_intercalate '\n' (by simpa using h) (by simpa using hne)
  have hjoined : ("\n".intercalate ls).toList = ['\n'].intercalate (ls.map String.toList) :=
    String.toList_intercalate
  rw [lines, hjoined, hsplit, List.map_map]
  simp [Function.comp_def]

/-- The text is one line of at most this length. -/
def IsLine (n : Nat) (s : String) : Prop :=
  s.length ≤ n ∧ '\n' ∉ s.toList

theorem IsLine.mono {m n : Nat} {s : String} (h : IsLine m s) (hmn : m ≤ n) : IsLine n s :=
  ⟨Nat.le_trans h.left hmn, h.right⟩

theorem IsLine.append {m n : Nat} {s t : String} (hs : IsLine m s) (ht : IsLine n t) :
    IsLine (m + n) (s ++ t) := by
  constructor
  · rw [String.length_append]
    exact Nat.add_le_add hs.left ht.left
  · rw [String.toList_append, List.mem_append]
    rintro (hleft | hright)
    · exact hs.right hleft
    · exact ht.right hright

theorem length_intercalate_le (separator : String) {n : Nat} {ls : List String}
    (h : ∀ line ∈ ls, line.length ≤ n) :
    (separator.intercalate ls).length ≤ ls.length * (n + separator.length) := by
  induction ls with
  | nil =>
      simp
  | cons first rest ih =>
      have hfirst : first.length ≤ n := h first List.mem_cons_self
      cases rest with
      | nil =>
          simp
          omega
      | cons second rest =>
          have hrest := ih fun line hline => h line (List.mem_cons_of_mem first hline)
          rw [String.intercalate_cons_cons, String.length_append, String.length_append,
            List.length_cons, Nat.add_mul]
          omega

end Text

open Text

namespace Step

theorem not_isBlankText_title (step : Step) : isBlankText step.title = false := by
  cases step <;> decide

theorem title_injective : Function.Injective title := by
  have hfind : ∀ step : Step, [polish, cost, archive].find? (·.title == step.title) = some step := by
    intro step
    cases step with
    | polish => rfl
    | cost => rfl
    | archive => rfl
  intro step other h
  apply Option.some.inj
  rw [← hfind step, h, hfind other]

theorem isLine_title (step : Step) : IsLine 20 step.title := by
  cases step with
  | polish => exact ⟨by decide, by decide⟩
  | cost => exact ⟨by decide, by decide⟩
  | archive => exact ⟨by decide, by decide⟩

end Step

namespace FailureReason

theorem wording_injective : Function.Injective wording := by
  have hfind : ∀ reason, all.find? (·.wording == reason.wording) = some reason := by
    intro reason
    cases reason with
    | notConfigured => rfl
    | timeout => rfl
    | unavailable => rfl
    | rateLimited => rfl
    | insufficientQuota => rfl
    | unauthorized => rfl
    | invalidResponse => rfl
  intro reason other h
  apply Option.some.inj
  rw [← hfind reason, h, hfind other]

theorem isLine_wording (reason : FailureReason) : IsLine 20 reason.wording := by
  cases reason with
  | notConfigured => exact ⟨by decide, by decide⟩
  | timeout => exact ⟨by decide, by decide⟩
  | unavailable => exact ⟨by decide, by decide⟩
  | rateLimited => exact ⟨by decide, by decide⟩
  | insufficientQuota => exact ⟨by decide, by decide⟩
  | unauthorized => exact ⟨by decide, by decide⟩
  | invalidResponse => exact ⟨by decide, by decide⟩

end FailureReason

namespace Warning

theorem failed_inj {title : String} {reason other : FailureReason} :
    failed title reason = failed title other ↔ reason = other := by
  constructor
  · intro h
    apply FailureReason.wording_injective
    rw [failed, failed, ← String.toList_inj] at h
    exact String.toList_inj.mp (by simpa using h)
  · rintro rfl
    rfl

end Warning

namespace Desk

variable {α : Type}

/-!
# The warning about one step
-/

theorem warningOf_not_called (step : Step) :
    warningOf step (none : Option (Outcome α)) = some (Warning.notPolished step.title) :=
  rfl

theorem warningOf_success (step : Step) (value : α) :
    warningOf step (some (.success value)) = none :=
  rfl

theorem warningOf_not_configured (step : Step) (detail : Json) :
    warningOf step (some (.failure .notConfigured detail : Outcome α)) =
      some (Warning.notConfigured step.title) :=
  rfl

theorem warningOf_failure (step : Step) {reason : FailureReason} (h : reason ≠ .notConfigured)
    (detail : Json) :
    warningOf step (some (.failure reason detail : Outcome α)) =
      some (Warning.failed step.title reason) := by
  cases reason with
  | notConfigured => exact absurd rfl h
  | timeout => rfl
  | unavailable => rfl
  | rateLimited => rfl
  | insufficientQuota => rfl
  | unauthorized => rfl
  | invalidResponse => rfl

theorem warningOf_eq (step : Step) (o : Option (Outcome α)) :
    (statusOf o = .success ∧ warningOf step o = none) ∨
      (statusOf o ≠ .success ∧ ∃ said, warningOf step o = some (step.title ++ said)) := by
  cases o with
  | none =>
      exact Or.inr ⟨by simp [statusOf], _, warningOf_not_called step⟩
  | some outcome =>
      cases outcome with
      | success value =>
          exact Or.inl ⟨rfl, warningOf_success step value⟩
      | failure reason detail =>
          apply Or.inr
          by_cases hreason : reason = .notConfigured
          · subst hreason
            exact ⟨by simp [statusOf, StepStatus.ofOutcome], _,
              warningOf_not_configured step detail⟩
          · constructor
            · cases reason <;> simp [statusOf, StepStatus.ofOutcome]
            · rw [warningOf_failure step hreason, Warning.failed]
              exact ⟨_, by rw [String.append_assoc, String.append_assoc]⟩

theorem warningOf_eq_none_iff (step : Step) (o : Option (Outcome α)) :
    warningOf step o = none ↔ statusOf o = .success := by
  rcases warningOf_eq step o with ⟨hstatus, hnone⟩ | ⟨hstatus, said, hsome⟩
  · simp [hstatus, hnone]
  · simp [hstatus, hsome]

theorem not_isBlankText_warningOf {step : Step} {o : Option (Outcome α)} {warning : String}
    (h : warningOf step o = some warning) : isBlankText warning = false := by
  rcases warningOf_eq step o with ⟨_, hnone⟩ | ⟨_, said, hsome⟩
  · rw [hnone] at h
    cases h
  · rw [hsome] at h
    cases h
    simp [Step.not_isBlankText_title step]

def lineLength : Nat := 60

theorem isLine_warningOf {step : Step} {o : Option (Outcome α)} {warning : String}
    (h : warningOf step o = some warning) : IsLine lineLength warning := by
  have htitle := step.isLine_title
  cases o with
  | none =>
      rw [warningOf_not_called] at h
      cases h
      exact (htitle.append (n := 20) ⟨by decide, by decide⟩).mono (by decide)
  | some outcome =>
      cases outcome with
      | success value =>
          rw [warningOf_success] at h
          cases h
      | failure reason detail =>
          by_cases hreason : reason = .notConfigured
          · subst hreason
            rw [warningOf_not_configured] at h
            cases h
            exact (htitle.append (n := 20) ⟨by decide, by decide⟩).mono (by decide)
          · rw [warningOf_failure step hreason] at h
            cases h
            exact ((htitle.append (n := 10) ⟨by decide, by decide⟩).append
              reason.isLine_wording).append (n := 10) ⟨by decide, by decide⟩

/-!
# Joined warnings
-/

theorem joinWarnings_eq_none_iff (warnings : List (Option String)) :
    joinWarnings warnings = none ↔ ∀ warning ∈ warnings, warning = none := by
  unfold joinWarnings
  split
  · rename_i hnone
    rw [List.filterMap_eq_nil_iff] at hnone
    exact ⟨fun _ warning hwarning => by simpa using hnone warning hwarning, fun _ => rfl⟩
  · rename_i hsome
    constructor
    · intro h
      cases h
    · intro h
      exact absurd (List.filterMap_eq_nil_iff.mpr fun warning hwarning => h warning hwarning) hsome

theorem joinWarnings_eq_some_iff {warnings : List (Option String)} {text : String} :
    joinWarnings warnings = some text ↔
      warnings.filterMap id ≠ [] ∧ text = "\n".intercalate (warnings.filterMap id) := by
  unfold joinWarnings
  split
  · rename_i hnone
    simp only [reduceCtorEq, false_iff, not_and]
    exact fun hsome => absurd hnone hsome
  · rename_i hsome
    simp only [Option.some.injEq]
    exact ⟨fun h => ⟨hsome, h.symm⟩, fun h => h.right.symm⟩

theorem not_isBlankText_intercalate {first separator : String} (rest : List String)
    (h : isBlankText first = false) :
    isBlankText (separator.intercalate (first :: rest)) = false := by
  cases rest with
  | nil => simpa using h
  | cons second rest => simp [h]

theorem not_isBlankText_joinWarnings {warnings : List (Option String)} {text : String}
    (hwarnings : ∀ warning, some warning ∈ warnings → isBlankText warning = false)
    (h : joinWarnings warnings = some text) : isBlankText text = false := by
  rcases joinWarnings_eq_some_iff.mp h with ⟨hne, rfl⟩
  cases hsome : warnings.filterMap id with
  | nil =>
      exact absurd hsome hne
  | cons first rest =>
      have hkept : some first ∈ warnings := by
        have hmem : first ∈ warnings.filterMap id := by
          rw [hsome]
          exact List.mem_cons_self
        rcases List.mem_filterMap.mp hmem with ⟨warning, hwarning, hfirst⟩
        rw [id_eq] at hfirst
        rw [← hfirst]
        exact hwarning
      exact not_isBlankText_intercalate rest (hwarnings first hkept)

end Desk

namespace IntegrationStatus

/-!
# Kept warnings
-/

theorem normalWarning_eq_self {text : String} (hblank : isBlankText text = false)
    (hshort : text.length ≤ maxWarningLength) : normalWarning (some text) = some text := by
  have hwhole : text.toList.take maxWarningLength = text.toList :=
    List.take_of_length_le (by rwa [String.length_toList])
  simp [normalWarning, hblank, hwhole]

theorem length_normalWarning {warning : Option String} {text : String}
    (h : normalWarning warning = some text) : text.length ≤ maxWarningLength := by
  unfold normalWarning at h
  split at h
  · cases h
  · split at h
    · cases h
    · cases h
      rw [String.length_ofList]
      exact List.length_take_le _ _

end IntegrationStatus

namespace Desk

/-!
# The status of a pipeline
-/

variable {α β γ : Type}

def statusFor (polished : Option (Outcome α)) (cost : Option (Outcome β))
    (archived : Option (Outcome γ)) : IntegrationStatus :=
  .make (statusOf polished) (statusOf cost) (statusOf archived)
    (joinWarnings [warningOf .polish polished, warningOf .cost cost, warningOf .archive archived])

theorem warning_statusFor (polished : Option (Outcome α)) (cost : Option (Outcome β))
    (archived : Option (Outcome γ)) :
    (statusFor polished cost archived).warning =
      joinWarnings [warningOf .polish polished, warningOf .cost cost,
        warningOf .archive archived] := by
  have hblank : ∀ text, some text ∈ [warningOf .polish polished, warningOf .cost cost,
      warningOf .archive archived] → isBlankText text = false := by
    intro text hmem
    simp only [List.mem_cons, List.not_mem_nil, or_false] at hmem
    rcases hmem with h | h | h
    · exact not_isBlankText_warningOf h.symm
    · exact not_isBlankText_warningOf h.symm
    · exact not_isBlankText_warningOf h.symm
  have hshort : ∀ line ∈ [warningOf .polish polished, warningOf .cost cost,
      warningOf .archive archived].filterMap id, line.length ≤ lineLength := by
    intro line hline
    simp only [List.mem_filterMap, List.mem_cons, List.not_mem_nil, or_false, id_eq,
      exists_eq_right] at hline
    rcases hline with h | h | h
    · exact (isLine_warningOf h.symm).left
    · exact (isLine_warningOf h.symm).left
    · exact (isLine_warningOf h.symm).left
  rw [statusFor, IntegrationStatus.make]
  cases hjoined : joinWarnings [warningOf .polish polished, warningOf .cost cost,
      warningOf .archive archived] with
  | none => rfl
  | some text =>
      apply IntegrationStatus.normalWarning_eq_self
      · exact not_isBlankText_joinWarnings hblank hjoined
      · have hcount := List.length_filterMap_le id [warningOf .polish polished,
          warningOf .cost cost, warningOf .archive archived]
        have hlength := length_intercalate_le "\n" hshort
        rw [← (joinWarnings_eq_some_iff.mp hjoined).right] at hlength
        calc text.length ≤ _ := hlength
          _ ≤ 3 * (lineLength + "\n".length) := Nat.mul_le_mul_right _ hcount
          _ ≤ IntegrationStatus.maxWarningLength := by decide

theorem warning_statusFor_eq_none_iff (polished : Option (Outcome α)) (cost : Option (Outcome β))
    (archived : Option (Outcome γ)) :
    (statusFor polished cost archived).warning = none ↔
      statusOf polished = .success ∧ statusOf cost = .success ∧ statusOf archived = .success := by
  rw [warning_statusFor, joinWarnings_eq_none_iff]
  simp [warningOf_eq_none_iff]

theorem length_warning_statusFor {polished : Option (Outcome α)} {cost : Option (Outcome β)}
    {archived : Option (Outcome γ)} {text : String}
    (h : (statusFor polished cost archived).warning = some text) :
    text.length ≤ IntegrationStatus.maxWarningLength :=
  IntegrationStatus.length_normalWarning h

end Desk
end ReviewDesk
