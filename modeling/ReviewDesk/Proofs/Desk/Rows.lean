import Mathlib.Data.List.Induction
import ReviewDesk.Proofs.Desk.History
import ReviewDesk.Proofs.Submission

/-!
# What every row says

The fields of a review that the integrations fill agree with the statuses of the steps
that fill them.  A draft has this property when it leaves the pipeline, saving carries it
over to the row, and no other operation changes a row.
-/

namespace ReviewDesk

open Text

/-- The statuses of a review tell which of its fields are there. -/
structure Review.IsSound (r : Review) : Prop where
  accepted : Submission.validate (some r.title) (some r.content) = .ok ⟨r.title, r.content⟩
  polished : r.status.polish = .success ↔ r.improved.isSome = true
  counted : r.status.polish = .success ↔ r.tokenCount.isSome = true
  notBlank : ∀ text, r.improved = some text → isBlankText text = false
  costed : r.status.cost = .success ↔ r.usdCost.isSome = true ∧ r.krwCost.isSome = true
  uncosted : r.status.cost ≠ .success → r.usdCost = none ∧ r.krwCost = none
  archived : r.status.archive = .success ↔ r.fileId.isSome = true
  skipped : r.status.polish ≠ .success → r.status.cost = .skipped ∧ r.status.archive = .skipped
  unwarned : r.status.warning = none ↔
    r.status.polish = .success ∧ r.status.cost = .success ∧ r.status.archive = .success
  short : ∀ warning, r.status.warning = some warning → warning.length ≤ 500

/-!
# Drafts

What is true of the statuses of a row is true of its draft, whose costs are finite and
whose file has a text as its id.
-/

structure Draft.IsSound (d : Draft) : Prop where
  accepted : Submission.validate (some d.title) (some d.content) = .ok ⟨d.title, d.content⟩
  polished : d.status.polish = .success ↔ d.improved.isSome = true
  counted : d.status.polish = .success ↔ d.tokenCount.isSome = true
  notBlank : ∀ text, d.improved = some text → text.all Mark.isBlank = false
  costed : d.status.cost = .success ↔ d.costs.isSome = true
  finite : ∀ costs, d.costs = some costs →
    costs.usd.isFinite = true ∧ costs.krw.isFinite = true
  archived : d.status.archive = .success ↔ d.fileId.isSome = true
  named : ∀ id, d.fileId = some id → ∃ name, id = .string name
  skipped : d.status.polish ≠ .success → d.status.cost = .skipped ∧ d.status.archive = .skipped
  unwarned : d.status.warning = none ↔
    d.status.polish = .success ∧ d.status.cost = .success ∧ d.status.archive = .success
  short : ∀ warning, d.status.warning = some warning → warning.length ≤ 500

namespace Draft

variable {d : Draft} {r : Review}

theorem isSound_of_stored (h : d.IsSound) (hrow : d.stored = .ok r) : r.IsSound := by
  rcases stored_eq_ok hrow with
    ⟨_, htitle, hcontent, himproved, hcount, husd, hkrw, hfile, hstatus, _⟩
  have harchived : r.fileId.isSome = d.fileId.isSome := by
    rw [Column.eq_map_string_of_optional h.named hfile, Option.isSome_map]
  have husdSome : r.usdCost.isSome = d.costs.isSome := by
    rw [husd]
    cases hcosts : d.costs with
    | none => rfl
    | some costs => exact Column.isSome_money usdPlaces (h.finite costs hcosts).left
  have hkrwSome : r.krwCost.isSome = d.costs.isSome := by
    rw [hkrw]
    cases hcosts : d.costs with
    | none => rfl
    | some costs => exact Column.isSome_money krwPlaces (h.finite costs hcosts).right
  exact
    { accepted := by
        rw [htitle, hcontent]
        exact h.accepted
      polished := by
        rw [hstatus, h.polished, ← himproved, Option.isSome_map]
      counted := by
        rw [hstatus, hcount]
        exact h.counted
      notBlank := by
        intro text htext
        rw [← all_isBlank_marks]
        exact h.notBlank _ (by rw [← himproved, htext]; rfl)
      costed := by
        rw [hstatus, husdSome, hkrwSome, and_self]
        exact h.costed
      uncosted := by
        rw [hstatus, Ne, h.costed]
        intro hcosts
        have hnone : d.costs = none := by simpa using hcosts
        exact ⟨by rw [husd, hnone]; rfl, by rw [hkrw, hnone]; rfl⟩
      archived := by
        rw [hstatus, harchived]
        exact h.archived
      skipped := by
        rw [hstatus]
        exact h.skipped
      unwarned := by
        rw [hstatus]
        exact h.unwarned
      short := by
        rw [hstatus]
        exact h.short }

end Draft

def Outside.NamesFiles (w : Outside) : Prop :=
  ∀ id, Archive.uploadResult w.upload = .ok (.success id) → ∃ name, id = .string name

namespace Desk

variable {d : Desk} {w : Outside} {s : Submission}

/-!
# The draft of an attempt
-/

theorem statusOf_eq_success_iff {α : Type} (outcome : Outcome α) :
    statusOf (some outcome) = .success ↔ outcome.value?.isSome = true := by
  cases outcome with
  | success value =>
      simp [statusOf, StepStatus.ofOutcome, Outcome.value?]
  | failure reason detail =>
      cases reason <;> simp [statusOf, StepStatus.ofOutcome, Outcome.value?]

theorem costStep_ending_iff (d : Desk) (w : Outside) (p : Polished) :
    statusOf (some (d.costStep w p).ending) = .success ↔
      (d.costStep w p).costs.isSome = true := by
  rw [statusOf_eq_success_iff]
  rcases costStep_cases d w p with ⟨e, krw, _, _, hcosts, hending⟩ | ⟨hcosts, _, _, hending⟩
  · rw [hcosts, hending]
    rfl
  · rw [hcosts, hending]
    rfl

theorem notBlank_of_polished {p : Polished} (h : d.polished w s = .success p) :
    p.content.all Mark.isBlank = false := by
  rcases Polisher.improve_eq_success h with ⟨reply, text, _, _, hclean, hne⟩
  rw [hclean] at hne ⊢
  exact Reasoning.not_all_isBlank_clean hne

theorem attempt_isSound (hprices : d.prices.AreFinite) (hoffice : d.office.KeepsValid)
    (hfiles : w.NamesFiles) (new : Identity) {title content : Option (List Mark)}
    (hs : Submission.validate title content = .ok s) : (d.attempt w new s).draft.IsSound := by
  have haccepted := Submission.validate_accepted hs
  cases hpolished : d.polished w s with
  | success p =>
      rw [draft_of_polished new hpolished]
      exact
        { accepted := haccepted
          polished := by simp [statusFor, IntegrationStatus.make, statusOf, StepStatus.ofOutcome]
          counted := by simp [statusFor, IntegrationStatus.make, statusOf, StepStatus.ofOutcome]
          notBlank := by
            intro text htext
            cases htext
            exact notBlank_of_polished hpolished
          costed := costStep_ending_iff d w p
          finite := fun costs hcosts => isFinite_costStep hprices hoffice hcosts
          archived := statusOf_eq_success_iff _
          named := fun id hid => hfiles id ((uploadStep_value? w id).mp hid).right
          skipped := fun h => absurd rfl h
          unwarned := warning_statusFor_eq_none_iff _ _ _
          short := fun warning h => length_warning_statusFor h }
  | failure reason detail =>
      rw [draft_of_not_polished new hpolished]
      have hfailed :
          statusOf (some (Outcome.failure reason detail : Outcome Polished)) ≠ .success := by
        rw [Ne, statusOf_eq_success_iff]
        simp [Outcome.value?]
      exact
        { accepted := haccepted
          polished := by simpa [statusFor, IntegrationStatus.make] using hfailed
          counted := by simpa [statusFor, IntegrationStatus.make] using hfailed
          notBlank := by
            intro text htext
            cases htext
          costed := by simp [statusFor, IntegrationStatus.make, statusOf]
          finite := by
            intro costs hcosts
            cases hcosts
          archived := by simp [statusFor, IntegrationStatus.make, statusOf]
          named := by
            intro id hid
            cases hid
          skipped := fun _ => ⟨rfl, rfl⟩
          unwarned := warning_statusFor_eq_none_iff _ _ _
          short := fun warning h => length_warning_statusFor h }

theorem create_isSound (hprices : d.prices.AreFinite) (hoffice : d.office.KeepsValid)
    (hfiles : w.NamesFiles) {new : Identity} {title content : Option (List Mark)} {c : Creation}
    (h : (d.create w new title content).2.2 = .ok c) : c.review.IsSound := by
  rcases create_eq_ok h with ⟨s, hs, hrow⟩
  exact Draft.isSound_of_stored (attempt_isSound hprices hoffice hfiles new hs) hrow

/-!
# Rows along a history
-/

structure KeepsSound (d : Desk) : Prop where
  prices : d.prices.AreFinite
  office : d.office.KeepsValid
  rows : ∀ r ∈ d.store.rows, r.IsSound

theorem settings_of_ended {after : Desk} {requests : List Request}
    {result : Except CreationFailure Creation} (h : Ended d w after requests result) :
    after.prices = d.prices ∧ (d.office.KeepsValid → after.office.KeepsValid) := by
  cases h with
  | turnedAway rejection => exact ⟨rfl, id⟩
  | saved hattempt hrow hfree => exact ⟨hattempt.prices, hattempt.office⟩
  | takenBack hattempt => exact ⟨hattempt.prices, hattempt.office⟩
  | brokenOff hattempt fault => exact ⟨hattempt.prices, hattempt.office⟩

theorem keepsSound_of_ended {after : Desk} {requests : List Request}
    {result : Except CreationFailure Creation} (h : d.KeepsSound)
    (hended : Ended d w after requests result)
    (hsaved : ∀ c, result = .ok c → c.review.IsSound) : after.KeepsSound := by
  rcases settings_of_ended hended with ⟨hprices, hoffice⟩
  refine ⟨by rw [hprices]; exact h.prices, hoffice h.office, ?_⟩
  intro r hr
  rcases mem_rows_of_ended hended hr with hold | hnew
  · exact h.rows r hold
  · cases result with
    | ok c =>
        cases hnew
        exact hsaved c rfl
    | error failure => cases hnew

theorem keepsSound_delete (h : d.KeepsSound) (w : Outside) (id : String) :
    (d.delete w id).1.KeepsSound := by
  have hrows : ∀ r ∈ (d.delete w id).1.store.rows, r.IsSound :=
    fun r hr => h.rows r (mem_rows_of_delete hr)
  cases hfound : d.find? id with
  | none =>
      rw [delete_of_missing hfound]
      exact h
  | some r =>
      have hcleared := removeFileOf_cleared d w r
      rw [(delete_of_found hfound w).left] at hrows ⊢
      exact ⟨by rw [hcleared.prices]; exact h.prices, by rw [hcleared.office]; exact h.office,
        hrows⟩

end Desk

def Operation.NamesFiles : Operation → Prop
  | create w _ _ _ => w.NamesFiles
  | _ => True

namespace Desk

variable {d : Desk}

theorem keepsSound_perform (h : d.KeepsSound) {op : Operation} (hfiles : op.NamesFiles) :
    (d.perform op).1.KeepsSound := by
  cases op with
  | create w new title content =>
      simp only [perform_create]
      exact keepsSound_of_ended h (create_ended d w new title content)
        fun c hc => create_isSound h.prices h.office hfiles hc
  | delete w id =>
      simp only [perform_delete]
      exact keepsSound_delete h w id
  | get id =>
      exact h
  | list =>
      exact h
  | vanish ids =>
      exact ⟨h.prices, h.office, fun r hr => h.rows r (Store.mem_eraseAll.mp hr).left⟩

/-- Whatever the outside does during a history that begins without rows, the statuses
of every row tell which of its fields are there. -/
theorem course_rows_isSound (hprices : d.prices.AreFinite) (hoffice : d.office.KeepsValid)
    (hempty : d.store = .empty) {ops : List Operation} (hfiles : ∀ op ∈ ops, op.NamesFiles) :
    ∀ r ∈ (d.course ops).desk.store.rows, r.IsSound := by
  suffices hkeeps : (d.course ops).desk.KeepsSound from hkeeps.rows
  induction ops using List.reverseRecOn with
  | nil =>
      refine ⟨hprices, hoffice, ?_⟩
      intro r hr
      rw [course_nil, hempty] at hr
      cases hr
  | append_singleton ops op ih =>
      rw [course_snoc]
      have hbefore := ih fun other hmem => hfiles other (List.mem_append_left [op] hmem)
      exact keepsSound_perform hbefore (hfiles op (by simp))

def mixed : List Operation :=
  [.create .fair ⟨"r1", ⟨0⟩⟩ (some " 书 ") (some "好"), .list,
    .create { Outside.fair with polish := .error (.model .timeout "timed out") } ⟨"r2", ⟨1⟩⟩
      (some "题") (some "文")]

theorem course_rows_isSound_mixed :
    (furnished.course mixed).desk.store.rows.map (·.status.polish) = [.success, .failed] ∧
      ∀ r ∈ (furnished.course mixed).desk.store.rows, r.IsSound := by
  have hprices : furnished.prices.AreFinite := by
    intro entry hentry
    simp only [furnished, Pricing.standard, List.mem_cons, List.not_mem_nil, or_false] at hentry
    rcases hentry with rfl | rfl
    · exact ⟨rfl, rfl⟩
    · exact ⟨rfl, rfl⟩
  have hoffice : furnished.office.KeepsValid := Office.keepsValid_make _ _ _ _ _
  have hfiles : ∀ op ∈ mixed, op.NamesFiles := by
    intro op hop
    simp only [mixed, List.mem_cons, List.not_mem_nil, or_false] at hop
    rcases hop with rfl | rfl | rfl
    · intro id hid
      cases hid
      exact ⟨_, rfl⟩
    · trivial
    · intro id hid
      cases hid
      exact ⟨_, rfl⟩
  exact ⟨by rfl, course_rows_isSound hprices hoffice rfl hfiles⟩

end Desk
end ReviewDesk
