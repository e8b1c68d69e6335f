import ReviewDesk.Proofs.Desk.Ledger
import ReviewDesk.Proofs.Review.Display
import ReviewDesk.Web.View

/-!
# Views of rows

Every review that is created can be shown, as long as its creation time can, and it is
shown with its id and with the statuses that its creation reported.  A list of rows that
can be shown is shown row by row.
-/

namespace ReviewDesk

/-!
# Statuses that are read back
-/

theorem Desk.renewed_statusFor {α β γ : Type} (polished : Option (Outcome α))
    (cost : Option (Outcome β)) (archived : Option (Outcome γ)) :
    (statusFor polished cost archived).renewed = statusFor polished cost archived := by
  rw [IntegrationStatus.renewed, warning_statusFor]
  rfl

namespace Review

def IsViewable (r : Review) : Prop :=
  ∃ view, View.review r = .ok view

def view (r : Review) : Json :=
  match View.review r with
  | .ok view => view
  | .error _ => .null

theorem view_eq {r : Review} (h : r.IsViewable) : View.review r = .ok r.view := by
  rcases h with ⟨view, hview⟩
  simp [Review.view, hview]

end Review

namespace View

/-!
# Members of views
-/

theorem review_members {r : Review} (h : r.IsViewable) :
    r.view.member? "id" = some (.string r.id) ∧
      r.view.member? "integration_status" = some (status r.status.renewed) := by
  rcases h with ⟨view, hview⟩
  rcases bind_eq_ok_iff.mp hview with ⟨krw, hkrw, hrest⟩
  rcases bind_eq_ok_iff.mp hrest with ⟨shown, hshown, _⟩
  simp [Review.view, review, hkrw, hshown, bind, Except.bind, pure, Except.pure, Json.member?,
    List.lookup_cons]

theorem creation_members {c : Creation} (h : c.review.IsViewable) :
    ∃ v, creation c = .ok v ∧ v.member? "saved_review_id" = some (.string c.review.id) ∧
      v.member? "integration_status" = some (status c.status) ∧
      v.member? "review" = some c.review.view := by
  have hview := Review.view_eq h
  refine ⟨_, by simp only [creation, hview]; rfl, ?_⟩
  simp [Json.member?, List.lookup_cons]

/-!
# Lists
-/

theorem reviews_eq {rs : List Review} (h : ∀ r ∈ rs, r.IsViewable) :
    reviews rs = .ok (rs.map Review.view) := by
  induction rs with
  | nil => rfl
  | cons r rest ih =>
      have hfirst := Review.view_eq (h r (by simp))
      have hrest := ih fun other hother => h other (by simp [hother])
      simp [reviews, hfirst, hrest, bind, Except.bind, pure, Except.pure]

theorem listing_eq {rs : List Review} (h : ∀ r ∈ rs, r.IsViewable) :
    listing rs =
      .ok (.object [("items", .array (rs.map Review.view)), ("total", .int rs.length)]) := by
  simp [listing, reviews_eq h, bind, Except.bind, pure, Except.pure]

end View

/-!
# Created rows
-/

namespace Desk

variable {d : Desk} {w : Outside} {new : Identity} {s : Submission}
  {title content : Option (List Text.Mark)}

theorem renewed_status_attempt (d : Desk) (w : Outside) (new : Identity) (s : Submission) :
    (d.attempt w new s).draft.status.renewed = (d.attempt w new s).draft.status := by
  cases hpolished : d.polished w s with
  | success p =>
      rw [draft_of_polished new hpolished]
      exact renewed_statusFor _ _ _
  | failure reason detail =>
      rw [draft_of_not_polished new hpolished]
      exact renewed_statusFor _ _ _

theorem isMoney_attempt {costs : Costs} (h : (d.attempt w new s).draft.costs = some costs) :
    costs.krw.IsMoney 2 := by
  cases hpolished : d.polished w s with
  | success p =>
      rw [draft_of_polished new hpolished] at h
      rcases costStep_cases d w p with ⟨e, krw, _, hkrw, hcosts, _⟩ | ⟨hnone, _⟩
      · rw [hcosts] at h
        cases h
        exact Office.isMoney_of_convert hkrw
      · rw [hnone] at h
        cases h
  | failure reason detail =>
      rw [draft_of_not_polished new hpolished] at h
      cases h

theorem create_shows {c : Creation} (h : (d.create w new title content).2.2 = .ok c) :
    c.review.status.renewed = c.status ∧
      (new.createdAt.micros < Seoul.end9999.micros → c.review.IsViewable) := by
  rcases create_createdBy h with ⟨s, _, hcreated⟩
  rcases Draft.stored_eq_ok hcreated.row with ⟨_, _, _, _, _, _, hkrw, _, hstatus, _⟩
  constructor
  · rw [hstatus, renewed_status_attempt, hcreated.status]
  · intro htime
    rw [← (identity_of_created h).right] at htime
    rcases Display.createdAt_of_end9999 htime with ⟨shown, hshown⟩
    have hwon : ∃ won, Display.krw c.review.krwCost = .ok won := by
      rw [hkrw]
      cases hcosts : (d.attempt w new s).draft.costs with
      | none => exact ⟨Display.missing, rfl⟩
      | some costs => exact Display.krw_of_money (isMoney_attempt hcosts)
    rcases hwon with ⟨won, hwon⟩
    exact ⟨_, by simp only [View.review, hwon, hshown]; rfl⟩

end Desk
end ReviewDesk
