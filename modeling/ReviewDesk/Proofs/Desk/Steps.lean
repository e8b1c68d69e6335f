import ReviewDesk.Desk.Creation
import ReviewDesk.Proofs.Archive.Folder
import ReviewDesk.Proofs.Desk.Requests
import ReviewDesk.Proofs.Exchange.Office
import ReviewDesk.Proofs.Polish.Polisher
import ReviewDesk.Proofs.Pricing

/-!
# The three steps of a creation

What one attempt at a review does to the desk, what it asks for and what it leaves in
the draft.  The store is not touched before the draft is saved.
-/

namespace ReviewDesk
namespace Desk

/-!
# Costs
-/

def estimated (d : Desk) (p : Polished) : Except Fault (Outcome Estimate) :=
  Pricing.estimate d.prices p.model (.whole p.promptTokens) (.whole p.completionTokens)

theorem costStep_of_estimated {d : Desk} {p : Polished} {e : Estimate}
    (h : d.estimated p = .ok (.success e)) (w : Outside) :
    d.costStep w p = d.convertStep w e.usdCost := by
  unfold estimated at h
  simp [costStep, h, Outcome.ofAttempt]

theorem costStep_of_not_estimated {d : Desk} {p : Polished}
    (h : ∀ e, d.estimated p ≠ .ok (.success e)) (w : Outside) :
    ∃ reason detail, d.costStep w p = ⟨d.office, [], none, .failure reason detail⟩ := by
  have hattempt : ∀ e, Outcome.ofAttempt (d.estimated p) ≠ .success e := by
    intro e he
    exact h e (Outcome.ofAttempt_eq_success_iff.mp he)
  unfold costStep
  split
  · rename_i e he
    exact absurd he (hattempt e)
  · rename_i reason detail _
    exact ⟨reason, detail, rfl⟩

theorem convertStep_requests (d : Desk) (w : Outside) (usd : Decimal) :
    (d.convertStep w usd).requests = (d.office.convert w.now w.rate usd).2.requests := by
  unfold convertStep
  dsimp only
  split <;> rfl

theorem convertStep_office (d : Desk) (w : Outside) (usd : Decimal) :
    (d.convertStep w usd).office = (d.office.convert w.now w.rate usd).1 := by
  unfold convertStep
  dsimp only
  split <;> rfl

theorem convertStep_cases (d : Desk) (w : Outside) (usd : Decimal) :
    (∃ krw, (d.office.convert w.now w.rate usd).2.result = .ok (.success krw) ∧
        (d.convertStep w usd).costs = some ⟨usd, krw⟩ ∧
        (d.convertStep w usd).ending = .success ()) ∨
      ((d.convertStep w usd).costs = none ∧
        ∃ reason detail, (d.convertStep w usd).ending = .failure reason detail) := by
  unfold convertStep
  dsimp only
  split
  · rename_i krw hkrw
    exact Or.inl ⟨krw, Outcome.ofAttempt_eq_success_iff.mp hkrw, rfl, rfl⟩
  · rename_i reason detail _
    exact Or.inr ⟨rfl, reason, detail, rfl⟩

theorem costStep_cases (d : Desk) (w : Outside) (p : Polished) :
    (∃ e krw, d.estimated p = .ok (.success e) ∧
        (d.office.convert w.now w.rate e.usdCost).2.result = .ok (.success krw) ∧
        (d.costStep w p).costs = some ⟨e.usdCost, krw⟩ ∧
        (d.costStep w p).ending = .success ()) ∨
      ((d.costStep w p).costs = none ∧
        ∃ reason detail, (d.costStep w p).ending = .failure reason detail) := by
  by_cases hestimated : ∃ e, d.estimated p = .ok (.success e)
  · rcases hestimated with ⟨e, he⟩
    rw [costStep_of_estimated he]
    rcases convertStep_cases d w e.usdCost with ⟨krw, hkrw, hcosts, hending⟩ | hnone
    · exact Or.inl ⟨e, krw, he, hkrw, hcosts, hending⟩
    · exact Or.inr hnone
  · rcases costStep_of_not_estimated (fun e he => hestimated ⟨e, he⟩) w with
      ⟨reason, detail, hstep⟩
    rw [hstep]
    exact Or.inr ⟨rfl, reason, detail, rfl⟩

theorem isFinite_costStep {d : Desk} (hprices : d.prices.AreFinite) (hoffice : d.office.KeepsValid)
    {w : Outside} {p : Polished} {costs : Costs} (h : (d.costStep w p).costs = some costs) :
    costs.usd.isFinite = true ∧ costs.krw.isFinite = true := by
  rcases costStep_cases d w p with ⟨e, krw, he, hkrw, hcosts, _⟩ | ⟨hnone, _⟩
  · rw [hcosts] at h
    cases h
    have husd : e.usdCost.isFinite = true := Pricing.isFinite_usdCost hprices he
    exact ⟨husd, Office.isFinite_of_convert hoffice husd hkrw⟩
  · rw [hnone] at h
    cases h

theorem keepsValid_costStep {d : Desk} (h : d.office.KeepsValid) (w : Outside) (p : Polished) :
    (d.costStep w p).office.KeepsValid := by
  by_cases hestimated : ∃ e, d.estimated p = .ok (.success e)
  · rcases hestimated with ⟨e, he⟩
    rw [costStep_of_estimated he, convertStep_office]
    exact Office.keepsValid_convert h w.now w.rate e.usdCost
  · rcases costStep_of_not_estimated (fun e he => hestimated ⟨e, he⟩) w with
      ⟨reason, detail, hstep⟩
    rw [hstep]
    exact h

theorem costStep_requests_cases (d : Desk) (w : Outside) (p : Polished) :
    ∃ rate : Option String, (d.costStep w p).requests = (rate.map .rate).toList := by
  by_cases hestimated : ∃ e, d.estimated p = .ok (.success e)
  · rcases hestimated with ⟨e, he⟩
    rw [costStep_of_estimated he, convertStep_requests]
    rcases Office.convert_requests_cases d.office w.now w.rate e.usdCost with
      hnone | ⟨address, hone⟩
    · exact ⟨none, hnone⟩
    · exact ⟨some address, hone⟩
  · rcases costStep_of_not_estimated (fun e he => hestimated ⟨e, he⟩) w with
      ⟨reason, detail, hstep⟩
    rw [hstep]
    exact ⟨none, rfl⟩

/-- The estimate succeeds with an amount that the office needs a rate for. -/
def AsksRate (d : Desk) (w : Outside) (p : Polished) : Prop :=
  ∃ e, d.estimated p = .ok (.success e) ∧ d.office.NeedsRate w.now e.usdCost

theorem costStep_requests {d : Desk} {w : Outside} {p : Polished} {address : String}
    (haddress : d.office.key ≠ "" →
      Inquiry.make d.office.template d.office.key d.office.source = .ok (.host address)) :
    (d.AsksRate w p → (d.costStep w p).requests = [.rate address]) ∧
      (¬ d.AsksRate w p → (d.costStep w p).requests = []) := by
  by_cases hestimated : ∃ e, d.estimated p = .ok (.success e)
  · rcases hestimated with ⟨e, he⟩
    have hasks : d.AsksRate w p ↔ d.office.NeedsRate w.now e.usdCost := by
      simp [AsksRate, he]
    rw [hasks, costStep_of_estimated he, convertStep_requests]
    exact Office.convert_requests (Pricing.isZero?_usdCost he) w.rate haddress
  · rcases costStep_of_not_estimated (fun e he => hestimated ⟨e, he⟩) w with
      ⟨reason, detail, hstep⟩
    have hasks : ¬ d.AsksRate w p := fun ⟨e, he, _⟩ => hestimated ⟨e, he⟩
    rw [hstep]
    exact ⟨fun h => absurd h hasks, fun _ => rfl⟩

/-!
# Archiving
-/

variable {d : Desk} {title : List Text.Mark} {p : Polished}

theorem uploadStep_of_uploads {file : ArchiveFile} (h : d.archive.Uploads title p.content file)
    (w : Outside) :
    d.uploadStep w title p =
      (d.archive.connected,
        ⟨(d.archive.connecting?.map .connect).toList ++ [.upload file],
          Archive.uploadResult w.upload⟩) :=
  Archive.uploadReview_of_uploads h w.upload

theorem uploadStep_archive (d : Desk) (w : Outside) (title : List Text.Mark) (p : Polished) :
    ((∃ file, d.archive.Uploads title p.content file) ∧
        (d.uploadStep w title p).1 = d.archive.connected) ∨
      ((∀ file, ¬ d.archive.Uploads title p.content file) ∧
        (d.uploadStep w title p).1 = d.archive) := by
  by_cases h : ∃ file, d.archive.Uploads title p.content file
  · rcases h with ⟨file, hfile⟩
    rw [uploadStep_of_uploads hfile]
    exact Or.inl ⟨⟨file, hfile⟩, rfl⟩
  · rcases Archive.uploadReview_of_no_upload (not_exists.mp h) w.upload with ⟨failed, hupload, _⟩
    exact Or.inr ⟨not_exists.mp h, by rw [uploadStep, hupload]⟩

theorem uploadStep_value? (w : Outside) (id : Json) :
    (d.uploadStep w title p).2.outcome.value? = some id ↔
      (∃ file, d.archive.Uploads title p.content file) ∧
        Archive.uploadResult w.upload = .ok (.success id) :=
  Archive.uploadReview_outcome_value? w.upload id

theorem uploadStep_requests (d : Desk) (w : Outside) (title : List Text.Mark) (p : Polished) :
    ∃ (connect : Option Binary64) (upload : Option ArchiveFile),
      (d.uploadStep w title p).2.requests =
        (connect.map .connect).toList ++ (upload.map .upload).toList ∧
      (∀ timeout, connect = some timeout ↔
        (d.archive.reviewFile? title p.content).isSome = true ∧
          d.archive.connecting? = some timeout) ∧
      ∀ file, upload = some file ↔ d.archive.Uploads title p.content file := by
  by_cases h : ∃ file, d.archive.Uploads title p.content file
  · rcases h with ⟨file, hfile⟩
    refine ⟨d.archive.connecting?, some file, ?_, ?_, ?_⟩
    · rw [uploadStep_of_uploads hfile]
      rfl
    · simp [hfile.right]
    · intro other
      simp [Archive.Uploads, hfile.left, hfile.right]
  · rcases Archive.uploadReview_of_no_upload (not_exists.mp h) w.upload with ⟨failed, hupload, _⟩
    refine ⟨none, none, ?_, ?_, ?_⟩
    · rw [uploadStep, hupload]
      rfl
    · intro timeout
      refine iff_of_false (by simp) ?_
      rintro ⟨hsome, hconnecting⟩
      rcases Option.isSome_iff_exists.mp hsome with ⟨file, hfile⟩
      exact h ⟨file, Archive.reachable_of_connecting? hconnecting, hfile⟩
    · intro file
      exact iff_of_false (by simp) (not_exists.mp h file)

end Desk
end ReviewDesk
