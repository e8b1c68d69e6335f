import ReviewDesk.Proofs.Desk.Creation

/-!
# Answers of the integrations

A creation asks its integrations four things: to polish the text, to estimate what that
cost, to convert the amount and to archive the file.  The draft is determined by what they
answer, whatever the integrations are, and so is how the creation ends.
-/

namespace ReviewDesk

open Text

/-- What each call of an integration gives, if it is made. -/
structure Answers where
  polish : Except Fault (Outcome Polished)
  estimate : Polished → Except Fault (Outcome Estimate)
  convert : Decimal → Except Fault (Outcome Decimal)
  upload : Polished → Except Fault (Outcome Json)

namespace Step

def inOrder : List Step := [polish, cost, archive]

end Step

namespace Answers

def costing (a : Answers) (p : Polished) : Outcome Costs :=
  match Outcome.ofAttempt (a.estimate p) with
  | .failure reason detail => .failure reason detail
  | .success e =>
      match Outcome.ofAttempt (a.convert e.usdCost) with
      | .failure reason detail => .failure reason detail
      | .success krw => .success ⟨e.usdCost, krw⟩

def ending (a : Answers) : Step → Option (Outcome Unit)
  | .polish => some (Outcome.ofAttempt a.polish).ended
  | .cost => (Outcome.ofAttempt a.polish).value?.map fun p => (a.costing p).ended
  | .archive =>
      (Outcome.ofAttempt a.polish).value?.map fun p => (Outcome.ofAttempt (a.upload p)).ended

def status (a : Answers) : IntegrationStatus :=
  Desk.statusFor (a.ending .polish) (a.ending .cost) (a.ending .archive)

def draft (a : Answers) (new : Identity) (s : Submission) : Draft :=
  match Outcome.ofAttempt a.polish with
  | .failure _ _ =>
      { id := new.id, title := s.title, content := s.content, improved := none, model := none,
        tokenCount := none, costs := none, fileId := none, status := a.status
        createdAt := new.createdAt }
  | .success p =>
      { id := new.id, title := s.title, content := s.content, improved := some p.content,
        model := some p.model, tokenCount := some p.totalTokens, costs := (a.costing p).value?
        fileId := (Outcome.ofAttempt (a.upload p)).value?, status := a.status
        createdAt := new.createdAt }

theorem status_draft (a : Answers) (new : Identity) (s : Submission) :
    (a.draft new s).status = a.status := by
  unfold draft
  split
  · rfl
  · rfl

end Answers

namespace Desk

variable {d : Desk} {w : Outside} {s : Submission}

/-!
# The desk's own integrations

The draft of an attempt is the one that the answers of the integrations give.
-/

def answers (d : Desk) (w : Outside) (s : Submission) : Answers where
  polish := (d.polisher.improve w.polish s.title s.content).result
  estimate := d.estimated
  convert := fun usd => (d.office.convert w.now w.rate usd).2.result
  upload := fun p => (d.uploadStep w s.title p).2.result

theorem statusOf_ended {α : Type} (o : Outcome α) : statusOf (some o.ended) = statusOf (some o) := by
  cases o with
  | success value => rfl
  | failure reason detail => cases reason <;> rfl

theorem warningOf_ended {α : Type} (step : Step) (o : Outcome α) :
    warningOf step (some o.ended) = warningOf step (some o) := by
  cases o with
  | success value => rfl
  | failure reason detail => cases reason <;> rfl

theorem costStep_answers (d : Desk) (w : Outside) (s : Submission) (p : Polished) :
    (d.costStep w p).costs = ((d.answers w s).costing p).value? ∧
      (d.costStep w p).ending = ((d.answers w s).costing p).ended := by
  unfold costStep Answers.costing answers estimated
  dsimp only
  split
  · rename_i e he
    rw [he]
    dsimp only
    unfold convertStep
    dsimp only
    split
    · rename_i krw hkrw
      rw [Answered.outcome] at hkrw
      rw [hkrw]
      exact ⟨rfl, rfl⟩
    · rename_i reason detail hfailed
      rw [Answered.outcome] at hfailed
      rw [hfailed]
      exact ⟨rfl, rfl⟩
  · rename_i reason detail hfailed
    rw [hfailed]
    exact ⟨rfl, rfl⟩

theorem draft_attempt (d : Desk) (w : Outside) (new : Identity) (s : Submission) :
    (d.attempt w new s).draft = (d.answers w s).draft new s := by
  have hpolish : Outcome.ofAttempt (d.answers w s).polish = d.polished w s := rfl
  cases hpolished : d.polished w s with
  | success p =>
      rcases costStep_answers d w s p with ⟨hcosts, hending⟩
      rw [draft_of_polished new hpolished, hcosts, hending, Answers.draft]
      simp only [hpolish, hpolished, Answers.status, Answers.ending, Outcome.value?,
        Option.map_some, statusFor, statusOf_ended, warningOf_ended]
      rfl
  | failure reason detail =>
      rw [draft_of_not_polished new hpolished, Answers.draft]
      simp only [hpolish, hpolished, Answers.status, Answers.ending, Outcome.value?,
        Option.map_none, statusFor, statusOf_ended, warningOf_ended]
      rfl

end Desk
end ReviewDesk
