import ReviewDesk.Desk.Basic

/-!
# Creating a review

A review is polished, its cost is estimated and converted, and the polished text is
archived, in this order.  A step that fails is noted and the next ones go on as far
as they can; whatever happened, the review is saved.  When it cannot be saved, the
archived file is removed again.
-/

namespace ReviewDesk

structure Creation where
  review : Review
  status : IntegrationStatus

namespace Creation

def savedText : String := "书评已保存"
def partlyText : String := "书评已保存，但部分外部集成未完成"

def message (c : Creation) : String :=
  if c.status.warning.isSome then partlyText else savedText

end Creation

inductive CreationFailure where
  | rejected (rejection : Rejection)
  | notSaved
  | broken (fault : Fault)

namespace CreationFailure

def notSavedText : String := "书评保存失败"

end CreationFailure

namespace Desk

/-!
# The three steps
-/

structure CostStep where
  office : Office
  requests : List Request
  costs : Option Costs
  ending : Outcome Unit

def convertStep (d : Desk) (w : Outside) (usd : Decimal) : CostStep :=
  let (office, answered) := d.office.convert w.now w.rate usd
  match answered.outcome with
  | .success krw => ⟨office, answered.requests, some ⟨usd, krw⟩, .success ()⟩
  | .failure reason detail => ⟨office, answered.requests, none, .failure reason detail⟩

def costStep (d : Desk) (w : Outside) (p : Polished) : CostStep :=
  match Outcome.ofAttempt
      (Pricing.estimate d.prices p.model (.whole p.promptTokens) (.whole p.completionTokens)) with
  | .success e => d.convertStep w e.usdCost
  | .failure reason detail => ⟨d.office, [], none, .failure reason detail⟩

def uploadStep (d : Desk) (w : Outside) (title : List Text.Mark) (p : Polished) :
    Archive × Answered Json :=
  d.archive.uploadReview w.upload title p.content

/-!
# Statuses and warnings

A step that was not reached counts as skipped.  The status of a step always fits the way it
ended, so that its warning is never missing for want of a reason.
-/

def statusOf {α : Type} : Option (Outcome α) → StepStatus
  | none => .skipped
  | some o => .ofOutcome o

def endingOf {α : Type} : Option (Outcome α) → Ending
  | none => .notCalled
  | some o => .ofOutcome o

def warningOf {α : Type} (step : Step) (o : Option (Outcome α)) : Option String :=
  match Warning.ofStep step.title (statusOf o) (endingOf o) with
  | .ok warning => warning
  | .error _ => none

def joinWarnings (warnings : List (Option String)) : Option String :=
  match warnings.filterMap id with
  | [] => none
  | ws => some (String.intercalate "\n" ws)

/-!
# The pipeline
-/

structure Attempt where
  desk : Desk
  requests : List Request
  draft : Draft

def attempt (d : Desk) (w : Outside) (new : Identity) (s : Submission) : Attempt :=
  let asked := d.polisher.improve w.polish s.title s.content
  let polished := asked.outcome
  match polished with
  | .failure reason detail =>
      let warning := joinWarnings
        [warningOf .polish (some (Outcome.failure reason detail : Outcome Polished)),
          warningOf .cost (none : Option (Outcome Unit)),
          warningOf .archive (none : Option (Outcome Json))]
      { desk := d
        requests := asked.requests
        draft :=
          { id := new.id, title := s.title, content := s.content, improved := none,
            model := none, tokenCount := none, costs := none, fileId := none
            status := .make (.ofOutcome polished) .skipped .skipped warning
            createdAt := new.createdAt } }
  | .success p =>
      let cost := d.costStep w p
      let (archive, uploaded) := d.uploadStep w s.title p
      let warning := joinWarnings
        [warningOf .polish (some polished), warningOf .cost (some cost.ending),
          warningOf .archive (some uploaded.outcome)]
      { desk := { d with office := cost.office, archive := archive }
        requests := asked.requests ++ cost.requests ++ uploaded.requests
        draft :=
          { id := new.id, title := s.title, content := s.content, improved := some p.content,
            model := some p.model, tokenCount := some p.totalTokens, costs := cost.costs,
            fileId := uploaded.outcome.value?
            status := .make .success (.ofOutcome cost.ending) (.ofOutcome uploaded.outcome) warning
            createdAt := new.createdAt } }

/-!
# Saving

Either the row of a draft is in the store afterwards or the store is as it was.  What the
database rejects has its file removed again, and whether that works out makes no difference
any more; whatever breaks off otherwise leaves the file alone.
-/

def rollBack (d : Desk) (w : Outside) (fileId : Option Json) : Desk × List Request :=
  match fileId with
  | none => (d, [])
  | some id =>
      let (d, answered) := d.removeFile w id
      (d, answered.requests)

def giveUp (d : Desk) (w : Outside) (fileId : Option Json) :
    SaveFault → Desk × List Request × CreationFailure
  | .rejected =>
      let (d, requests) := d.rollBack w fileId
      (d, requests, .notSaved)
  | .broken fault => (d, [], .broken fault)

def keep (d : Desk) (w : Outside) (draft : Draft) : Except SaveFault (Desk × Review) :=
  match w.saving with
  | some fault => .error fault
  | none =>
      match draft.stored with
      | .error fault => .error fault
      | .ok review =>
          match d.store.insert? review with
          | some store => .ok ({ d with store := store }, review)
          | none => .error .rejected

def save (d : Desk) (w : Outside) (draft : Draft) :
    Desk × List Request × Except CreationFailure Creation :=
  match d.keep w draft with
  | .ok (d, review) => (d, [], .ok ⟨review, draft.status⟩)
  | .error fault =>
      let (d, requests, failure) := d.giveUp w draft.fileId fault
      (d, requests, .error failure)

def create (d : Desk) (w : Outside) (new : Identity) (title content : Option (List Text.Mark)) :
    Desk × List Request × Except CreationFailure Creation :=
  match Submission.validate title content with
  | .error rejection => (d, [], .error (.rejected rejection))
  | .ok s =>
      let a := d.attempt w new s
      let (d, requests, result) := a.desk.save w a.draft
      (d, a.requests ++ requests, result)

end Desk
end ReviewDesk
