import ReviewDesk.Desk.Creation
import ReviewDesk.Proofs.Desk.Steps
import ReviewDesk.Proofs.Desk.Warnings

/-!
# Attempts

An attempt at a review polishes it, finds out its cost and archives it.  It never
touches the store and removes no file, and when it archived one there is a connection
to the archive afterwards.
-/

namespace ReviewDesk
namespace Desk

variable {d : Desk} {w : Outside} {p : Polished}

def polishing (d : Desk) (title content : List Text.Mark) : Option (List Text.Mark) :=
  if d.polisher.configured then some (Prompt.human title content) else none

theorem improve_requests (d : Desk) (w : Outside) (title content : List Text.Mark) :
    (d.polisher.improve w.polish title content).requests =
      ((d.polishing title content).map .polish).toList := by
  rw [Polisher.improve_requests, polishing]
  split
  · rfl
  · rfl

/-!
# Traces of attempts
-/

theorem pipeline_trace (d : Desk) (w : Outside) (p : Polished) (title : List Text.Mark)
    (polish : Option (List Text.Mark)) :
    ∃ t : Trace,
      (polish.map .polish).toList ++ (d.costStep w p).requests ++
        (d.uploadStep w title p).2.requests = t.requests ∧
      t.polish = polish ∧ t.remove = none ∧
      (d.costStep w p).requests = (t.rate.map .rate).toList ∧
      (∀ timeout, t.connect = some timeout ↔
        (d.archive.reviewFile? title p.content).isSome = true ∧
          d.archive.connecting? = some timeout) ∧
      (∀ file, t.upload = some file ↔ d.archive.Uploads title p.content file) := by
  rcases costStep_requests_cases d w p with ⟨rate, hrate⟩
  rcases uploadStep_requests d w title p with ⟨connect, upload, harchive, hconnect, hupload⟩
  refine ⟨⟨polish, rate, connect, upload, none⟩, ?_, rfl, rfl, hrate, hconnect, hupload⟩
  rw [hrate, harchive]
  simp [Trace.requests]

/-!
# What every attempt keeps
-/

/-- How the desk may be left by an attempt with these requests, which archived the file
of this id. -/
structure Attempted (d : Desk) (w : Outside) (after : Desk) (requests : List Request)
    (fileId : Option Json) : Prop where
  store : after.store = d.store
  prices : after.prices = d.prices
  office : d.office.KeepsValid → after.office.KeepsValid
  removals : removals requests = []
  uploaded : w.uploadedId? requests = fileId
  connected : d.archive.access = .connected ∨ fileId.isSome = true →
    after.archive.access = .connected

theorem uploadedId?_requests (w : Outside) (t : Trace) :
    w.uploadedId? t.requests =
      if t.upload.isSome then (Outcome.ofAttempt (Archive.uploadResult w.upload)).value?
      else none := by
  simp [Outside.uploadedId?, Trace.any_isUpload_requests]

theorem attempted_unpolished (d : Desk) (w : Outside) (polish : Option (List Text.Mark)) :
    Attempted d w d (polish.map .polish).toList none := by
  have htrace : (polish.map .polish).toList = (Trace.mk polish none none none none).requests := by
    simp [Trace.requests]
  rw [htrace]
  exact
    { store := rfl
      prices := rfl
      office := id
      removals := Trace.removals_requests _
      uploaded := by simp [uploadedId?_requests]
      connected := by simp }

theorem uploadedId?_of_archived {t : Trace} {title : List Text.Mark}
    (hupload : ∀ file, t.upload = some file ↔ d.archive.Uploads title p.content file) :
    w.uploadedId? t.requests = (d.uploadStep w title p).2.outcome.value? := by
  rw [uploadedId?_requests]
  by_cases h : ∃ file, d.archive.Uploads title p.content file
  · rcases h with ⟨file, hfile⟩
    have hmade : t.upload.isSome = true := by
      rw [(hupload file).mpr hfile]
      rfl
    rw [if_pos hmade, uploadStep_of_uploads hfile]
    rfl
  · have hnone : t.upload = none := by
      cases hmade : t.upload with
      | none => rfl
      | some file => exact absurd ⟨file, (hupload file).mp hmade⟩ h
    rw [hnone]
    cases hvalue : (d.uploadStep w title p).2.outcome.value? with
    | none => rfl
    | some id => exact absurd ((uploadStep_value? w id).mp hvalue).left h

theorem attempted_archived (d : Desk) (w : Outside) (p : Polished) (title : List Text.Mark)
    (polish : Option (List Text.Mark)) :
    Attempted d w
      { d with office := (d.costStep w p).office, archive := (d.uploadStep w title p).1 }
      ((polish.map .polish).toList ++ (d.costStep w p).requests ++
        (d.uploadStep w title p).2.requests)
      (d.uploadStep w title p).2.outcome.value? := by
  rcases pipeline_trace d w p title polish with ⟨t, hrequests, _, hremove, _, _, hupload⟩
  rw [hrequests]
  refine
    { store := rfl
      prices := rfl
      office := fun h => keepsValid_costStep h w p
      removals := ?_
      uploaded := uploadedId?_of_archived hupload
      connected := ?_ }
  · rw [Trace.removals_requests, hremove]
    rfl
  · intro h
    rcases uploadStep_archive d w title p with ⟨_, harchive⟩ | ⟨hnone, hsame⟩
    · simp [harchive, Archive.connected]
    · rcases h with hconnected | hsome
      · simp [hsame, hconnected]
      · rcases Option.isSome_iff_exists.mp hsome with ⟨id, hid⟩
        rcases (uploadStep_value? w id).mp hid with ⟨⟨file, hfile⟩, _⟩
        exact absurd hfile (hnone file)

/-!
# Attempts at submissions
-/

def polished (d : Desk) (w : Outside) (s : Submission) : Outcome Polished :=
  (d.polisher.improve w.polish s.title s.content).outcome

variable {s : Submission}

theorem attempt_of_polished (new : Identity) (h : d.polished w s = .success p) :
    (d.attempt w new s).desk =
        { d with office := (d.costStep w p).office, archive := (d.uploadStep w s.title p).1 } ∧
      (d.attempt w new s).requests =
        ((d.polishing s.title s.content).map .polish).toList ++
          (d.costStep w p).requests ++ (d.uploadStep w s.title p).2.requests := by
  unfold polished at h
  rw [← improve_requests d w]
  simp [attempt, h]

theorem draft_of_polished (new : Identity) (h : d.polished w s = .success p) :
    (d.attempt w new s).draft =
      { id := new.id, title := s.title, content := s.content, improved := some p.content,
        model := some p.model, tokenCount := some p.totalTokens, costs := (d.costStep w p).costs,
        fileId := (d.uploadStep w s.title p).2.outcome.value?
        status := statusFor (some (.success p)) (some (d.costStep w p).ending)
          (some (d.uploadStep w s.title p).2.outcome)
        createdAt := new.createdAt } := by
  unfold polished at h
  simp [attempt, h, statusFor, statusOf, StepStatus.ofOutcome]

theorem attempt_of_not_polished (new : Identity) {reason : FailureReason} {detail : Json}
    (h : d.polished w s = .failure reason detail) :
    (d.attempt w new s).desk = d ∧
      (d.attempt w new s).requests =
        ((d.polishing s.title s.content).map .polish).toList := by
  unfold polished at h
  rw [← improve_requests d w]
  simp [attempt, h]

theorem draft_of_not_polished (new : Identity) {reason : FailureReason} {detail : Json}
    (h : d.polished w s = .failure reason detail) :
    (d.attempt w new s).draft =
      { id := new.id, title := s.title, content := s.content, improved := none, model := none,
        tokenCount := none, costs := none, fileId := none
        status := statusFor (some (.failure reason detail : Outcome Polished))
          (none : Option (Outcome Unit)) (none : Option (Outcome Json))
        createdAt := new.createdAt } := by
  unfold polished at h
  simp [attempt, h, statusFor, statusOf]

theorem attempt_attempted (d : Desk) (w : Outside) (new : Identity) (s : Submission) :
    Attempted d w (d.attempt w new s).desk (d.attempt w new s).requests
      (d.attempt w new s).draft.fileId := by
  cases hpolished : d.polished w s with
  | success p =>
      rcases attempt_of_polished new hpolished with ⟨hdesk, hrequests⟩
      rw [hdesk, hrequests, draft_of_polished new hpolished]
      exact attempted_archived d w p s.title _
  | failure reason detail =>
      rcases attempt_of_not_polished new hpolished with ⟨hdesk, hrequests⟩
      rw [hdesk, hrequests, draft_of_not_polished new hpolished]
      exact attempted_unpolished d w _

end Desk
end ReviewDesk
