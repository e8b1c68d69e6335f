import Mathlib.Logic.Function.Iterate
import ReviewDesk.Proofs.Desk.DeletionReply

/-!
# Calls at the same time

Several calls can be on their way at once.  Each is cut into its steps, which take turns on
one desk; whatever a call knows from its earlier steps it takes along.  A call that has the
desk to itself does what the operation does.
-/

namespace ReviewDesk

open Text

/-!
# Deletions on their way

A deletion looks for the row, has its file removed and deletes the row.  It takes along the
row that it found and what it asked for.
-/

inductive Deleting where
  | looking
  | clearing (r : Review)
  | erasing (deletion : Deletion)
  | ended (result : Except NotFound Deletion)

def Deleting.result? : Deleting → Option (Except NotFound Deletion)
  | .ended result => some result
  | _ => none

structure Removal where
  id : String
  seen : Option Review
  requests : List Request
  stage : Deleting

namespace Removal

def start (id : String) : Removal :=
  ⟨id, none, [], .looking⟩

def step (m : Removal) (d : Desk) (w : Outside) : Desk × Removal :=
  match m.stage with
  | .looking =>
      match d.find? m.id with
      | none => (d, { m with stage := .ended (.error ⟨m.id⟩) })
      | some r => (d, { m with seen := some r, stage := .clearing r })
  | .clearing r =>
      let (d, requests, deletion) := d.removeFileOf w r
      (d, { m with requests := m.requests ++ requests, stage := .erasing deletion })
  | .erasing deletion =>
      match d.deleteRow? m.id with
      | some d => (d, { m with stage := .ended (.ok deletion) })
      | none => (d, { m with stage := .ended (.error ⟨m.id⟩) })
  | .ended _ => (d, m)

theorem three_steps (d : Desk) (w : Outside) (id : String) :
    (fun now : Desk × Removal => now.2.step now.1 w)^[3] (d, start id) =
      ((d.delete w id).1,
        ⟨id, d.find? id, (d.delete w id).2.1, .ended (d.delete w id).2.2⟩) := by
  cases hfound : d.find? id with
  | none =>
      simp [start, step, hfound, Desk.delete]
  | some r =>
      cases hrow : (d.removeFileOf w r).1.deleteRow? id with
      | none => simp [start, step, hfound, hrow, Desk.delete]
      | some after => simp [start, step, hfound, hrow, Desk.delete]

end Removal

/-!
# Creations on their way

Nobody asks how far a creation is, so that it has no stages: it has ended, or it takes one
more turn on the desk and goes on from there.
-/

inductive Making where
  | ended (result : Except CreationFailure Creation)
  | turn (take : Desk → Outside → Desk × List Request × Making)

namespace Making

def step (m : Making) (d : Desk) (w : Outside) : Desk × List Request × Making :=
  match m with
  | ended result => (d, [], ended result)
  | turn take => take d w

def givingUp (fileId : Option Json) (fault : SaveFault) : Making :=
  .turn fun d w =>
    let (d, requests, failure) := d.giveUp w fileId fault
    (d, requests, .ended (.error failure))

def saving (draft : Draft) : Making :=
  .turn fun d w =>
    match d.keep w draft with
    | .ok (d, review) => (d, [], .ended (.ok ⟨review, draft.status⟩))
    | .error fault => (d, [], givingUp draft.fileId fault)

def archiving (new : Identity) (s : Submission) (p : Polished) (costs : Option Costs)
    (costed : Outcome Unit) : Making :=
  .turn fun d w =>
    let (archive, uploaded) := d.uploadStep w s.title p
    ({ d with archive := archive }, uploaded.requests,
      saving
        { id := new.id, title := s.title, content := s.content, improved := some p.content,
          model := some p.model, tokenCount := some p.totalTokens, costs := costs,
          fileId := uploaded.outcome.value?
          status := Desk.statusFor (some (.success p)) (some costed) (some uploaded.outcome)
          createdAt := new.createdAt })

def costing (new : Identity) (s : Submission) (p : Polished) : Making :=
  .turn fun d w =>
    let cost := d.costStep w p
    ({ d with office := cost.office }, cost.requests, archiving new s p cost.costs cost.ending)

def polishing (new : Identity) (s : Submission) : Making :=
  .turn fun d w =>
    let asked := d.polisher.improve w.polish s.title s.content
    match asked.outcome with
    | .failure reason detail =>
        (d, asked.requests,
          saving
            { id := new.id, title := s.title, content := s.content, improved := none,
              model := none, tokenCount := none, costs := none, fileId := none
              status := Desk.statusFor (some (.failure reason detail : Outcome Polished))
                (none : Option (Outcome Unit)) (none : Option (Outcome Json))
              createdAt := new.createdAt })
    | .success p => (d, asked.requests, costing new s p)

def start (new : Identity) (title content : Option (List Mark)) : Making :=
  match Submission.validate title content with
  | .error rejection => .ended (.error (.rejected rejection))
  | .ok s => polishing new s

/-!
# Creations without anybody in between
-/

inductive Ends (w : Outside) :
    Making → Desk → Desk → List Request → Except CreationFailure Creation → Prop where
  | ended {d : Desk} {result : Except CreationFailure Creation} :
      Ends w (.ended result) d d [] result
  | turn {take : Desk → Outside → Desk × List Request × Making} {next : Making}
      {d d' after : Desk} {requests more : List Request}
      {result : Except CreationFailure Creation} (htake : take d w = (d', requests, next))
      (hnext : Ends w next d' after more result) :
      Ends w (.turn take) d after (requests ++ more) result

theorem ends_givingUp (d : Desk) (w : Outside) (fileId : Option Json) (fault : SaveFault) :
    (givingUp fileId fault).Ends w d (d.giveUp w fileId fault).1 (d.giveUp w fileId fault).2.1
      (.error (d.giveUp w fileId fault).2.2) := by
  rw [← List.append_nil (d.giveUp w fileId fault).2.1]
  exact Ends.turn rfl Ends.ended

theorem ends_saving (d : Desk) (w : Outside) (draft : Draft) :
    (saving draft).Ends w d (d.save w draft).1 (d.save w draft).2.1 (d.save w draft).2.2 := by
  cases hkeep : d.keep w draft with
  | ok kept =>
      rcases kept with ⟨d', review⟩
      have hsave : d.save w draft = (d', [] ++ [], .ok ⟨review, draft.status⟩) := by
        simp [Desk.save, hkeep]
      rw [hsave]
      exact Ends.turn (by simp [hkeep]) Ends.ended
  | error fault =>
      have hsave : d.save w draft =
          ((d.giveUp w draft.fileId fault).1, [] ++ (d.giveUp w draft.fileId fault).2.1,
            .error (d.giveUp w draft.fileId fault).2.2) := by
        simp [Desk.save, hkeep]
      rw [hsave]
      exact Ends.turn (by simp [hkeep]) (ends_givingUp d w draft.fileId fault)

theorem ends_polishing (d : Desk) (w : Outside) (new : Identity) (s : Submission) :
    (polishing new s).Ends w d ((d.attempt w new s).desk.save w (d.attempt w new s).draft).1
      ((d.attempt w new s).requests ++
        ((d.attempt w new s).desk.save w (d.attempt w new s).draft).2.1)
      ((d.attempt w new s).desk.save w (d.attempt w new s).draft).2.2 := by
  cases hpolished : d.polished w s with
  | failure reason detail =>
      rcases Desk.attempt_of_not_polished new hpolished with ⟨hdesk, hrequests⟩
      rw [hdesk, hrequests, ← Desk.improve_requests d w, Desk.draft_of_not_polished new hpolished]
      rw [Desk.polished] at hpolished
      exact Ends.turn (by simp only [hpolished]) (ends_saving _ w _)
  | success p =>
      rcases Desk.attempt_of_polished new hpolished with ⟨hdesk, hrequests⟩
      rw [hdesk, hrequests, ← Desk.improve_requests d w, Desk.draft_of_polished new hpolished,
        List.append_assoc, List.append_assoc]
      rw [Desk.polished] at hpolished
      have hcosting : (costing new s p).Ends w d _ _ _ :=
        Ends.turn rfl (Ends.turn rfl (ends_saving _ w _))
      exact Ends.turn (by simp only [hpolished]) hcosting

theorem ends_start (d : Desk) (w : Outside) (new : Identity)
    (title content : Option (List Mark)) :
    (start new title content).Ends w d (d.create w new title content).1
      (d.create w new title content).2.1 (d.create w new title content).2.2 := by
  unfold start Desk.create
  cases Submission.validate title content with
  | error rejection => exact Ends.ended
  | ok s => exact ends_polishing d w new s

end Making

/-!
# Taking turns

A desk and the calls on their way there are its traffic.  A turn is the next step of one of
the calls, and the others stay where they are.
-/

inductive Call where
  | deletion (m : Removal)
  | creation (requests : List Request) (m : Making)

namespace Call

def targets (id : String) : Call → Bool
  | deletion m => m.id == id
  | creation _ _ => false

def reply? (id : String) : Call → Option (Except NotFound Deletion)
  | deletion m => if m.id = id then m.stage.result? else none
  | creation _ _ => none

def step (c : Call) (d : Desk) (w : Outside) : Desk × Call :=
  match c with
  | deletion m => ((m.step d w).1, deletion (m.step d w).2)
  | creation requests m =>
      ((m.step d w).1, creation (requests ++ (m.step d w).2.1) (m.step d w).2.2)

end Call

structure Traffic where
  desk : Desk
  calls : List Call

namespace Traffic

def turn (t : Traffic) (i : Nat) (w : Outside) : Traffic :=
  match t.calls[i]? with
  | none => t
  | some c => ⟨(c.step t.desk w).1, t.calls.set i (c.step t.desk w).2⟩

def run (t : Traffic) (turns : List (Nat × Outside)) : Traffic :=
  turns.foldl (fun t next => t.turn next.1 next.2) t

def rivals (t : Traffic) (id : String) : Nat :=
  t.calls.countP (·.targets id)

def replies (t : Traffic) (id : String) : List (Except NotFound Deletion) :=
  t.calls.filterMap (·.reply? id)

variable {t : Traffic} {i : Nat} {c : Call}

theorem run_snoc (t : Traffic) (turns : List (Nat × Outside)) (i : Nat) (w : Outside) :
    t.run (turns ++ [(i, w)]) = (t.run turns).turn i w := by
  simp [run]

theorem turn_of_no_call (h : t.calls[i]? = none) (w : Outside) : t.turn i w = t := by
  simp [turn, h]

theorem turn_of_call (h : t.calls[i]? = some c) (w : Outside) :
    ∃ before later, t.calls = before ++ c :: later ∧
      t.turn i w = ⟨(c.step t.desk w).1, before ++ (c.step t.desk w).2 :: later⟩ := by
  rcases List.getElem?_eq_some_iff.mp h with ⟨hi, rfl⟩
  have hset : ∃ before later, t.calls = before ++ t.calls[i] :: later ∧ before.length = i ∧
      t.calls.set i (t.calls[i].step t.desk w).2 =
        before ++ (t.calls[i].step t.desk w).2 :: later := List.exists_of_set hi
  rcases hset with ⟨before, later, hcalls, _, hset⟩
  refine ⟨before, later, hcalls, ?_⟩
  rw [← hset, turn, h]

end Traffic
end ReviewDesk
