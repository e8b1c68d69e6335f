import ReviewDesk.Proofs.Desk.Attempt
import ReviewDesk.Proofs.Review.Columns
import ReviewDesk.Proofs.Review.Store

/-!
# Saving what was attempted

A draft is kept, rejected by the database, or breaks off on the way there.  Only what
the database rejects has its file removed again, which is asked for once.
-/

namespace ReviewDesk
namespace Desk

variable {d d' : Desk} {w : Outside} {draft : Draft} {r : Review}

/-!
# Keeping a draft
-/

theorem keep_eq_ok_iff :
    d.keep w draft = .ok (d', r) ↔
      w.saving = none ∧ draft.stored = .ok r ∧ (∀ other ∈ d.store.rows, other.id ≠ r.id) ∧
        d' = { d with store := ⟨d.store.rows ++ [r]⟩ } := by
  unfold keep
  cases hsaving : w.saving with
  | some fault =>
      simp
  | none =>
      cases hstored : draft.stored with
      | error fault =>
          simp
      | ok row =>
          dsimp only
          cases hinsert : d.store.insert? row with
          | some store =>
              rcases Store.insert?_eq_some_iff.mp hinsert with ⟨hfree, rfl⟩
              simp only [Except.ok.injEq, Prod.mk.injEq, true_and]
              constructor
              · rintro ⟨rfl, rfl⟩
                exact ⟨rfl, hfree, rfl⟩
              · rintro ⟨rfl, _, rfl⟩
                exact ⟨rfl, rfl⟩
          | none =>
              simp only [reduceCtorEq, false_iff, true_and, Except.ok.injEq]
              rintro ⟨rfl, hfree, _⟩
              have hsome := Store.insert?_eq_some_iff.mpr ⟨hfree, rfl⟩
              rw [hinsert] at hsome
              cases hsome

/-- Handing the draft over to the database breaks off. -/
def SavingBreaksOff (w : Outside) (draft : Draft) : Prop :=
  (∃ fault, w.saving = some (.broken fault)) ∨ (w.saving = none ∧ draft.BreaksOff)

theorem keep_broken_iff :
    (∃ fault, d.keep w draft = .error (.broken fault)) ↔ SavingBreaksOff w draft := by
  unfold keep SavingBreaksOff
  rw [← Draft.stored_broken_iff]
  cases hsaving : w.saving with
  | some fault =>
      simp
  | none =>
      cases hstored : draft.stored with
      | error fault =>
          simp
      | ok row =>
          dsimp only
          cases hinsert : d.store.insert? row with
          | some store => simp
          | none => simp

/-!
# Removing the file again
-/

theorem removeFile_of_connected (h : d.archive.access = .connected) (w : Outside) (id : Json) :
    d.removeFile w id =
      ({ d with store := d.store.eraseAll w.vanishing },
        ⟨[.remove id], Archive.removeResult w.remove⟩) := by
  simp [removeFile, Archive.remove_of_connected h, asksRemoval]

theorem rollBack_eq {fileId : Option Json}
    (h : fileId.isSome = true → d.archive.access = .connected) (w : Outside) :
    d.rollBack w fileId =
      ({ d with store := if fileId.isSome then d.store.eraseAll w.vanishing else d.store },
        (fileId.map .remove).toList) := by
  cases fileId with
  | none => rfl
  | some id => simp [rollBack, removeFile_of_connected (h rfl)]

/-!
# Creating
-/

section Accepted

variable {new : Identity} {title content : Option (List Text.Mark)} {s : Submission}

theorem create_of_rejected {rejection : Rejection}
    (h : Submission.validate title content = .error rejection) (d : Desk) (w : Outside)
    (new : Identity) :
    d.create w new title content = (d, [], .error (.rejected rejection)) := by
  simp [create, h]

theorem create_of_kept (hs : Submission.validate title content = .ok s)
    (h : (d.attempt w new s).desk.keep w (d.attempt w new s).draft = .ok (d', r)) :
    d.create w new title content =
      (d', (d.attempt w new s).requests, .ok ⟨r, (d.attempt w new s).draft.status⟩) := by
  simp [create, hs, save, h]

theorem create_of_refused (hs : Submission.validate title content = .ok s)
    (h : (d.attempt w new s).desk.keep w (d.attempt w new s).draft = .error .rejected) :
    d.create w new title content =
      ({ (d.attempt w new s).desk with
          store := if (d.attempt w new s).draft.fileId.isSome then d.store.eraseAll w.vanishing
            else d.store },
        (d.attempt w new s).requests ++ ((d.attempt w new s).draft.fileId.map .remove).toList,
        .error .notSaved) := by
  have hattempted := attempt_attempted d w new s
  have hback := rollBack_eq (fun hsome => hattempted.connected (Or.inr hsome)) w
  rw [hattempted.store] at hback
  simp [create, hs, save, h, giveUp, hback]

theorem create_of_broken {fault : Fault} (hs : Submission.validate title content = .ok s)
    (h : (d.attempt w new s).desk.keep w (d.attempt w new s).draft = .error (.broken fault)) :
    d.create w new title content =
      ((d.attempt w new s).desk, (d.attempt w new s).requests, .error (.broken fault)) := by
  simp [create, hs, save, h, giveUp]

theorem create_requests (hs : Submission.validate title content = .ok s) (d : Desk) (w : Outside)
    (new : Identity) :
    ∃ remove : Option Json,
      (d.create w new title content).2.1 =
        (d.attempt w new s).requests ++ (remove.map .remove).toList ∧
      ∀ id, remove = some id ↔ (d.attempt w new s).draft.fileId = some id ∧
        (d.attempt w new s).desk.keep w (d.attempt w new s).draft = .error .rejected := by
  cases hkeep : (d.attempt w new s).desk.keep w (d.attempt w new s).draft with
  | ok kept =>
      rcases kept with ⟨after, r⟩
      rw [create_of_kept hs hkeep]
      exact ⟨none, by simp, by simp⟩
  | error fault =>
      cases fault with
      | rejected =>
          rw [create_of_refused hs hkeep]
          exact ⟨(d.attempt w new s).draft.fileId, rfl, by simp⟩
      | broken fault =>
          rw [create_of_broken hs hkeep]
          exact ⟨none, by simp, by simp⟩

structure CreatedBy (d : Desk) (w : Outside) (new : Identity) (s : Submission) (after : Desk)
    (requests : List Request) (c : Creation) : Prop where
  row : (d.attempt w new s).draft.stored = .ok c.review
  status : c.status = (d.attempt w new s).draft.status
  asked : requests = (d.attempt w new s).requests
  free : ∀ other ∈ d.store.rows, other.id ≠ c.review.id
  desk : after = { (d.attempt w new s).desk with store := ⟨d.store.rows ++ [c.review]⟩ }

theorem create_createdBy {c : Creation} (h : (d.create w new title content).2.2 = .ok c) :
    ∃ s, Submission.validate title content = .ok s ∧
      CreatedBy d w new s (d.create w new title content).1 (d.create w new title content).2.1
        c := by
  cases hs : Submission.validate title content with
  | error rejection =>
      rw [create_of_rejected hs] at h
      cases h
  | ok s =>
      cases hkeep : (d.attempt w new s).desk.keep w (d.attempt w new s).draft with
      | ok kept =>
          rcases kept with ⟨after, r⟩
          rw [create_of_kept hs hkeep] at h ⊢
          cases h
          rcases keep_eq_ok_iff.mp hkeep with ⟨_, hrow, hfree, hafter⟩
          rw [(attempt_attempted d w new s).store] at hfree hafter
          exact ⟨s, rfl, hrow, rfl, rfl, hfree, hafter⟩
      | error fault =>
          cases fault with
          | rejected =>
              rw [create_of_refused hs hkeep] at h
              cases h
          | broken fault =>
              rw [create_of_broken hs hkeep] at h
              cases h

theorem create_eq_ok {c : Creation} (h : (d.create w new title content).2.2 = .ok c) :
    ∃ s, Submission.validate title content = .ok s ∧
      (d.attempt w new s).draft.stored = .ok c.review := by
  rcases create_createdBy h with ⟨s, hs, hcreated⟩
  exact ⟨s, hs, hcreated.row⟩

end Accepted

/-!
# The ways a creation may end

It is refused, breaks off or is rejected by the database, or its draft is kept as a row;
each of them fixes the desk, the requests and the result.
-/

inductive Ended (d : Desk) (w : Outside) :
    Desk → List Request → Except CreationFailure Creation → Prop where
  | turnedAway (rejection : Rejection) : Ended d w d [] (.error (.rejected rejection))
  | saved {after : Desk} {requests : List Request} {draft : Draft} {r : Review}
      (hattempt : Attempted d w after requests draft.fileId) (hrow : draft.stored = .ok r)
      (hfree : ∀ other ∈ d.store.rows, other.id ≠ r.id) :
      Ended d w { after with store := ⟨d.store.rows ++ [r]⟩ } requests (.ok ⟨r, draft.status⟩)
  | takenBack {after : Desk} {requests : List Request} {fileId : Option Json}
      (hattempt : Attempted d w after requests fileId) :
      Ended d w
        { after with store := if fileId.isSome then d.store.eraseAll w.vanishing else d.store }
        (requests ++ (fileId.map .remove).toList) (.error .notSaved)
  | brokenOff {after : Desk} {requests : List Request} {fileId : Option Json}
      (hattempt : Attempted d w after requests fileId) (fault : Fault) :
      Ended d w after requests (.error (.broken fault))

theorem create_ended (d : Desk) (w : Outside) (new : Identity)
    (title content : Option (List Text.Mark)) :
    Ended d w (d.create w new title content).1 (d.create w new title content).2.1
      (d.create w new title content).2.2 := by
  cases hs : Submission.validate title content with
  | error rejection =>
      rw [create_of_rejected hs]
      exact Ended.turnedAway rejection
  | ok s =>
      have hattempt := attempt_attempted d w new s
      cases hkeep : (d.attempt w new s).desk.keep w (d.attempt w new s).draft with
      | ok kept =>
          rcases kept with ⟨after, r⟩
          rw [create_of_kept hs hkeep]
          rcases keep_eq_ok_iff.mp hkeep with ⟨_, hrow, hfree, rfl⟩
          rw [hattempt.store] at hfree ⊢
          exact Ended.saved hattempt hrow hfree
      | error fault =>
          cases fault with
          | rejected =>
              rw [create_of_refused hs hkeep]
              exact Ended.takenBack hattempt
          | broken fault =>
              rw [create_of_broken hs hkeep]
              exact Ended.brokenOff hattempt fault

end Desk

/-!
# A desk at work

A desk with every integration, and an outside where everything goes well.
-/

def Outside.fair : Outside where
  identity := fun _ => ⟨"r1", ⟨0⟩⟩
  tag := fun _ => "t1"
  now := .start
  polish := .ok ⟨.string "好书。", .null,
    .object [("input_tokens", .int 10), ("output_tokens", .int 20)]⟩
  -- the bytes of an object of rates in which a dollar is worth 1300 won
  rate := .ok ⟨200, [123, 34, 99, 111, 110, 118, 101, 114, 115, 105, 111, 110, 95, 114, 97, 116,
    101, 115, 34, 58, 123, 34, 75, 82, 87, 34, 58, 49, 51, 48, 48, 125, 125]⟩
  upload := .ok (.object [("id", .string "drive-123")])
  remove := .ok ()
  vanishing := []

def Desk.furnished : Desk where
  polisher := ⟨true, "gpt-4o-mini"⟩
  prices := Pricing.standard
  office := .make "key" "http://rates/{api_key}/{base}" "usd" "krw" 3600
  archive := ⟨"", .zero false, .credentials (.ok ())⟩
  store := .empty

end ReviewDesk
