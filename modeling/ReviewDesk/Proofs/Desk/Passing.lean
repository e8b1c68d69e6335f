import ReviewDesk.Proofs.Desk.Creation
import ReviewDesk.Proofs.Desk.Deletion

/-!
# Rows that come and go

Without a key for the model a review is created without asking anybody, and its row carries
no file.  Deleting it right away asks nobody either, and gives the desk back as it was.
-/

namespace ReviewDesk
namespace Desk

variable {d : Desk} {w : Outside} {new : Identity} {s : Submission} {row : Review}

def withRow (d : Desk) (row : Review) : Desk :=
  { d with store := ⟨d.store.rows ++ [row]⟩ }

/-- A row with an id that no other one has, and without a file. -/
structure IsApart (d : Desk) (row : Review) : Prop where
  free : ∀ other ∈ d.store.rows, other.id ≠ row.id
  fileless : row.fileId = none

theorem attempt_of_not_configured (h : d.polisher.configured = false) (w : Outside)
    (new : Identity) (s : Submission) :
    (d.attempt w new s).desk = d ∧ (d.attempt w new s).requests = [] ∧
      (d.attempt w new s).draft.fileId = none := by
  have hpolished : d.polished w s = .failure .notConfigured (.string Polisher.notConfigured) := by
    simp only [polished, Polisher.improve, h, Bool.false_eq_true, if_false]
    rfl
  rcases attempt_of_not_polished new hpolished with ⟨hdesk, hrequests⟩
  refine ⟨hdesk, ?_, ?_⟩
  · rw [hrequests, polishing, h]
    rfl
  · rw [draft_of_not_polished new hpolished]

/-!
# Creating
-/

theorem create_of_not_configured (h : d.polisher.configured = false) (w : Outside)
    (new : Identity) (title content : Option (List Text.Mark)) :
    (∃ c, d.create w new title content = (d.withRow c.review, [], .ok c) ∧ d.IsApart c.review) ∨
      ∃ failure, d.create w new title content = (d, [], .error failure) := by
  cases hs : Submission.validate title content with
  | error rejection => exact Or.inr ⟨_, create_of_rejected hs d w new⟩
  | ok s =>
      rcases attempt_of_not_configured h w new s with ⟨hdesk, hrequests, hfile⟩
      cases hkeep : (d.attempt w new s).desk.keep w (d.attempt w new s).draft with
      | ok kept =>
          rcases kept with ⟨after, row⟩
          rcases keep_eq_ok_iff.mp hkeep with ⟨_, hrow, hfree, hafter⟩
          rcases Draft.stored_eq_ok hrow with ⟨_, _, _, _, _, _, _, hkept, _, _⟩
          rw [hdesk] at hfree hafter
          rw [hfile] at hkept
          have hfileless : row.fileId = none := (Except.ok.inj hkept).symm
          apply Or.inl
          refine ⟨⟨row, (d.attempt w new s).draft.status⟩, ?_, hfree, hfileless⟩
          rw [create_of_kept hs hkeep, hrequests, hafter]
          rfl
      | error fault =>
          apply Or.inr
          cases fault with
          | rejected =>
              rw [create_of_refused hs hkeep, hdesk, hrequests, hfile]
              exact ⟨_, rfl⟩
          | broken fault =>
              rw [create_of_broken hs hkeep, hdesk, hrequests]
              exact ⟨_, rfl⟩

/-!
# Deleting
-/

theorem delete_withRow (h : d.IsApart row) (w : Outside) :
    (d.withRow row).delete w row.id = (d, [], .ok ⟨false, []⟩) := by
  have hfree : d.store.contains row.id = false := Store.contains_eq_false_iff.mpr h.free
  have hfound : (d.withRow row).find? row.id = some row := Store.find?_append_self hfree
  have hcontains : (d.withRow row).store.contains row.id = true := Option.isSome_of_eq_some hfound
  have herased : (d.withRow row).store.erase row.id = d.store := Store.erase_append_self hfree
  rw [delete, hfound]
  simp only [removeFileOf, h.fileless, deleteRow?, hcontains, if_true, herased]
  rfl

end Desk
end ReviewDesk
