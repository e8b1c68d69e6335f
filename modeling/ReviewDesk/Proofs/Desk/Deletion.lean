import ReviewDesk.Desk.Deletion
import ReviewDesk.Proofs.Desk.Requests
import ReviewDesk.Proofs.Review.Store

/-!
# What deleting does

Deleting a review asks at most for the removal of the file that the review carries, and
whatever becomes of that, no row of its id is left.
-/

namespace ReviewDesk

namespace Desk

variable {d : Desk} {w : Outside} {r : Review} {id : String}

/-!
# Removing the file of a review
-/

structure Cleared (d : Desk) (w : Outside) (r : Review) (after : Desk) (requests : List Request) :
    Prop where
  store : after.store = d.store ∨ after.store = d.store.eraseAll w.vanishing
  prices : after.prices = d.prices
  office : after.office = d.office
  connected : d.archive.access = .connected → after.archive.access = .connected
  uploaded : w.uploadedId? requests = none
  removals : ∀ fileId ∈ removals requests, ∃ f, fileId = .string f ∧ r.fileId = some f
  asked : d.archive.access = .connected → ∀ f, r.fileId = some f → f ≠ "" →
    .string f ∈ ReviewDesk.removals requests

theorem cleared_untouched (d : Desk) (w : Outside) {r : Review}
    (h : ∀ f, r.fileId = some f → f = "" ∨ d.archive.access ≠ .connected) :
    Cleared d w r d [] where
  store := Or.inl rfl
  prices := rfl
  office := rfl
  connected := id
  uploaded := rfl
  removals := by
    intro fileId hmem
    cases hmem
  asked := by
    intro hconnected f hf hne
    rcases h f hf with hempty | hnot
    · exact absurd hempty hne
    · exact absurd hconnected hnot

theorem removeFile_cleared (d : Desk) (w : Outside) {r : Review} {f : String}
    (hf : r.fileId = some f) :
    Cleared d w r (d.removeFile w (.string f)).1 (d.removeFile w (.string f)).2.requests := by
  rcases Archive.remove_cases d.archive w.remove (.string f) with
    ⟨_, harchive, hrequests⟩ | ⟨hunreachable, harchive, hrequests⟩
  · have hasks : asksRemoval (d.archive.remove w.remove (.string f)).2.requests = true := by
      rw [hrequests]
      simp [asksRemoval]
    have hremovals : ReviewDesk.removals (d.removeFile w (.string f)).2.requests = [.string f] := by
      simp only [removeFile, hrequests]
      cases d.archive.connecting? with
      | none => rfl
      | some timeout => rfl
    exact
      { store := by simp [removeFile, hasks]
        prices := rfl
        office := rfl
        connected := by simp [removeFile, harchive, Archive.connected]
        uploaded := by
          simp only [removeFile, hrequests]
          cases d.archive.connecting? with
          | none => rfl
          | some timeout => rfl
        removals := by
          rw [hremovals]
          intro fileId hmem
          exact ⟨f, List.mem_singleton.mp hmem, hf⟩
        asked := by
          rw [hremovals]
          intro _ g hg _
          rw [hf] at hg
          cases hg
          exact List.mem_singleton.mpr rfl }
  · have hsame : (d.removeFile w (.string f)).1 = d := by
      simp [removeFile, harchive, hrequests, asksRemoval]
    have hnone : (d.removeFile w (.string f)).2.requests = [] := hrequests
    rw [hsame, hnone]
    exact cleared_untouched d w fun _ _ => Or.inr fun hconnected => hunreachable (Or.inl hconnected)

theorem removeFileOf_cleared (d : Desk) (w : Outside) (r : Review) :
    Cleared d w r (d.removeFileOf w r).1 (d.removeFileOf w r).2.1 := by
  unfold removeFileOf
  split
  · rename_i hnone
    exact cleared_untouched d w (by simp [hnone])
  · rename_i f hf
    split
    · rename_i hempty
      have hf' : f = "" := by simpa using hempty
      exact cleared_untouched d w (by simp [hf, hf'])
    · exact removeFile_cleared d w hf

/-!
# Deleting a row
-/

theorem delete_of_missing (h : d.find? id = none) (w : Outside) :
    d.delete w id = (d, [], .error ⟨id⟩) := by
  simp [delete, h]

theorem delete_of_found (h : d.find? id = some r) (w : Outside) :
    (d.delete w id).1 =
        { (d.removeFileOf w r).1 with store := (d.removeFileOf w r).1.store.erase id } ∧
      (d.delete w id).2.1 = (d.removeFileOf w r).2.1 := by
  cases hcontains : (d.removeFileOf w r).1.store.contains id with
  | true =>
      simp [delete, h, deleteRow?, hcontains]
  | false =>
      rw [Store.erase_of_not_contains hcontains]
      simp [delete, h, deleteRow?, hcontains]

end Desk
end ReviewDesk
