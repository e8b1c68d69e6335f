import ReviewDesk.Proofs.Desk.Creation

/-!
# Archived files without a row

When a review was archived and no row of it is left behind, its file is asked to be
removed, once, and the creation says that the review was not saved; this is so exactly
when saving did not break off.  A value that cannot even be handed over to the database
leaves the file where it is.
-/

namespace ReviewDesk
namespace Desk

variable {d : Desk} {w : Outside} {new : Identity}
  {title content : Option (List Text.Mark)} {s : Submission}

theorem uploadedId?_create (hs : Submission.validate title content = .ok s) :
    w.uploadedId? (d.create w new title content).2.1 = (d.attempt w new s).draft.fileId := by
  rcases create_requests hs d w new with ⟨remove, hrequests, _⟩
  rw [hrequests, uploadedId?_append_remove]
  exact (attempt_attempted d w new s).uploaded

/-- If a file was archived and the new row is not in the store, the file was asked to be
removed, once, and the review is said not to be saved, exactly when saving did not break
off; when it did, no removal was asked for. -/
theorem create_without_row {f : Json} (hs : Submission.validate title content = .ok s)
    (hfile : w.uploadedId? (d.create w new title content).2.1 = some f)
    (hlost : ∀ c, (d.create w new title content).2.2 = .ok c →
      c.review ∉ (d.create w new title content).1.store.rows) :
    (removals (d.create w new title content).2.1 = [f] ∧
        (d.create w new title content).2.2 = .error .notSaved ↔
      ¬ SavingBreaksOff w (d.attempt w new s).draft) ∧
    (SavingBreaksOff w (d.attempt w new s).draft →
      removals (d.create w new title content).2.1 = [] ∧
        ∃ fault, (d.create w new title content).2.2 = .error (.broken fault)) := by
  have hattempt := attempt_attempted d w new s
  rw [uploadedId?_create hs] at hfile
  rw [← keep_broken_iff (d := (d.attempt w new s).desk)]
  cases hkeep : (d.attempt w new s).desk.keep w (d.attempt w new s).draft with
  | ok kept =>
      rcases kept with ⟨after, r⟩
      rcases keep_eq_ok_iff.mp hkeep with ⟨_, _, _, rfl⟩
      rw [create_of_kept hs hkeep] at hlost
      exact absurd (by simp) (hlost _ rfl)
  | error fault =>
      cases fault with
      | rejected =>
          rw [create_of_refused hs hkeep, removals_append, removals_map_remove,
            hattempt.removals, hfile]
          simp
      | broken fault =>
          rw [create_of_broken hs hkeep]
          simp [hattempt.removals]

def crowded : Desk :=
  (furnished.create .fair ⟨"r1", ⟨0⟩⟩ (some "书") (some "好")).1

theorem create_without_row_of_taken_id :
    removals (crowded.create .fair ⟨"r1", ⟨0⟩⟩ (some "题") (some "文")).2.1 =
        [.string "drive-123"] ∧
      (crowded.create .fair ⟨"r1", ⟨0⟩⟩ (some "题") (some "文")).2.2 = .error .notSaved := by
  have hs : Submission.validate (some "题") (some "文") = .ok ⟨"题", "文"⟩ := by rfl
  have hresult : (crowded.create .fair ⟨"r1", ⟨0⟩⟩ (some "题") (some "文")).2.2 =
      .error .notSaved := by rfl
  have hkeep : (crowded.attempt .fair ⟨"r1", ⟨0⟩⟩ ⟨"题", "文"⟩).desk.keep .fair
      (crowded.attempt .fair ⟨"r1", ⟨0⟩⟩ ⟨"题", "文"⟩).draft = .error .rejected := by rfl
  apply (create_without_row hs (by rfl) _).left.mpr
  · rw [← keep_broken_iff (d := (crowded.attempt .fair ⟨"r1", ⟨0⟩⟩ ⟨"题", "文"⟩).desk), hkeep]
    simp
  · intro c hc
    rw [hresult] at hc
    cases hc

end Desk

def Outside.verbose : Outside :=
  { Outside.fair with
    polish := .ok ⟨.string "好书。", .null, .object [("input_tokens", .int 9223372036854775808)]⟩ }

namespace Desk

/-- The file stays in the archive, nobody is asked to remove it, and no review is saved. -/
theorem create_leaves_file :
    Outside.verbose.uploadedId? (furnished.create .verbose ⟨"r1", ⟨0⟩⟩ (some "书") (some "好")).2.1 =
        some (.string "drive-123") ∧
      removals (furnished.create .verbose ⟨"r1", ⟨0⟩⟩ (some "书") (some "好")).2.1 = [] ∧
      (furnished.create .verbose ⟨"r1", ⟨0⟩⟩ (some "书") (some "好")).2.2 =
        .error (.broken (.overflow Column.tooLargeText)) ∧
      (furnished.create .verbose ⟨"r1", ⟨0⟩⟩ (some "书") (some "好")).1.store.rows = [] :=
  ⟨rfl, rfl, rfl, rfl⟩

end Desk
end ReviewDesk
