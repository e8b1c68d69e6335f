import ReviewDesk.Proofs.Desk.History

/-!
# Effects of operations

As long as nobody else deletes rows and saving does not break off, an operation saves a
review at the end of the rows, or deletes the rows of one id, or leaves the rows alone.
In the last case it asks for the removal of the very file that it archived.
-/

namespace ReviewDesk

def Operation.KeepsRows : Operation → Prop
  | create w _ _ _ => w.vanishing = []
  | delete w _ => w.vanishing = []
  | vanish ids => ids = []
  | _ => True

def Reply.brokeOff : Reply → Bool
  | created (.error (.broken _)) => true
  | _ => false

namespace Desk

variable {d after : Desk} {w : Outside}

/-!
# What an operation can do
-/

/-- The desk after an operation, with the files that it asked to be removed, the file
that it archived and the review that it saved. -/
inductive Effect (d : Desk) : Desk → List Json → Option Json → Option Review → Prop where
  | unsaved {after : Desk} (fileId : Option Json) (hstore : after.store = d.store) :
      Effect d after fileId.toList fileId none
  | saved {after : Desk} {fileId : Option Json} {r : Review}
      (hstore : after.store = ⟨d.store.rows ++ [r]⟩)
      (hfree : ∀ other ∈ d.store.rows, other.id ≠ r.id)
      (hfile : Column.optional Column.text fileId = .ok r.fileId) :
      Effect d after [] fileId (some r)
  | deleted {after : Desk} {removed : List Json} {r : Review} (hrow : r ∈ d.store.rows)
      (hstore : after.store = d.store.erase r.id)
      (hremoved : ∀ fileId ∈ removed, ∃ f, fileId = .string f ∧ r.fileId = some f)
      (hasked : d.archive.access = .connected → ∀ f, r.fileId = some f → f ≠ "" →
        .string f ∈ removed) :
      Effect d after removed none none

theorem effect_of_ended {requests : List Request} {result : Except CreationFailure Creation}
    (h : Ended d w after requests result) (hvanish : w.vanishing = [])
    (hsaving : (Reply.created result).brokeOff = false) :
    Effect d after (removals requests) (w.uploadedId? requests) (Reply.created result).saved? := by
  cases h with
  | turnedAway rejection =>
      exact Effect.unsaved none rfl
  | saved hattempt hrow hfree =>
      rcases Draft.stored_eq_ok hrow with ⟨_, _, _, _, _, _, _, hfile, _, _⟩
      rw [hattempt.removals, hattempt.uploaded]
      exact Effect.saved rfl hfree hfile
  | takenBack hattempt =>
      rename_i desk requests fileId
      rw [removals_append, hattempt.removals, removals_map_remove, uploadedId?_append_remove,
        hattempt.uploaded, hvanish]
      refine Effect.unsaved fileId ?_
      cases fileId with
      | none => rfl
      | some id => rfl
  | brokenOff hattempt fault =>
      cases hsaving

theorem connected_of_ended {requests : List Request} {result : Except CreationFailure Creation}
    (h : Ended d w after requests result)
    (hconnected : d.archive.access = .connected ∨ (w.uploadedId? requests).isSome = true) :
    after.archive.access = .connected := by
  cases h with
  | turnedAway rejection =>
      rcases hconnected with hconnected | hsome
      · exact hconnected
      · cases hsome
  | saved hattempt hrow hfree =>
      rw [hattempt.uploaded] at hconnected
      exact hattempt.connected hconnected
  | takenBack hattempt =>
      rw [uploadedId?_append_remove, hattempt.uploaded] at hconnected
      exact hattempt.connected hconnected
  | brokenOff hattempt fault =>
      rw [hattempt.uploaded] at hconnected
      exact hattempt.connected hconnected

theorem effect_of_delete (d : Desk) (hvanish : w.vanishing = []) (id : String) :
    Effect d (d.delete w id).1 (removals (d.delete w id).2.1) none none := by
  cases hfound : d.find? id with
  | none =>
      rw [delete_of_missing hfound]
      exact Effect.unsaved none rfl
  | some r =>
      rcases delete_of_found hfound w with ⟨hdesk, hrequests⟩
      rcases Store.mem_of_find? hfound with ⟨hrow, rfl⟩
      have hcleared := removeFileOf_cleared d w r
      have hstore : (d.removeFileOf w r).1.store = d.store := by
        simpa [hvanish] using hcleared.store
      rw [hdesk, hrequests]
      exact Effect.deleted hrow (by rw [hstore]) hcleared.removals hcleared.asked

theorem uploadedId?_delete (d : Desk) (w : Outside) (id : String) :
    w.uploadedId? (d.delete w id).2.1 = none := by
  cases hfound : d.find? id with
  | none =>
      rw [delete_of_missing hfound]
      rfl
  | some r =>
      rw [(delete_of_found hfound w).right]
      exact (removeFileOf_cleared d w r).uploaded

theorem connected_of_delete (h : d.archive.access = .connected) (w : Outside) (id : String) :
    (d.delete w id).1.archive.access = .connected := by
  cases hfound : d.find? id with
  | none =>
      rw [delete_of_missing hfound]
      exact h
  | some r =>
      rw [(delete_of_found hfound w).left]
      exact (removeFileOf_cleared d w r).connected h

theorem entry_effect {op : Operation} (hkeeps : op.KeepsRows)
    (hsaving : (d.entry op).reply.brokeOff = false) :
    Effect d (d.perform op).1 (removals (d.entry op).requests) (d.entry op).uploaded?
      (d.entry op).saved? := by
  cases op with
  | create w new title content =>
      simp only [entry, perform_create] at hsaving
      simp only [entry, perform_create, Entry.uploaded?, Operation.outside?, Option.bind_some]
      exact effect_of_ended (create_ended d w new title content) hkeeps hsaving
  | delete w id =>
      simp only [entry, perform_delete, Entry.uploaded?, Operation.outside?, Option.bind_some,
        uploadedId?_delete]
      exact effect_of_delete d hkeeps id
  | get id =>
      exact Effect.unsaved none rfl
  | list =>
      exact Effect.unsaved none rfl
  | vanish ids =>
      cases hkeeps
      exact Effect.unsaved none rfl

theorem entry_connected {op : Operation}
    (h : d.archive.access = .connected ∨ (d.entry op).uploaded?.isSome = true) :
    (d.perform op).1.archive.access = .connected := by
  cases op with
  | create w new title content =>
      simp only [entry, perform_create, Entry.uploaded?, Operation.outside?, Option.bind_some] at h
      simp only [perform_create]
      exact connected_of_ended (create_ended d w new title content) h
  | delete w id =>
      simp only [entry, perform_delete, Entry.uploaded?, Operation.outside?, Option.bind_some,
        uploadedId?_delete] at h
      simp only [perform_delete]
      exact connected_of_delete (by simpa using h) w id
  | get id =>
      simpa [entry, perform, Entry.uploaded?, Operation.outside?] using h
  | list =>
      simpa [entry, perform, Entry.uploaded?, Operation.outside?] using h
  | vanish ids =>
      simpa [entry, perform, Entry.uploaded?, Operation.outside?] using h

end Desk

end ReviewDesk
