import ReviewDesk.Proofs.Desk.Interleaving

/-!
# Steps that spare a row

Whatever a creation does, and at whatever moment it does it, the row of another id stays as
it is, and so it does when another review is deleted.
-/

namespace ReviewDesk

open Text

/-!
# Steps that spare a row
-/

structure Desk.Spares (d : Desk) (id : String) (after : Desk) : Prop where
  found : after.find? id = d.find? id
  reachable : d.archive.Reachable → after.archive.Reachable

namespace Desk

variable {d : Desk} {w : Outside} {id : String}

theorem spares_of_store {after : Desk} (hstore : after.store = d.store)
    (hreachable : d.archive.Reachable → after.archive.Reachable) : d.Spares id after where
  found := by rw [find?, hstore, find?]
  reachable := hreachable

theorem spares_self (d : Desk) (id : String) : d.Spares id d :=
  spares_of_store rfl fun h => h

theorem reachable_remove {a : Archive} (h : a.Reachable) (answer : Except Fault Unit)
    (fileId : Json) : (a.remove answer fileId).1.Reachable := by
  rcases Archive.remove_cases a answer fileId with ⟨_, harchive, _⟩ | ⟨hunreachable, _, _⟩
  · rw [harchive]
    exact Or.inl rfl
  · exact absurd h hunreachable

theorem removeFile_spares (hvanish : w.vanishing = []) (d : Desk) (id : String) (fileId : Json) :
    d.Spares id (d.removeFile w fileId).1 :=
  spares_of_store (by simp [removeFile, hvanish]) fun h => reachable_remove h w.remove fileId

theorem removeFileOf_spares (hvanish : w.vanishing = []) (d : Desk) (id : String) (r : Review) :
    d.Spares id (d.removeFileOf w r).1 := by
  cases hfile : r.file? with
  | none =>
      rw [removeFileOf_of_no_file hfile]
      exact spares_self d id
  | some f =>
      rw [removeFileOf_of_file hfile]
      exact removeFile_spares hvanish d id _

theorem giveUp_spares (hvanish : w.vanishing = []) (d : Desk) (id : String)
    (fileId : Option Json) (fault : SaveFault) : d.Spares id (d.giveUp w fileId fault).1 := by
  cases fault with
  | broken fault =>
      exact spares_self d id
  | rejected =>
      cases fileId with
      | none => exact spares_self d id
      | some file => exact removeFile_spares hvanish d id file

theorem uploadStep_spares (d : Desk) (w : Outside) (id : String) (title : List Text.Mark)
    (p : Polished) : d.Spares id { d with archive := (d.uploadStep w title p).1 } := by
  refine spares_of_store rfl fun h => ?_
  rcases uploadStep_archive d w title p with ⟨_, harchive⟩ | ⟨_, harchive⟩
  · dsimp only
    rw [harchive]
    exact Or.inl rfl
  · dsimp only
    rw [harchive]
    exact h

theorem keep_spares {draft : Draft} {after : Desk} {r : Review} (hid : draft.id ≠ id)
    (h : d.keep w draft = .ok (after, r)) : d.Spares id after := by
  rcases keep_eq_ok_iff.mp h with ⟨_, hstored, _, rfl⟩
  have hrow : r.id ≠ id := by
    rw [(Draft.stored_eq_ok hstored).left]
    exact hid
  exact
    { found := Store.find?_append_of_ne hrow
      reachable := fun h => h }

end Desk

namespace Making

variable {id : String}

/-- No turn of the creation touches the row of this id, whatever the desk is like by then. -/
inductive Spares (id : String) : Making → Prop where
  | ended (result : Except CreationFailure Creation) : Spares id (.ended result)
  | turn {take : Desk → Outside → Desk × List Request × Making}
      (hdesk : ∀ (d : Desk) (w : Outside), w.vanishing = [] → d.Spares id (take d w).1)
      (hnext : ∀ (d : Desk) (w : Outside), w.vanishing = [] → Spares id (take d w).2.2) :
      Spares id (.turn take)

theorem spares_givingUp (id : String) (fileId : Option Json) (fault : SaveFault) :
    (givingUp fileId fault).Spares id :=
  Spares.turn (fun d _ hvanish => Desk.giveUp_spares hvanish d id fileId fault)
    fun _ _ _ => Spares.ended _

theorem spares_saving {draft : Draft} (h : draft.id ≠ id) : (saving draft).Spares id := by
  apply Spares.turn
  · intro d w _
    cases hkeep : d.keep w draft with
    | ok kept => exact Desk.keep_spares h hkeep
    | error fault => exact Desk.spares_self d id
  · intro d w _
    cases hkeep : d.keep w draft with
    | ok kept => exact Spares.ended _
    | error fault => exact spares_givingUp id _ fault

theorem spares_archiving {new : Identity} (h : new.id ≠ id) (s : Submission) (p : Polished)
    (costs : Option Costs) (costed : Outcome Unit) : (archiving new s p costs costed).Spares id :=
  Spares.turn (fun d w _ => Desk.uploadStep_spares d w id s.title p)
    fun _ _ _ => spares_saving h

theorem spares_costing {new : Identity} (h : new.id ≠ id) (s : Submission) (p : Polished) :
    (costing new s p).Spares id :=
  Spares.turn (fun _ _ _ => Desk.spares_of_store rfl fun h => h)
    fun _ _ _ => spares_archiving h s p _ _

theorem spares_polishing {new : Identity} (h : new.id ≠ id) (s : Submission) :
    (polishing new s).Spares id := by
  apply Spares.turn
  · intro d w _
    dsimp only
    split
    · exact Desk.spares_self d id
    · exact Desk.spares_self d id
  · intro d w _
    dsimp only
    split
    · exact spares_saving h
    · exact spares_costing h s _

theorem spares_start {new : Identity} (h : new.id ≠ id)
    (title content : Option (List Text.Mark)) : (start new title content).Spares id := by
  unfold start
  cases Submission.validate title content with
  | error rejection => exact Spares.ended _
  | ok s => exact spares_polishing h s

theorem spares_step {m : Making} {w : Outside} (h : m.Spares id) (hvanish : w.vanishing = [])
    (d : Desk) : d.Spares id (m.step d w).1 ∧ (m.step d w).2.2.Spares id := by
  cases h with
  | ended result => exact ⟨Desk.spares_self d id, Spares.ended result⟩
  | turn hdesk hnext => exact ⟨hdesk d w hvanish, hnext d w hvanish⟩

end Making
/-!
# Deletions of other reviews
-/

namespace Desk

variable {d after : Desk} {w : Outside} {id other : String} {r : Review}

theorem deleteRow?_of_found (h : d.find? id = some r) :
    d.deleteRow? id = some { d with store := d.store.erase id } := by
  rw [find?] at h
  simp [deleteRow?, Store.contains, h]

theorem deleteRow?_of_missing (h : d.find? id = none) : d.deleteRow? id = none := by
  rw [find?] at h
  simp [deleteRow?, Store.contains, h]

theorem deleteRow?_eq_some (h : d.deleteRow? id = some after) :
    after = { d with store := d.store.erase id } := by
  unfold deleteRow? at h
  split at h
  · cases h
    rfl
  · cases h

theorem deleteRow?_spares (hother : other ≠ id) (h : d.deleteRow? other = some after) :
    d.Spares id after := by
  rw [deleteRow?_eq_some h]
  exact
    { found := Store.find?_erase_of_ne hother
      reachable := fun h => h }

def others (d : Desk) (id : String) : List Review :=
  d.store.rows.filter (·.id ≠ id)

theorem others_deleteRow? (h : d.deleteRow? id = some after) : after.others id = d.others id := by
  rw [deleteRow?_eq_some h]
  simp [others, Store.rows_erase]

theorem others_removeFileOf (hvanish : w.vanishing = []) (d : Desk) (r : Review) (id : String) :
    (d.removeFileOf w r).1.others id = d.others id := by
  by_cases hasks : d.Asks r
  · simp [others, (removeFileOf_of_asks hasks w).right, hvanish]
  · rw [(removeFileOf_of_not_asks hasks w).left]

end Desk

namespace Removal

variable {m : Removal} {w : Outside} {id : String}

theorem step_cases (m : Removal) (d : Desk) (w : Outside) :
    (m.step d w).2.id = m.id ∧
      ((m.step d w).1 = d ∨ (∃ r, (m.step d w).1 = (d.removeFileOf w r).1) ∨
        d.deleteRow? m.id = some (m.step d w).1) := by
  unfold step
  cases m.stage with
  | looking =>
      dsimp only
      split
      · exact ⟨rfl, Or.inl rfl⟩
      · exact ⟨rfl, Or.inl rfl⟩
  | clearing r => exact ⟨rfl, Or.inr (Or.inl ⟨r, rfl⟩)⟩
  | erasing deletion =>
      dsimp only
      split
      · rename_i after hdeleted
        exact ⟨rfl, Or.inr (Or.inr hdeleted)⟩
      · exact ⟨rfl, Or.inl rfl⟩
  | ended result => exact ⟨rfl, Or.inl rfl⟩

theorem others_step (hvanish : w.vanishing = []) (m : Removal) (d : Desk) :
    (m.step d w).1.others m.id = d.others m.id := by
  rcases (step_cases m d w).right with hsame | ⟨r, hremoved⟩ | hdeleted
  · rw [hsame]
  · rw [hremoved]
    exact Desk.others_removeFileOf hvanish d r m.id
  · exact Desk.others_deleteRow? hdeleted

theorem step_spares (h : m.id ≠ id) (hvanish : w.vanishing = []) (d : Desk) :
    d.Spares id (m.step d w).1 := by
  rcases (step_cases m d w).right with hsame | ⟨r, hremoved⟩ | hdeleted
  · rw [hsame]
    exact Desk.spares_self d id
  · rw [hremoved]
    exact Desk.removeFileOf_spares hvanish d id r
  · exact Desk.deleteRow?_spares h hdeleted

end Removal
end ReviewDesk
