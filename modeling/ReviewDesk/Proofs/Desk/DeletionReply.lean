import ReviewDesk.Proofs.Desk.Deletion
import ReviewDesk.Proofs.Desk.Orphans

/-!
# What a deletion replies

A deletion of a review that is not there asks for nothing and changes nothing.  Otherwise
the file that the review names is asked to be removed, once, as long as the archive can be
reached; whatever comes of that, the row goes, unless somebody else deleted it meanwhile,
and the reply tells whether the file is gone too.
-/

namespace ReviewDesk

def Review.file? (r : Review) : Option String :=
  r.fileId.filter (· ≠ "")

def Outside.RemovesFile (w : Outside) : Prop :=
  w.remove = .ok () ∨ ∃ text, w.remove = .error (.archive (.status 404) text)

theorem Review.file?_eq_some_iff {r : Review} {f : String} :
    r.file? = some f ↔ r.fileId = some f ∧ f ≠ "" := by
  simp [Review.file?, Option.filter_eq_some_iff]

theorem Review.file?_eq_none_iff {r : Review} :
    r.file? = none ↔ ∀ f, r.fileId = some f → f = "" := by
  simp [Review.file?, Option.filter_eq_none_iff]

namespace Archive

variable {a : Archive}

theorem removeResult_eq_success_iff (answer : Except Fault Unit) :
    removeResult answer = .ok (.success ()) ↔
      answer = .ok () ∨ ∃ text, answer = .error (.archive (.status 404) text) := by
  unfold removeResult
  split
  · simp
  · simp
  · rename_i fault hother
    have hnot : ∀ text, fault ≠ .archive (.status 404) text := by
      intro text h
      exact hother text (by rw [h])
    simp [ofFault_ne_success, hnot]

def FindsNothing (a : Archive) : Prop :=
  ∃ text, a.access = .credentials (.error (.archive (.status 404) text))

theorem remove_ok_iff (answer : Except Fault Unit) (id : Json) :
    (a.remove answer id).2.outcome.ok = true ↔
      a.Reachable ∧ (answer = .ok () ∨ ∃ text, answer = .error (.archive (.status 404) text)) ∨
        a.FindsNothing := by
  have hok : (a.remove answer id).2.outcome.ok = true ↔
      (a.remove answer id).2.result = .ok (.success ()) := by
    rw [Outcome.ok_eq_true_iff, Answered.outcome]
    constructor
    · rintro ⟨_, h⟩
      exact Outcome.ofAttempt_eq_success_iff.mp h
    · intro h
      exact ⟨(), Outcome.ofAttempt_eq_success_iff.mpr h⟩
  rw [hok]
  by_cases h : a.Reachable
  · have hsomething : ¬ a.FindsNothing := by
      intro hnothing
      rcases hnothing with ⟨text, haccess⟩
      rcases h with h | h
      · rw [h] at haccess
        cases haccess
      · rw [h] at haccess
        cases haccess
    simp [remove, send_of_reachable h, h, hsomething, removeResult_eq_success_iff]
  · rcases access_of_not_reachable h with habsent | ⟨fault, hrefused⟩
    · simp [remove, send_of_absent habsent, h, FindsNothing, habsent, Outcome.refuse]
    · simp [remove, send_of_refused hrefused, h, FindsNothing, hrefused,
        removeResult_eq_success_iff]

end Archive

namespace Desk

variable {d : Desk} {w : Outside} {id f : String} {r : Review}

def Asks (d : Desk) (r : Review) : Prop :=
  d.archive.Reachable ∧ r.file?.isSome = true

/-!
# Removing the file

The removal is asked for when the review names a file and the archive can be reached.  An
attempt to connect may itself be answered as if the file were not there any more.
-/

theorem removeFileOf_of_no_file (h : r.file? = none) (d : Desk) (w : Outside) :
    d.removeFileOf w r = (d, [], ⟨false, []⟩) := by
  have hempty := Review.file?_eq_none_iff.mp h
  unfold removeFileOf
  split
  · rfl
  · rename_i f hf
    rw [if_pos (by simp [hempty f hf])]

theorem removeFileOf_of_file (h : r.file? = some f) (d : Desk) (w : Outside) :
    d.removeFileOf w r =
      ((d.removeFile w (.string f)).1, (d.removeFile w (.string f)).2.requests,
        ⟨(d.removeFile w (.string f)).2.outcome.ok,
          if (d.removeFile w (.string f)).2.outcome.ok then [] else [fileWarning f]⟩) := by
  rcases Review.file?_eq_some_iff.mp h with ⟨hf, hne⟩
  simp [removeFileOf, hf, hne]

theorem removeFileOf_of_asks (h : d.Asks r) (w : Outside) :
    (∀ f, r.file? = some f → removals (d.removeFileOf w r).2.1 = [.string f]) ∧
      (d.removeFileOf w r).1.store = d.store.eraseAll w.vanishing := by
  rcases h with ⟨hreachable, hsome⟩
  rcases Option.isSome_iff_exists.mp hsome with ⟨f, hf⟩
  rcases Archive.remove_cases d.archive w.remove (.string f) with
    ⟨_, _, hrequests⟩ | ⟨hunreachable, _, _⟩
  · rw [removeFileOf_of_file hf]
    constructor
    · intro g hg
      rw [hf] at hg
      cases hg
      simp only [removeFile, hrequests]
      cases d.archive.connecting? with
      | none => rfl
      | some timeout => rfl
    · simp [removeFile, hrequests, asksRemoval]
  · exact absurd hreachable hunreachable

theorem removeFileOf_of_not_asks (h : ¬ d.Asks r) (w : Outside) :
    (d.removeFileOf w r).1 = d ∧ (d.removeFileOf w r).2.1 = [] := by
  cases hfile : r.file? with
  | none =>
      rw [removeFileOf_of_no_file hfile]
      exact ⟨rfl, rfl⟩
  | some f =>
      have hunreachable : ¬ d.archive.Reachable := fun hreachable => h ⟨hreachable, by simp [hfile]⟩
      rcases Archive.remove_cases d.archive w.remove (.string f) with
        ⟨hreachable, _, _⟩ | ⟨_, harchive, hrequests⟩
      · exact absurd hreachable hunreachable
      · rw [removeFileOf_of_file hfile]
        simp [removeFile, harchive, hrequests, asksRemoval]

theorem removeFileOf_deletion (d : Desk) (w : Outside) (r : Review) :
    ((d.removeFileOf w r).2.2.fileRemoved = true ↔
        d.Asks r ∧ w.RemovesFile ∨ d.archive.FindsNothing ∧ r.file?.isSome = true) ∧
      (∀ f, r.file? = some f → (d.removeFileOf w r).2.2.fileRemoved = false →
        (d.removeFileOf w r).2.2.warnings = [fileWarning f]) ∧
      (r.file? = none ∨ (d.removeFileOf w r).2.2.fileRemoved = true →
        (d.removeFileOf w r).2.2.warnings = []) := by
  cases hfile : r.file? with
  | none =>
      rw [removeFileOf_of_no_file hfile]
      simp [Asks, hfile]
  | some f =>
      rw [removeFileOf_of_file hfile]
      have hok := Archive.remove_ok_iff (a := d.archive) w.remove (.string f)
      refine ⟨?_, ?_, ?_⟩
      · simpa [Asks, hfile, removeFile, Outside.RemovesFile] using hok
      · intro g hg hkept
        cases hg
        dsimp only at hkept ⊢
        rw [hkept]
        rfl
      · rintro (hnone | hremoved)
        · cases hnone
        · dsimp only at hremoved ⊢
          rw [if_pos hremoved]

theorem isInfix_append (before s after : String) :
    s.toList <:+: (before ++ s ++ after).toList := by
  rw [String.toList_append, String.toList_append]
  exact List.infix_append before.toList s.toList after.toList

theorem isInfix_fileWarning (f : String) : f.toList <:+: (fileWarning f).toList :=
  isInfix_append "Google Drive 文件未能删除（" f "）"

/-!
# The reply
-/

structure Deletes (d : Desk) (w : Outside) (id : String) (r : Review) : Prop where
  asked : ∀ f, r.file? = some f → d.archive.Reachable →
    removals (d.delete w id).2.1 = [.string f]
  unasked : ¬ d.Asks r → (d.delete w id).2.1 = []
  gone : d.Asks r ∧ id ∈ w.vanishing → (d.delete w id).2.2 = .error ⟨id⟩
  deleted : ¬ (d.Asks r ∧ id ∈ w.vanishing) → ∃ deletion, (d.delete w id).2.2 = .ok deletion ∧
    (deletion.fileRemoved = true ↔
      d.Asks r ∧ w.RemovesFile ∨ d.archive.FindsNothing ∧ r.file?.isSome = true) ∧
    (∀ f, r.file? = some f → deletion.fileRemoved = false →
      ∃ warning, deletion.warnings = [warning] ∧ f.toList <:+: warning.toList) ∧
    (r.file? = none ∨ deletion.fileRemoved = true → deletion.warnings = [])
  rowsAsked : d.Asks r → (d.delete w id).1.store.rows =
    d.store.rows.filter fun other => other.id ≠ id ∧ other.id ∉ w.vanishing
  rowsUnasked : ¬ d.Asks r → (d.delete w id).1.store.rows =
    d.store.rows.filter fun other => other.id ≠ id

theorem delete_of_kept (h : d.find? id = some r)
    (hrow : (d.removeFileOf w r).1.store.contains id = true) :
    (d.delete w id).2.2 = .ok (d.removeFileOf w r).2.2 := by
  simp [delete, h, deleteRow?, hrow]

theorem delete_of_vanished (h : d.find? id = some r)
    (hrow : (d.removeFileOf w r).1.store.contains id = false) :
    (d.delete w id).2.2 = .error ⟨id⟩ := by
  simp [delete, h, deleteRow?, hrow]

theorem contains_removeFileOf_iff (h : d.find? id = some r) (w : Outside) :
    (d.removeFileOf w r).1.store.contains id = false ↔ d.Asks r ∧ id ∈ w.vanishing := by
  rcases Store.mem_of_find? h with ⟨hrow, rfl⟩
  rw [Store.contains_eq_false_iff]
  by_cases hasks : d.Asks r
  · rw [(removeFileOf_of_asks hasks w).right]
    constructor
    · intro hgone
      refine ⟨hasks, ?_⟩
      by_contra hkept
      exact hgone r (Store.mem_eraseAll.mpr ⟨hrow, hkept⟩) rfl
    · rintro ⟨_, hvanished⟩ other hother hid
      rw [← hid] at hvanished
      exact (Store.mem_eraseAll.mp hother).right hvanished
  · rw [(removeFileOf_of_not_asks hasks w).left]
    constructor
    · intro hgone
      exact absurd rfl (hgone r hrow)
    · rintro ⟨hother, _⟩
      exact absurd hother hasks

theorem delete_deletes (h : d.find? id = some r) (w : Outside) : d.Deletes w id r := by
  rcases delete_of_found h w with ⟨hdesk, hrequests⟩
  have hcontains := contains_removeFileOf_iff h w
  rcases removeFileOf_deletion d w r with ⟨hremoved, hwarned, hsilent⟩
  exact
    { asked := by
        intro f hf hreachable
        rw [hrequests]
        exact (removeFileOf_of_asks ⟨hreachable, by simp [hf]⟩ w).left f hf
      unasked := by
        intro hasks
        rw [hrequests]
        exact (removeFileOf_of_not_asks hasks w).right
      gone := fun hgone => delete_of_vanished h (hcontains.mpr hgone)
      deleted := by
        intro hkept
        have hrow : (d.removeFileOf w r).1.store.contains id = true := by
          rw [← Bool.not_eq_false, hcontains]
          exact hkept
        refine ⟨_, delete_of_kept h hrow, hremoved, ?_, hsilent⟩
        intro f hf hleft
        exact ⟨_, hwarned f hf hleft, isInfix_fileWarning f⟩
      rowsAsked := by
        intro hasks
        rw [hdesk, (removeFileOf_of_asks hasks w).right]
        dsimp only
        rw [Store.rows_erase, Store.rows_eraseAll, List.filter_filter]
        simp
      rowsUnasked := by
        intro hasks
        rw [hdesk, (removeFileOf_of_not_asks hasks w).left]
        exact Store.rows_erase d.store id }

/-- Whatever the archive does and whoever else deletes rows meanwhile, a review that is not
there is not found and nothing happens, and any other is deleted. -/
theorem delete_reply (d : Desk) (w : Outside) (id : String) :
    (d.find? id = none → d.delete w id = (d, [], .error ⟨id⟩)) ∧
      ∀ r, d.find? id = some r → d.Deletes w id r :=
  ⟨fun h => delete_of_missing h w, fun _ h => delete_deletes h w⟩

end Desk

def Outside.unwilling : Outside :=
  { Outside.fair with remove := .error (.archive (.status 403) ""), vanishing := ["r2"] }

namespace Desk

theorem delete_reply_unwilling :
    removals (crowded.delete .unwilling "r1").2.1 = [.string "drive-123"] ∧
      (∃ deletion, (crowded.delete .unwilling "r1").2.2 = .ok deletion ∧
        deletion.fileRemoved = false ∧
        ∃ warning, deletion.warnings = [warning] ∧ "drive-123".toList <:+: warning.toList) ∧
      crowded.delete .unwilling "r2" = (crowded, [], .error ⟨"r2"⟩) := by
  have hfound : (crowded.find? "r1").isSome = true := by rfl
  have hnamed : (crowded.find? "r1").bind Review.file? = some "drive-123" := by rfl
  rcases Option.isSome_iff_exists.mp hfound with ⟨r, hr⟩
  have hfile : r.file? = some "drive-123" := by simpa [hr] using hnamed
  have hreachable : crowded.archive.Reachable := Or.inl rfl
  have hdeletes := (delete_reply crowded .unwilling "r1").right r hr
  have hstays : ¬ (crowded.Asks r ∧ "r1" ∈ Outside.unwilling.vanishing) := by
    simp [Outside.unwilling]
  have hrefused : ¬ Outside.unwilling.RemovesFile := by
    simp [Outside.RemovesFile, Outside.unwilling]
  have hsomething : ¬ crowded.archive.FindsNothing := by
    intro hnothing
    rcases hnothing with ⟨text, haccess⟩
    cases haccess
  rcases hdeletes.deleted hstays with ⟨deletion, hreply, hremoved, hwarned, _⟩
  have hkept : deletion.fileRemoved = false := by
    simp [← Bool.not_eq_true, hremoved, hrefused, hsomething]
  exact ⟨hdeletes.asked _ hfile hreachable, ⟨deletion, hreply, hkept, hwarned _ hfile hkept⟩,
    (delete_reply crowded .unwilling "r2").left rfl⟩

end Desk
end ReviewDesk
