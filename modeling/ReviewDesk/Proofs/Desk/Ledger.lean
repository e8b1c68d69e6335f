import Mathlib.Data.List.Induction
import ReviewDesk.Proofs.Desk.DeletionReply
import ReviewDesk.Proofs.Desk.Effects

/-!
# The store and the log

As long as nobody else deletes rows, the store is what the log of creations and deletions
says: a review is found under an id exactly when it was created under it and no review of
that id was deleted since.  The list has the same reviews, each once, from the newest to
the oldest.
-/

namespace ReviewDesk

namespace Entry

def deleted? (e : Entry) : Option String :=
  match e.operation, e.reply with
  | .delete _ id, .deleted (.ok _) => some id
  | _, _ => none

end Entry

/-!
# What an operation does to the rows
-/

namespace Desk

variable {d after : Desk} {w : Outside}

inductive Change (d : Desk) : Desk → Option Review → Option String → Prop where
  | kept {after : Desk} (hstore : after.store = d.store) : Change d after none none
  | added {after : Desk} {r : Review} (hstore : after.store = ⟨d.store.rows ++ [r]⟩)
      (hfree : ∀ other ∈ d.store.rows, other.id ≠ r.id) : Change d after (some r) none
  | erased {after : Desk} {id : String} (hstore : after.store = d.store.erase id) :
      Change d after none (some id)

theorem change_of_ended {requests : List Request} {result : Except CreationFailure Creation}
    (h : Ended d w after requests result) (hvanish : w.vanishing = []) :
    Change d after (Reply.created result).saved? none := by
  cases h with
  | turnedAway rejection =>
      exact Change.kept rfl
  | saved hattempt hrow hfree =>
      exact Change.added rfl hfree
  | takenBack hattempt =>
      apply Change.kept
      simp [hvanish]
  | brokenOff hattempt fault =>
      exact Change.kept hattempt.store

theorem change_of_delete (d : Desk) (hvanish : w.vanishing = []) (id : String) :
    Change d (d.delete w id).1 none (d.entry (.delete w id)).deleted? := by
  cases hfound : d.find? id with
  | none =>
      simp only [entry, perform_delete, Entry.deleted?, delete_of_missing hfound]
      exact Change.kept rfl
  | some r =>
      have hstays : ¬ (d.Asks r ∧ id ∈ w.vanishing) := by simp [hvanish]
      rcases (delete_deletes hfound w).deleted hstays with ⟨deletion, hreply, _⟩
      simp only [entry, perform_delete, Entry.deleted?, hreply]
      apply Change.erased
      rw [(delete_of_found hfound w).left]
      by_cases hasks : d.Asks r
      · simp [(removeFileOf_of_asks hasks w).right, hvanish]
      · simp [(removeFileOf_of_not_asks hasks w).left]

theorem entry_change {op : Operation} (hkeeps : op.KeepsRows) :
    Change d (d.perform op).1 (d.entry op).saved? (d.entry op).deleted? := by
  cases op with
  | create w new title content =>
      simp only [entry, perform_create]
      exact change_of_ended (create_ended d w new title content) hkeeps
  | delete w id =>
      simp only [perform_delete]
      exact change_of_delete d hkeeps id
  | get id =>
      exact Change.kept rfl
  | list =>
      exact Change.kept rfl
  | vanish ids =>
      cases hkeeps
      exact Change.kept rfl

end Desk

namespace Course

variable {c : Course} {after : Desk} {e : Entry} {id : String} {r : Review}

/-!
# What the log says

A review stands when it was created under its id and none of this id was deleted since.
-/

def created (c : Course) : List Review :=
  c.log.filterMap Entry.saved?

def Stands (c : Course) (id : String) (r : Review) : Prop :=
  ∃ before e later, c.log = before ++ e :: later ∧ e.saved? = some r ∧ r.id = id ∧
    ∀ other ∈ later, other.deleted? ≠ some id

theorem created_push : (c.push after e).created = c.created ++ e.saved?.toList := by
  cases hsaved : e.saved? with
  | none => simp [created, push, hsaved]
  | some r => simp [created, push, hsaved]

theorem stands_push :
    (c.push after e).Stands id r ↔
      (e.saved? = some r ∧ r.id = id) ∨ (c.Stands id r ∧ e.deleted? ≠ some id) := by
  constructor
  · rintro ⟨before, made, later, hlog, hsaved, hid, hkept⟩
    rcases List.eq_nil_or_concat later with rfl | ⟨rest, last, rfl⟩
    · rcases List.append_inj' hlog rfl with ⟨_, hlast⟩
      cases hlast
      exact Or.inl ⟨hsaved, hid⟩
    · rw [List.concat_eq_append] at hlog hkept
      rw [← List.cons_append, ← List.append_assoc] at hlog
      rcases List.append_inj' hlog rfl with ⟨hbefore, hlast⟩
      cases hlast
      exact Or.inr ⟨⟨before, made, rest, hbefore, hsaved, hid,
        fun other hother => hkept other (by simp [hother])⟩, hkept e (by simp)⟩
  · rintro (⟨hsaved, hid⟩ | ⟨⟨before, made, later, hlog, hsaved, hid, hkept⟩, hlast⟩)
    · exact ⟨c.log, e, [], rfl, hsaved, hid, by simp⟩
    · refine ⟨before, made, later ++ [e], by simp [push, hlog], hsaved, hid, ?_⟩
      intro other hother
      rcases List.mem_append.mp hother with hold | hnew
      · exact hkept other hold
      · rw [List.mem_singleton.mp hnew]
        exact hlast

/-!
# Rows and log along a history
-/

structure Recorded (c : Course) : Prop where
  stands : ∀ r, r ∈ c.desk.store.rows ↔ c.Stands r.id r
  distinct : (c.desk.store.rows.map (·.id)).Nodup
  ordered : c.desk.store.rows.Sublist c.created

theorem recorded_kept (h : c.Recorded) (hstore : after.store = c.desk.store)
    (hsaved : e.saved? = none) (hdeleted : e.deleted? = none) : (c.push after e).Recorded where
  stands := by
    intro r
    rw [stands_push, push, hstore, h.stands]
    simp [hsaved, hdeleted]
  distinct := by
    rw [push, hstore]
    exact h.distinct
  ordered := by
    rw [created_push, push, hstore]
    exact h.ordered.trans (List.sublist_append_left _ _)

theorem recorded_added {new : Review} (h : c.Recorded)
    (hstore : after.store = ⟨c.desk.store.rows ++ [new]⟩)
    (hfree : ∀ other ∈ c.desk.store.rows, other.id ≠ new.id)
    (hsaved : e.saved? = some new) (hdeleted : e.deleted? = none) : (c.push after e).Recorded where
  stands := by
    intro r
    rw [stands_push, push, hstore, List.mem_append, List.mem_singleton, h.stands, hsaved]
    simp [hdeleted, or_comm, eq_comm]
  distinct := by
    rw [push, hstore, List.map_append, List.nodup_append]
    refine ⟨h.distinct, by simp, ?_⟩
    intro id hid other hother
    rcases List.mem_map.mp hid with ⟨r, hr, rfl⟩
    rw [List.mem_singleton.mp hother]
    exact hfree r hr
  ordered := by
    rw [created_push, push, hstore, hsaved]
    exact h.ordered.append (List.Sublist.refl _)

theorem recorded_erased (h : c.Recorded) (hstore : after.store = c.desk.store.erase id)
    (hsaved : e.saved? = none) (hdeleted : e.deleted? = some id) : (c.push after e).Recorded where
  stands := by
    intro r
    rw [stands_push, push, hstore, Store.mem_erase, h.stands]
    simp [hsaved, hdeleted, eq_comm]
  distinct := by
    rw [push, hstore]
    exact h.distinct.sublist (List.filter_sublist.map _)
  ordered := by
    rw [created_push, push, hstore]
    exact List.filter_sublist.trans (h.ordered.trans (List.sublist_append_left _ _))

theorem recorded_step (h : c.Recorded) {op : Operation} (hkeeps : op.KeepsRows) :
    (c.step op).Recorded := by
  have hchange := Desk.entry_change (d := c.desk) hkeeps
  rw [step]
  -- the change is split by its indices, which have to be variables for that
  generalize hsaved : (c.desk.entry op).saved? = saved at hchange
  generalize hdeleted : (c.desk.entry op).deleted? = deleted at hchange
  generalize (c.desk.perform op).1 = after at hchange ⊢
  cases hchange with
  | kept hstore => exact recorded_kept h hstore hsaved hdeleted
  | added hstore hfree => exact recorded_added h hstore hfree hsaved hdeleted
  | erased hstore => exact recorded_erased h hstore hsaved hdeleted

end Course

namespace Desk

theorem course_recorded {d : Desk} {ops : List Operation} (hempty : d.store = .empty)
    (hkeeps : ∀ op ∈ ops, op.KeepsRows) : (d.course ops).Recorded := by
  induction ops using List.reverseRecOn with
  | nil =>
      rw [course_nil]
      exact
        { stands := by simp [Course.Stands, hempty, Store.empty]
          distinct := by simp [hempty, Store.empty]
          ordered := by simp [hempty, Store.empty] }
  | append_singleton ops op ih =>
      rw [course_snoc]
      apply Course.recorded_step
      · exact ih fun other hmem => hkeeps other (List.mem_append_left [op] hmem)
      · exact hkeeps op (by simp)

end Desk

/-!
# What readers see

Looking for an id and listing show what stands.  A further creation puts one row at the
end, under the drawn id, or fails and leaves the rows as they were; it fails when the id is
taken, and for half a pair.
-/

namespace Course

structure Mirrors (c : Course) : Prop where
  found : ∀ id r, c.desk.find? id = some r ↔ c.Stands id r
  listed : ∀ r, r ∈ c.desk.list ↔ c.Stands r.id r
  once : (c.desk.list.map (·.id)).Nodup
  newest : c.desk.list.Pairwise fun a b => b.createdAt.micros ≤ a.createdAt.micros
  reversed : (c.created.Pairwise fun a b => a.createdAt.micros < b.createdAt.micros) →
    c.desk.list.Sublist c.created.reverse

theorem mirrors_of_recorded {c : Course} (h : c.Recorded) : c.Mirrors where
  found := by
    intro id r
    rw [Desk.find?, Store.find?_eq_some_iff h.distinct]
    constructor
    · rintro ⟨hrow, rfl⟩
      exact (h.stands r).mp hrow
    · intro hstands
      have hid : r.id = id := by
        rcases hstands with ⟨_, _, _, _, _, hid, _⟩
        exact hid
      subst hid
      exact ⟨(h.stands r).mpr hstands, rfl⟩
  listed := by
    intro r
    rw [Desk.list, (Store.newestFirst_perm _).mem_iff]
    exact h.stands r
  once := ((Store.newestFirst_perm _).map (·.id)).nodup_iff.mpr h.distinct
  newest := Store.pairwise_newestFirst _
  reversed := by
    intro hlater
    rw [Desk.list, Store.newestFirst_eq_reverse (hlater.sublist h.ordered)]
    exact h.ordered.reverse

end Course

namespace Desk

variable {d : Desk} {w : Outside} {new : Identity} {title content : Option (List Text.Mark)}

structure Saves (d : Desk) (w : Outside) (new : Identity)
    (title content : Option (List Text.Mark)) : Prop where
  saved : ∀ c, (d.create w new title content).2.2 = .ok c →
    (d.create w new title content).1.store.rows = d.store.rows ++ [c.review] ∧
      c.review.id = new.id ∧ c.review.createdAt = new.createdAt
  failed : ∀ failure, (d.create w new title content).2.2 = .error failure →
    (d.create w new title content).1.store.rows = d.store.rows
  taken : d.store.contains new.id = true →
    ∃ failure, (d.create w new title content).2.2 = .error failure
  halved : ∀ s, Submission.validate title content = .ok s →
    Text.text? s.title = none ∨ Text.text? s.content = none →
      ∃ failure, (d.create w new title content).2.2 = .error failure

theorem texts_of_attempt (d : Desk) (w : Outside) (new : Identity) (s : Submission) :
    (d.attempt w new s).draft.title = s.title ∧ (d.attempt w new s).draft.content = s.content := by
  cases hpolished : d.polished w s with
  | success p =>
      rw [draft_of_polished new hpolished]
      exact ⟨rfl, rfl⟩
  | failure reason detail =>
      rw [draft_of_not_polished new hpolished]
      exact ⟨rfl, rfl⟩

theorem text?_of_created {s : Submission} {c : Creation}
    (hs : Submission.validate title content = .ok s)
    (h : (d.create w new title content).2.2 = .ok c) :
    Text.text? s.title = some c.review.title ∧ Text.text? s.content = some c.review.content := by
  rcases create_eq_ok h with ⟨accepted, haccepted, hrow⟩
  rw [hs] at haccepted
  cases haccepted
  rcases texts_of_attempt d w new s with ⟨htitle, hcontent⟩
  rcases Draft.stored_eq_ok hrow with ⟨_, hkeptTitle, hkeptContent, _⟩
  rw [← htitle, ← hcontent, ← hkeptTitle, ← hkeptContent]
  exact ⟨Text.text?_marks _, Text.text?_marks _⟩

theorem identity_of_created {c : Creation} (h : (d.create w new title content).2.2 = .ok c) :
    c.review.id = new.id ∧ c.review.createdAt = new.createdAt := by
  rcases create_eq_ok h with ⟨s, _, hrow⟩
  rcases Draft.stored_eq_ok hrow with ⟨hid, _, _, _, _, _, _, _, _, hcreated⟩
  rw [hid, hcreated]
  cases hpolished : d.polished w s with
  | success p =>
      rw [draft_of_polished new hpolished]
      exact ⟨rfl, rfl⟩
  | failure reason detail =>
      rw [draft_of_not_polished new hpolished]
      exact ⟨rfl, rfl⟩

theorem create_saves (hvanish : w.vanishing = []) (d : Desk) (new : Identity)
    (title content : Option (List Text.Mark)) : d.Saves w new title content := by
  have hchange := change_of_ended (create_ended d w new title content) hvanish
  refine ⟨?_, ?_, ?_, ?_⟩
  · intro c hc
    simp only [hc, Reply.saved?] at hchange
    refine ⟨?_, identity_of_created hc⟩
    cases hchange with
    | added hstore hfree => rw [hstore]
  · intro failure hfailure
    simp only [hfailure, Reply.saved?] at hchange
    cases hchange with
    | kept hstore => rw [hstore]
  · intro htaken
    cases hresult : (d.create w new title content).2.2 with
    | error failure => exact ⟨failure, rfl⟩
    | ok c =>
        simp only [hresult, Reply.saved?] at hchange
        cases hchange with
        | added hstore hfree =>
            have hmissing := Store.contains_eq_false_iff.mpr hfree
            rw [(identity_of_created hresult).left, htaken] at hmissing
            cases hmissing
  · intro s hs hhalved
    cases hresult : (d.create w new title content).2.2 with
    | error failure => exact ⟨failure, rfl⟩
    | ok c =>
        rcases text?_of_created hs hresult with ⟨htitle, hcontent⟩
        rw [htitle, hcontent] at hhalved
        rcases hhalved with hnone | hnone
        · cases hnone
        · cases hnone

/-- After every history of creations and deletions in which nobody else deletes rows, the
store mirrors the log, and a further creation saves one row or changes nothing. -/
theorem course_mirrors {ops : List Operation} (hempty : d.store = .empty)
    (hkeeps : ∀ op ∈ ops, op.KeepsRows) :
    (d.course ops).Mirrors ∧
      ∀ w new title content, w.vanishing = [] →
        (d.course ops).desk.Saves w new title content :=
  ⟨Course.mirrors_of_recorded (course_recorded hempty hkeeps),
    fun _ new title content hvanish => create_saves hvanish _ new title content⟩

def reused : List Operation :=
  [.create .fair ⟨"r1", ⟨5⟩⟩ (some "甲") (some "好"), .create .fair ⟨"r2", ⟨3⟩⟩ (some "乙") (some "好"),
    .create .fair ⟨"r1", ⟨4⟩⟩ (some "丙") (some "好"), .delete .fair "r1",
    .create .fair ⟨"r1", ⟨3⟩⟩ (some "丁") (some "好")]

theorem course_mirrors_reused :
    ((furnished.course reused).desk.find? "r1").map (·.title) = some "丁" ∧
      ((furnished.course reused).desk.list.map (·.id)).Perm ["r2", "r1"] ∧
      (furnished.course reused).Mirrors := by
  have hkeeps : ∀ op ∈ reused, op.KeepsRows := by
    intro op hop
    simp only [reused, List.mem_cons, List.not_mem_nil, or_false] at hop
    rcases hop with rfl | rfl | rfl | rfl | rfl
    · rfl
    · rfl
    · rfl
    · rfl
    · rfl
  have hrows : (furnished.course reused).desk.store.rows.map (·.id) = ["r2", "r1"] := by rfl
  refine ⟨by rfl, ?_, (course_mirrors rfl hkeeps).left⟩
  rw [← hrows]
  exact (Store.newestFirst_perm _).map (·.id)

end Desk
end ReviewDesk
