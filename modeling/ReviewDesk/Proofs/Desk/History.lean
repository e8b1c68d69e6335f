import ReviewDesk.Proofs.Desk.Creation
import ReviewDesk.Proofs.Desk.Deletion

/-!
# Histories

A history is a list of operations on one desk, each with what the outside world does
meanwhile.  Its course is the desk that the operations lead to and the log of what each
of them asked for and replied.
-/

namespace ReviewDesk

inductive Operation where
  | create (w : Outside) (new : Identity) (title content : Option (List Text.Mark))
  | delete (w : Outside) (id : String)
  | get (id : String)
  | list
  /-- Somebody else deletes the rows of these ids. -/
  | vanish (ids : List String)

inductive Reply where
  | created (result : Except CreationFailure Creation)
  | deleted (result : Except NotFound Deletion)
  | got (review : Option Review)
  | listed (reviews : List Review)
  | vanished

namespace Reply

def saved? : Reply → Option Review
  | created (.ok c) => some c.review
  | _ => none

end Reply

structure Entry where
  operation : Operation
  requests : List Request
  reply : Reply

namespace Operation

def outside? : Operation → Option Outside
  | create w _ _ _ => some w
  | delete w _ => some w
  | _ => none

end Operation

namespace Entry

def uploaded? (e : Entry) : Option Json :=
  e.operation.outside?.bind fun w => w.uploadedId? e.requests

def saved? (e : Entry) : Option Review :=
  e.reply.saved?

end Entry

namespace Desk

def perform (d : Desk) : Operation → Desk × List Request × Reply
  | .create w new title content =>
      let ended := d.create w new title content
      (ended.1, ended.2.1, .created ended.2.2)
  | .delete w id =>
      let ended := d.delete w id
      (ended.1, ended.2.1, .deleted ended.2.2)
  | .get id => (d, [], .got (d.find? id))
  | .list => (d, [], .listed d.list)
  | .vanish ids => ({ d with store := d.store.eraseAll ids }, [], .vanished)

theorem perform_create (d : Desk) (w : Outside) (new : Identity)
    (title content : Option (List Text.Mark)) :
    d.perform (.create w new title content) =
      ((d.create w new title content).1, (d.create w new title content).2.1,
        .created (d.create w new title content).2.2) :=
  rfl

theorem perform_delete (d : Desk) (w : Outside) (id : String) :
    d.perform (.delete w id) =
      ((d.delete w id).1, (d.delete w id).2.1, .deleted (d.delete w id).2.2) :=
  rfl

def entry (d : Desk) (op : Operation) : Entry :=
  ⟨op, (d.perform op).2.1, (d.perform op).2.2⟩

/-!
# What an operation does to the rows
-/

section Rows

variable {d after : Desk} {w : Outside} {requests : List Request}
  {result : Except CreationFailure Creation} {r : Review}

theorem mem_rows_of_ended (h : Ended d w after requests result)
    (hr : r ∈ after.store.rows) :
    r ∈ d.store.rows ∨ (Reply.created result).saved? = some r := by
  cases h with
  | turnedAway rejection =>
      exact Or.inl hr
  | saved hattempt hrow hfree =>
      rcases List.mem_append.mp hr with hold | hnew
      · exact Or.inl hold
      · rw [List.mem_singleton.mp hnew]
        exact Or.inr rfl
  | takenBack hattempt =>
      left
      dsimp only at hr
      split at hr
      · exact (Store.mem_eraseAll.mp hr).left
      · exact hr
  | brokenOff hattempt fault =>
      rw [hattempt.store] at hr
      exact Or.inl hr

theorem mem_rows_of_delete {id : String} (hr : r ∈ (d.delete w id).1.store.rows) :
    r ∈ d.store.rows := by
  cases hfound : d.find? id with
  | none =>
      rw [delete_of_missing hfound] at hr
      exact hr
  | some row =>
      rw [(delete_of_found hfound w).left] at hr
      have hkept := (Store.mem_erase.mp hr).left
      rcases (removeFileOf_cleared d w row).store with hstore | hstore
      · rw [hstore] at hkept
        exact hkept
      · rw [hstore] at hkept
        exact (Store.mem_eraseAll.mp hkept).left

theorem mem_rows_of_perform {op : Operation} (hr : r ∈ (d.perform op).1.store.rows) :
    r ∈ d.store.rows ∨ (d.entry op).saved? = some r := by
  cases op with
  | create w new title content =>
      simp only [perform_create] at hr
      simp only [entry, perform_create, Entry.saved?]
      exact mem_rows_of_ended (create_ended d w new title content) hr
  | delete w id =>
      simp only [perform_delete] at hr
      exact Or.inl (mem_rows_of_delete hr)
  | get id => exact Or.inl hr
  | list => exact Or.inl hr
  | vanish ids => exact Or.inl (Store.mem_eraseAll.mp hr).left

end Rows

end Desk

structure Course where
  desk : Desk
  log : List Entry

namespace Course

def push (c : Course) (after : Desk) (e : Entry) : Course :=
  ⟨after, c.log ++ [e]⟩

def step (c : Course) (op : Operation) : Course :=
  c.push (c.desk.perform op).1 (c.desk.entry op)

def uploads (c : Course) : List Json :=
  c.log.filterMap Entry.uploaded?

def removed (c : Course) : List Json :=
  c.log.flatMap fun e => removals e.requests

theorem uploads_push (c : Course) (after : Desk) (e : Entry) :
    (c.push after e).uploads = c.uploads ++ e.uploaded?.toList := by
  cases hfile : e.uploaded? with
  | none => simp [uploads, push, hfile]
  | some id => simp [uploads, push, hfile]

theorem removed_push (c : Course) (after : Desk) (e : Entry) :
    (c.push after e).removed = c.removed ++ removals e.requests := by
  simp [removed, push]

end Course

namespace Desk

def course (d : Desk) (ops : List Operation) : Course :=
  ops.foldl Course.step ⟨d, []⟩

theorem course_nil (d : Desk) : d.course [] = ⟨d, []⟩ :=
  rfl

theorem course_snoc (d : Desk) (ops : List Operation) (op : Operation) :
    d.course (ops ++ [op]) = (d.course ops).step op := by
  simp [course]

end Desk
end ReviewDesk
