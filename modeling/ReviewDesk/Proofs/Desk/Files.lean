import Mathlib.Data.List.Induction
import Mathlib.Logic.Basic
import ReviewDesk.Proofs.Desk.Effects

/-!
# Accounts of archived files

As long as nobody else deletes rows and saving does not break off, every archived file is
either carried by the row that was saved with it, and was never asked to be removed, or is
carried by no row and was asked to be removed.
-/

namespace ReviewDesk

def Store.Carries (s : Store) (f : String) : Prop :=
  ∃ r ∈ s.rows, r.fileId = some f

namespace Course

variable {start : Store} {c : Course} {after : Desk} {e : Entry} {f : String}

/-!
# Accounts

A file is held when exactly one row carries it, namely the row that was saved when it was
archived, and nobody was asked to remove it.  It is discarded when no row carries it and it
was asked to be removed.
-/

def Holds (c : Course) (f : String) : Prop :=
  (∃ r, c.desk.store.rows.filter (·.fileId = some f) = [r] ∧
      ∃ e ∈ c.log, e.uploaded? = some (.string f) ∧ e.saved? = some r) ∧
    .string f ∉ c.removed

def Discarded (c : Course) (f : String) : Prop :=
  ¬ c.desk.store.Carries f ∧ .string f ∈ c.removed

/-- What a course that began with the rows of `start` keeps true.  The first fields are
there for the last one: a file that is archived next is carried by no row yet and was
never asked to be removed, and the archive can be asked for the removal of every file. -/
structure Accounts (start : Store) (c : Course) : Prop where
  connected : c.uploads ≠ [] → c.desk.archive.access = .connected
  removed : ∀ f, .string f ∈ c.removed → start.Carries f ∨ .string f ∈ c.uploads
  carried : ∀ f, c.desk.store.Carries f → start.Carries f ∨ .string f ∈ c.uploads
  alone : ∀ e ∈ c.log, ∀ r ∈ c.desk.store.rows, e.saved? = some r →
    ∀ other ∈ c.desk.store.rows, other.id = r.id → other = r
  owned : ∀ f, .string f ∈ c.uploads → c.Holds f ∨ c.Discarded f

theorem mem_log_push {other : Entry} :
    other ∈ (c.push after e).log ↔ other ∈ c.log ∨ other = e := by
  simp [push]

theorem mem_uploads_push {id : Json} :
    id ∈ (c.push after e).uploads ↔ id ∈ c.uploads ∨ e.uploaded? = some id := by
  rw [uploads_push, List.mem_append, Option.mem_toList]

theorem mem_removed_push {id : Json} :
    id ∈ (c.push after e).removed ↔ id ∈ c.removed ∨ id ∈ removals e.requests := by
  rw [removed_push, List.mem_append]

theorem holds_push (h : c.Holds f)
    (hrows : after.store.rows.filter (·.fileId = some f) =
      c.desk.store.rows.filter (·.fileId = some f))
    (hremoved : .string f ∉ removals e.requests) : (c.push after e).Holds f := by
  rcases h with ⟨⟨r, hrow, entry, hmem, huploaded, hsaved⟩, hkept⟩
  refine ⟨⟨r, hrows.trans hrow, entry, mem_log_push.mpr (Or.inl hmem), huploaded, hsaved⟩, ?_⟩
  rw [mem_removed_push]
  rintro (hbefore | hnow)
  · exact hkept hbefore
  · exact hremoved hnow

theorem discarded_push (h : c.Discarded f) (hrows : ¬ after.store.Carries f) :
    (c.push after e).Discarded f :=
  ⟨hrows, mem_removed_push.mpr (Or.inl h.right)⟩

theorem exists_owner_of_holds (h : c.Holds f) :
    ∃ owner ∈ c.desk.store.rows, owner.fileId = some f ∧
      (∀ r ∈ c.desk.store.rows, r.fileId = some f → r = owner) ∧
      ∃ e ∈ c.log, e.saved? = some owner := by
  rcases h.left with ⟨owner, howner, e, hmem, _, hsaved⟩
  have hcarries : ∀ r, r ∈ c.desk.store.rows ∧ r.fileId = some f ↔ r = owner := by
    intro r
    rw [← List.mem_singleton (a := r), ← howner]
    simp
  rcases (hcarries owner).mpr rfl with ⟨hrow, hfile⟩
  exact ⟨owner, hrow, hfile, fun r hr hf => (hcarries r).mp ⟨hr, hf⟩, e, hmem, hsaved⟩

/-!
# New files
-/

theorem not_carries_of_new (h : c.Accounts start) (hfile : .string f ∉ c.uploads)
    (hstart : ¬ start.Carries f) : ¬ c.desk.store.Carries f := by
  intro hcarries
  rcases h.carried f hcarries with hold | huploaded
  · exact hstart hold
  · exact hfile huploaded

theorem not_removed_of_new (h : c.Accounts start) (hfile : .string f ∉ c.uploads)
    (hstart : ¬ start.Carries f) : .string f ∉ c.removed := by
  intro hremoved
  rcases h.removed f hremoved with hold | huploaded
  · exact hstart hold
  · exact hfile huploaded

/-!
# A review is not saved

The file that was archived, if there is one, is discarded at once.
-/

theorem accounts_unsaved (h : c.Accounts start) (hstore : after.store = c.desk.store)
    (hremoved : removals e.requests = e.uploaded?.toList) (hsaved : e.saved? = none)
    (hnew : ∀ f, e.uploaded? = some (.string f) → .string f ∉ c.uploads ∧ ¬ start.Carries f)
    (hconnected : (c.push after e).uploads ≠ [] → after.archive.access = .connected) :
    (c.push after e).Accounts start where
  connected := hconnected
  removed := by
    intro f hf
    rw [mem_removed_push, hremoved, Option.mem_toList] at hf
    rw [mem_uploads_push]
    rcases hf with hbefore | hnow
    · rcases h.removed f hbefore with hold | hmem
      · exact Or.inl hold
      · exact Or.inr (Or.inl hmem)
    · exact Or.inr (Or.inr hnow)
  carried := by
    intro f hf
    rw [mem_uploads_push]
    rw [push, hstore] at hf
    rcases h.carried f hf with hold | hmem
    · exact Or.inl hold
    · exact Or.inr (Or.inl hmem)
  alone := by
    intro entry hentry r hr hentrySaved
    rw [push, hstore] at hr ⊢
    rcases mem_log_push.mp hentry with hold | rfl
    · exact h.alone entry hold r hr hentrySaved
    · rw [hsaved] at hentrySaved
      cases hentrySaved
  owned := by
    intro f hf
    rcases mem_uploads_push.mp hf with hbefore | hnow
    · rcases h.owned f hbefore with hholds | hdiscarded
      · apply Or.inl
        apply holds_push hholds (by rw [hstore])
        rw [hremoved, Option.mem_toList]
        exact fun hnow => (hnew f hnow).left hbefore
      · exact Or.inr (discarded_push hdiscarded (by rw [hstore]; exact hdiscarded.left))
    · rcases hnew f hnow with ⟨hfile, hstart⟩
      apply Or.inr
      constructor
      · rw [push, hstore]
        exact not_carries_of_new h hfile hstart
      · rw [mem_removed_push, hremoved, hnow]
        exact Or.inr (by simp)

/-!
# A review is saved

The new row is the only one that carries the new file.
-/

section Saved

variable {r : Review}

theorem carries_of_saved (hstore : after.store = ⟨c.desk.store.rows ++ [r]⟩) :
    after.store.Carries f ↔ c.desk.store.Carries f ∨ r.fileId = some f := by
  rw [hstore]
  simp only [Store.Carries, List.mem_append, List.mem_singleton]
  constructor
  · rintro ⟨row, hold | rfl, hfile⟩
    · exact Or.inl ⟨row, hold, hfile⟩
    · exact Or.inr hfile
  · rintro (⟨row, hold, hfile⟩ | hfile)
    · exact ⟨row, Or.inl hold, hfile⟩
    · exact ⟨r, Or.inr rfl, hfile⟩

theorem alone_of_saved (h : c.Accounts start)
    (hstore : after.store = ⟨c.desk.store.rows ++ [r]⟩)
    (hfree : ∀ other ∈ c.desk.store.rows, other.id ≠ r.id) (hsaved : e.saved? = some r) :
    ∀ entry ∈ (c.push after e).log, ∀ row ∈ after.store.rows, entry.saved? = some row →
      ∀ other ∈ after.store.rows, other.id = row.id → other = row := by
  have hrows : ∀ row, row ∈ after.store.rows ↔ row ∈ c.desk.store.rows ∨ row = r := by
    intro row
    rw [hstore]
    simp
  intro entry hentry row hrow hentrySaved other hother hid
  rcases (hrows row).mp hrow with hrowOld | rfl
  · rcases (hrows other).mp hother with hotherOld | rfl
    · rcases mem_log_push.mp hentry with hold | rfl
      · exact h.alone entry hold row hrowOld hentrySaved other hotherOld hid
      · rw [hsaved] at hentrySaved
        cases hentrySaved
        exact absurd rfl (hfree r hrowOld)
    · exact absurd hid.symm (hfree row hrowOld)
  · rcases (hrows other).mp hother with hotherOld | rfl
    · exact absurd hid (hfree other hotherOld)
    · rfl

theorem holds_of_saved (h : c.Accounts start)
    (hstore : after.store = ⟨c.desk.store.rows ++ [r]⟩) (hfile : r.fileId = some f)
    (hremoved : removals e.requests = []) (huploaded : e.uploaded? = some (.string f))
    (hsaved : e.saved? = some r) (hnew : .string f ∉ c.uploads) (hstart : ¬ start.Carries f) :
    (c.push after e).Holds f := by
  refine ⟨⟨r, ?_, e, mem_log_push.mpr (Or.inr rfl), huploaded, hsaved⟩, ?_⟩
  · have hnone : c.desk.store.rows.filter (·.fileId = some f) = [] := by
      rw [List.filter_eq_nil_iff]
      intro row hrow
      simpa using fun hf => not_carries_of_new h hnew hstart ⟨row, hrow, hf⟩
    rw [push, hstore, List.filter_append, hnone]
    simp [hfile]
  · rw [mem_removed_push, hremoved]
    simpa using not_removed_of_new h hnew hstart

theorem accounts_saved (h : c.Accounts start)
    (hstore : after.store = ⟨c.desk.store.rows ++ [r]⟩)
    (hfree : ∀ other ∈ c.desk.store.rows, other.id ≠ r.id)
    (hremoved : removals e.requests = []) (huploaded : e.uploaded? = r.fileId.map .string)
    (hsaved : e.saved? = some r)
    (hnew : ∀ f, e.uploaded? = some (.string f) → .string f ∉ c.uploads ∧ ¬ start.Carries f)
    (hconnected : (c.push after e).uploads ≠ [] → after.archive.access = .connected) :
    (c.push after e).Accounts start := by
  have hfile : ∀ f, e.uploaded? = some (.string f) ↔ r.fileId = some f := by
    intro f
    rw [huploaded]
    simp
  exact
    { connected := hconnected
      removed := by
        intro f hf
        rw [mem_removed_push, hremoved] at hf
        rw [mem_uploads_push]
        rcases h.removed f (by simpa using hf) with hold | hmem
        · exact Or.inl hold
        · exact Or.inr (Or.inl hmem)
      carried := by
        intro f hf
        rw [mem_uploads_push, hfile]
        rcases (carries_of_saved hstore).mp hf with hbefore | hnow
        · rcases h.carried f hbefore with hold | hmem
          · exact Or.inl hold
          · exact Or.inr (Or.inl hmem)
        · exact Or.inr (Or.inr hnow)
      alone := alone_of_saved h hstore hfree hsaved
      owned := by
        intro f hf
        rcases mem_uploads_push.mp hf with hbefore | hnow
        · have hother : r.fileId ≠ some f :=
            fun hcarries => (hnew f ((hfile f).mpr hcarries)).left hbefore
          rcases h.owned f hbefore with hholds | hdiscarded
          · apply Or.inl
            apply holds_push hholds
            · rw [hstore, List.filter_append]
              simp [hother]
            · simp [hremoved]
          · apply Or.inr
            apply discarded_push hdiscarded
            rw [carries_of_saved hstore]
            rintro (hcarries | hcarries)
            · exact hdiscarded.left hcarries
            · exact hother hcarries
        · rcases hnew f hnow with ⟨hfresh, hstart⟩
          exact Or.inl (holds_of_saved h hstore ((hfile f).mp hnow) hremoved hnow hsaved
            hfresh hstart) }

end Saved

/-!
# A review is deleted

A held file goes with its row, and it stays when the row of another review goes.
-/

section Deleted

variable {r : Review}

theorem owned_of_deleted (h : c.Accounts start) (hrow : r ∈ c.desk.store.rows)
    (hstore : after.store = c.desk.store.erase r.id)
    (hremoved : ∀ id ∈ removals e.requests, ∃ f, id = .string f ∧ r.fileId = some f)
    (hasked : r.fileId = some f → .string f ∈ removals e.requests) (hholds : c.Holds f) :
    (c.push after e).Holds f ∨ (c.push after e).Discarded f := by
  rcases exists_owner_of_holds hholds with ⟨owner, howner, hfile, honly, entry, hentry, hsaved⟩
  by_cases hid : r.id = owner.id
  · -- no other row has the id of a saved review, so the owner itself is deleted
    have hsame : r = owner := h.alone entry hentry owner howner hsaved r hrow hid
    apply Or.inr
    constructor
    · rw [push, hstore]
      rintro ⟨row, hmem, hcarries⟩
      rcases Store.mem_erase.mp hmem with ⟨hbefore, hother⟩
      exact hother (by rw [honly row hbefore hcarries, hid])
    · rw [mem_removed_push]
      exact Or.inr (hasked (by rw [hsame, hfile]))
  · apply Or.inl
    apply holds_push hholds
    · rw [hstore, Store.erase, List.filter_comm, List.filter_eq_self]
      intro row hmem
      rcases List.mem_filter.mp hmem with ⟨hbefore, hcarries⟩
      rw [honly row hbefore (by simpa using hcarries)]
      simpa using Ne.symm hid
    · intro hasks
      rcases hremoved _ hasks with ⟨g, hg, hcarries⟩
      cases hg
      exact hid (by rw [honly r hrow hcarries])

theorem accounts_deleted (h : c.Accounts start) (hrow : r ∈ c.desk.store.rows)
    (hstore : after.store = c.desk.store.erase r.id)
    (hremoved : ∀ id ∈ removals e.requests, ∃ f, id = .string f ∧ r.fileId = some f)
    (hasked : c.desk.archive.access = .connected → ∀ f, r.fileId = some f → f ≠ "" →
      .string f ∈ removals e.requests)
    (huploaded : e.uploaded? = none) (hsaved : e.saved? = none)
    (hnames : ∀ f, .string f ∈ c.uploads → f ≠ "")
    (hconnected : (c.push after e).uploads ≠ [] → after.archive.access = .connected) :
    (c.push after e).Accounts start := by
  have huploads : ∀ id, id ∈ (c.push after e).uploads ↔ id ∈ c.uploads := by
    intro id
    rw [mem_uploads_push, huploaded]
    simp
  have hcarries : ∀ f, after.store.Carries f → c.desk.store.Carries f := by
    rw [hstore]
    rintro f ⟨row, hmem, hfile⟩
    exact ⟨row, (Store.mem_erase.mp hmem).left, hfile⟩
  exact
    { connected := hconnected
      removed := by
        intro f hf
        rw [huploads]
        rcases mem_removed_push.mp hf with hbefore | hnow
        · exact h.removed f hbefore
        · rcases hremoved _ hnow with ⟨g, hg, hfile⟩
          cases hg
          exact h.carried f ⟨r, hrow, hfile⟩
      carried := by
        intro f hf
        rw [huploads]
        exact h.carried f (hcarries f hf)
      alone := by
        intro entry hentry row hmem hentrySaved other hother
        rw [push, hstore] at hmem hother
        rcases mem_log_push.mp hentry with hold | rfl
        · exact h.alone entry hold row (Store.mem_erase.mp hmem).left hentrySaved other
            (Store.mem_erase.mp hother).left
        · rw [hsaved] at hentrySaved
          cases hentrySaved
      owned := by
        intro f hf
        have hbefore : .string f ∈ c.uploads := (huploads _).mp hf
        rcases h.owned f hbefore with hholds | hdiscarded
        · have hreach := h.connected (List.ne_nil_of_mem hbefore)
          exact owned_of_deleted h hrow hstore hremoved
            (fun hfile => hasked hreach f hfile (hnames f hbefore)) hholds
        · exact Or.inr (discarded_push hdiscarded fun hf => hdiscarded.left (hcarries f hf)) }

end Deleted

/-!
# Accounts along a history
-/

theorem accounts_step (h : c.Accounts start) {op : Operation} (hkeeps : op.KeepsRows)
    (hsaving : (c.desk.entry op).reply.brokeOff = false)
    (hnames : ∀ id ∈ (c.step op).uploads, ∃ f, f ≠ "" ∧ id = .string f)
    (hnew : ∀ f, (c.desk.entry op).uploaded? = some (.string f) →
      .string f ∉ c.uploads ∧ ¬ start.Carries f) :
    (c.step op).Accounts start := by
  have heffect := Desk.entry_effect hkeeps hsaving
  rw [step] at hnames ⊢
  have hreach : (c.push (c.desk.perform op).1 (c.desk.entry op)).uploads ≠ [] →
      (c.desk.perform op).1.archive.access = .connected := by
    intro hsome
    apply Desk.entry_connected
    rcases List.exists_mem_of_ne_nil _ hsome with ⟨id, hid⟩
    rcases mem_uploads_push.mp hid with hbefore | hnow
    · exact Or.inl (h.connected (List.ne_nil_of_mem hbefore))
    · exact Or.inr (by rw [hnow]; rfl)
  have hstring : ∀ id, (c.desk.entry op).uploaded? = some id → ∃ f, id = .string f := by
    intro id huploaded
    rcases hnames id (mem_uploads_push.mpr (Or.inr huploaded)) with ⟨f, _, hf⟩
    exact ⟨f, hf⟩
  -- the effect is split by its indices, which have to be variables for that
  generalize hremoved : removals (c.desk.entry op).requests = removed at heffect
  generalize huploaded : (c.desk.entry op).uploaded? = uploaded at heffect
  generalize hsaved : (c.desk.entry op).saved? = saved at heffect
  generalize (c.desk.perform op).1 = after at heffect hreach hnames ⊢
  cases heffect with
  | unsaved fileId hstore =>
      rw [← huploaded] at hremoved
      exact accounts_unsaved h hstore hremoved hsaved hnew hreach
  | saved hstore hfree hfile =>
      rename_i r
      have hkept : (c.desk.entry op).uploaded? = r.fileId.map .string := by
        rw [huploaded] at hstring ⊢
        exact Column.eq_map_string_of_optional hstring hfile
      exact accounts_saved h hstore hfree hremoved hkept hsaved hnew hreach
  | deleted hrow hstore hremovals hasked =>
      rw [← hremoved] at hremovals hasked
      refine accounts_deleted h hrow hstore hremovals hasked huploaded hsaved ?_ hreach
      intro f hf
      rcases hnames _ (mem_uploads_push.mpr (Or.inl hf)) with ⟨g, hg, hsame⟩
      cases hsame
      exact hg

theorem accounts_start (d : Desk) : (Course.mk d []).Accounts d.store where
  connected := fun h => absurd rfl h
  removed := by
    intro f hf
    cases hf
  carried := fun f hf => Or.inl hf
  alone := by
    intro e he
    cases he
  owned := by
    intro f hf
    cases hf

end Course

namespace Desk

theorem course_accounts {d : Desk} {ops : List Operation} (hkeeps : ∀ op ∈ ops, op.KeepsRows)
    (hsaving : ∀ e ∈ (d.course ops).log, e.reply.brokeOff = false)
    (hnames : ∀ id ∈ (d.course ops).uploads, ∃ f, f ≠ "" ∧ id = .string f)
    (hdistinct : (d.course ops).uploads.Nodup)
    (hstart : ∀ f, d.store.Carries f → .string f ∉ (d.course ops).uploads) :
    (d.course ops).Accounts d.store := by
  induction ops using List.reverseRecOn with
  | nil =>
      exact Course.accounts_start d
  | append_singleton ops op ih =>
      rw [course_snoc] at hsaving hnames hdistinct hstart ⊢
      rw [Course.step, Course.uploads_push, List.nodup_append] at hdistinct
      have hbefore : ∀ id ∈ (d.course ops).uploads, id ∈ ((d.course ops).step op).uploads :=
        fun id hid => Course.mem_uploads_push.mpr (Or.inl hid)
      have haccounts : (d.course ops).Accounts d.store := by
        refine ih (fun other hmem => hkeeps other (List.mem_append_left [op] hmem)) ?_ ?_ ?_ ?_
        · intro e he
          exact hsaving e (Course.mem_log_push.mpr (Or.inl he))
        · intro id hid
          exact hnames id (hbefore id hid)
        · exact hdistinct.left
        · intro f hf hmem
          exact hstart f hf (hbefore _ hmem)
      refine Course.accounts_step haccounts (hkeeps op (by simp))
        (hsaving _ (Course.mem_log_push.mpr (Or.inr rfl))) hnames ?_
      intro f huploaded
      constructor
      · intro hmem
        exact hdistinct.right.right _ hmem _ (by rw [huploaded]; simp) rfl
      · intro hcarries
        exact hstart f hcarries (Course.mem_uploads_push.mpr (Or.inr huploaded))

/-- After every history in which nobody else deletes rows, saving does not break off and
new files get new names, each archived file is either held or discarded. -/
theorem course_files {d : Desk} {ops : List Operation} (hkeeps : ∀ op ∈ ops, op.KeepsRows)
    (hsaving : ∀ e ∈ (d.course ops).log, e.reply.brokeOff = false)
    (hnames : ∀ id ∈ (d.course ops).uploads, ∃ f, f ≠ "" ∧ id = .string f)
    (hdistinct : (d.course ops).uploads.Nodup)
    (hstart : ∀ f, d.store.Carries f → .string f ∉ (d.course ops).uploads) :
    ∀ f, .string f ∈ (d.course ops).uploads →
      Xor ((d.course ops).Holds f) ((d.course ops).Discarded f) := by
  intro f hf
  have haccounts := course_accounts hkeeps hsaving hnames hdistinct hstart
  rcases haccounts.owned f hf with hholds | hdiscarded
  · exact Or.inl ⟨hholds, fun hdiscarded => hholds.right hdiscarded.right⟩
  · exact Or.inr ⟨hdiscarded, fun hholds => hholds.right hdiscarded.right⟩

def twice : List Operation :=
  [.create .fair ⟨"r1", ⟨0⟩⟩ (some "书") (some "好"),
    .create { Outside.fair with upload := .ok (.object [("id", .string "drive-456")]) }
      ⟨"r1", ⟨1⟩⟩ (some "题") (some "文")]

theorem course_files_twice :
    (furnished.course twice).Holds "drive-123" ∧
      (furnished.course twice).Discarded "drive-456" := by
  have hkeeps : ∀ op ∈ twice, op.KeepsRows := by
    intro op hop
    simp only [twice, List.mem_cons, List.not_mem_nil, or_false] at hop
    rcases hop with rfl | rfl
    · rfl
    · rfl
  have hsaving : (furnished.course twice).log.all (fun e => !e.reply.brokeOff) = true := by rfl
  have huploads : (furnished.course twice).uploads =
      [.string "drive-123", .string "drive-456"] := by rfl
  have hremoved : (furnished.course twice).removed = [.string "drive-456"] := by rfl
  have hfiles := course_files hkeeps (by simpa using hsaving) (by simp [huploads])
    (by simp [huploads]) (by simp [Store.Carries, furnished, Store.empty])
  constructor
  · rcases hfiles "drive-123" (by simp [huploads]) with ⟨hholds, _⟩ | ⟨hdiscarded, _⟩
    · exact hholds
    · exact absurd hdiscarded.right (by simp [hremoved])
  · rcases hfiles "drive-456" (by simp [huploads]) with ⟨hholds, _⟩ | ⟨hdiscarded, _⟩
    · exact absurd (by simp [hremoved]) hholds.right
    · exact hdiscarded

end Desk
end ReviewDesk
