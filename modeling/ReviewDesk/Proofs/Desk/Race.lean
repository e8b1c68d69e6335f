import ReviewDesk.Proofs.Desk.Sparing

/-!
# Deletions of the same review

Any number of deletions of one review can be on their way at once, among deletions of other
reviews and creations under other ids.  The row is there until the first of them erases it,
and every other one comes too late: one of them deletes the review, and the others miss it.
-/

namespace ReviewDesk

open Text

/-!
# One step of a deletion
-/

namespace Removal

variable {d : Desk} {w : Outside} {id : String} {r : Review}

/-- As long as the archive can be reached, these requests ask for the removal of the file of
the review, once. -/
def Asked (online : Prop) (r : Review) (requests : List Request) : Prop :=
  online → ∀ f, r.file? = some f → removals requests = [.string f]

/-- What the deletion of a review knows and has asked for at each stage: either it came too
late to find the row, or it found the row and had its file removed. -/
inductive Follows (online : Prop) (id : String) (r : Review) : Removal → Prop where
  | looking : Follows online id r ⟨id, none, [], .looking⟩
  | missed : Follows online id r ⟨id, none, [], .ended (.error ⟨id⟩)⟩
  | clearing : Follows online id r ⟨id, some r, [], .clearing r⟩
  | erasing {requests : List Request} {deletion : Deletion} (hasked : Asked online r requests) :
      Follows online id r ⟨id, some r, requests, .erasing deletion⟩
  | deleted {requests : List Request} {deletion : Deletion} (hasked : Asked online r requests) :
      Follows online id r ⟨id, some r, requests, .ended (.ok deletion)⟩
  | late {requests : List Request} (hasked : Asked online r requests) :
      Follows online id r ⟨id, some r, requests, .ended (.error ⟨id⟩)⟩

variable {online : Prop} {m : Removal} {found : Review} {f : String}

theorem follows_clearing (h : online → d.archive.Reachable) (w : Outside) (id : String)
    (r : Review) :
    Follows online id r ((⟨id, some r, [], .clearing r⟩ : Removal).step d w).2 := by
  apply Follows.erasing
  intro honline f hf
  exact (Desk.removeFileOf_of_asks ⟨h honline, by simp [hf]⟩ w).left f hf

theorem asked_of_follows (h : m.Follows online id r) (hended : m.stage.result?.isSome = true)
    (hseen : m.seen = some found) (hf : found.file? = some f) (honline : online) :
    removals m.requests = [.string f] := by
  cases h with
  | looking => cases hended
  | missed => cases hseen
  | clearing => cases hended
  | erasing hasked => cases hended
  | deleted hasked =>
      cases hseen
      exact hasked honline f hf
  | late hasked =>
      cases hseen
      exact hasked honline f hf

end Removal

/-!
# One step of a call

A step erases the row, or comes too late for it, or means nothing for it.
-/

namespace Call

variable {online : Prop} {c : Call} {d : Desk} {w : Outside} {id : String} {r : Review}

inductive Follows (online : Prop) (id : String) (r : Review) : Call → Prop where
  | rival {m : Removal} (h : m.Follows online id r) : Follows online id r (.deletion m)
  | bystander {m : Removal} (h : m.id ≠ id) : Follows online id r (.deletion m)
  | creation {requests : List Request} {m : Making} (h : m.Spares id) :
      Follows online id r (.creation requests m)

inductive Moves (id : String) (r : Review) (d : Desk) (c : Call) : Desk → Call → Prop where
  | quiet {after : Desk} {next : Call} (hfound : after.find? id = d.find? id)
      (hreply : next.reply? id = c.reply? id) : Moves id r d c after next
  | erases {after : Desk} {next : Call} {deletion : Deletion} (hfound : d.find? id = some r)
      (hgone : after.find? id = none) (hopen : c.reply? id = none)
      (hreply : next.reply? id = some (.ok deletion)) : Moves id r d c after next
  | misses {after : Desk} {next : Call} (hfound : d.find? id = none)
      (hgone : after.find? id = none) (hopen : c.reply? id = none)
      (hreply : next.reply? id = some (.error ⟨id⟩)) : Moves id r d c after next

theorem targets_step (c : Call) (d : Desk) (w : Outside) :
    (c.step d w).2.targets id = c.targets id := by
  cases c with
  | deletion m => simp [step, targets, (Removal.step_cases m d w).left]
  | creation requests m => rfl

theorem reply?_self (id : String) (seen : Option Review) (requests : List Request)
    (stage : Deleting) : (deletion ⟨id, seen, requests, stage⟩).reply? id = stage.result? :=
  if_pos rfl

theorem moves_rival {m : Removal} (h : m.Follows online id r) (hvanish : w.vanishing = [])
    (hreachable : online → d.archive.Reachable)
    (hrow : d.find? id = some r ∨ d.find? id = none) :
    (online → (m.step d w).1.archive.Reachable) ∧ (m.step d w).2.Follows online id r ∧
      Moves id r d (.deletion m) (m.step d w).1 (.deletion (m.step d w).2) := by
  cases h with
  | looking =>
      rcases hrow with hfound | hmissing
      · simp only [Removal.step, hfound]
        exact ⟨hreachable, Removal.Follows.clearing, Moves.quiet rfl rfl⟩
      · simp only [Removal.step, hmissing]
        exact ⟨hreachable, Removal.Follows.missed,
          Moves.misses hmissing hmissing (reply?_self id _ _ _) (reply?_self id _ _ _)⟩
  | missed =>
      exact ⟨hreachable, Removal.Follows.missed, Moves.quiet rfl rfl⟩
  | clearing =>
      have hspares := Desk.removeFileOf_spares hvanish d id r
      exact ⟨hspares.reachable ∘ hreachable, Removal.follows_clearing hreachable w id r,
        Moves.quiet hspares.found rfl⟩
  | erasing hasked =>
      rcases hrow with hfound | hmissing
      · simp only [Removal.step, Desk.deleteRow?_of_found hfound]
        exact ⟨hreachable, Removal.Follows.deleted hasked,
          Moves.erases hfound (Store.find?_erase_self d.store id) (reply?_self id _ _ _)
            (reply?_self id _ _ _)⟩
      · simp only [Removal.step, Desk.deleteRow?_of_missing hmissing]
        exact ⟨hreachable, Removal.Follows.late hasked,
          Moves.misses hmissing hmissing (reply?_self id _ _ _) (reply?_self id _ _ _)⟩
  | deleted hasked =>
      exact ⟨hreachable, Removal.Follows.deleted hasked, Moves.quiet rfl rfl⟩
  | late hasked =>
      exact ⟨hreachable, Removal.Follows.late hasked, Moves.quiet rfl rfl⟩

theorem moves_step (h : c.Follows online id r) (hvanish : w.vanishing = [])
    (hreachable : online → d.archive.Reachable)
    (hrow : d.find? id = some r ∨ d.find? id = none) :
    (online → (c.step d w).1.archive.Reachable) ∧ (c.step d w).2.Follows online id r ∧
      Moves id r d c (c.step d w).1 (c.step d w).2 := by
  cases h with
  | rival h =>
      rcases moves_rival h hvanish hreachable hrow with ⟨hreach, hfollows, hmoves⟩
      exact ⟨hreach, Follows.rival hfollows, hmoves⟩
  | bystander h =>
      rename_i m
      have hspares := Removal.step_spares h hvanish d
      have hid : (m.step d w).2.id ≠ id := by
        rw [(Removal.step_cases m d w).left]
        exact h
      exact ⟨hspares.reachable ∘ hreachable, Follows.bystander hid,
        Moves.quiet hspares.found (by simp [step, reply?, hid, h])⟩
  | creation h =>
      rcases Making.spares_step h hvanish d with ⟨hspares, hnext⟩
      exact ⟨hspares.reachable ∘ hreachable, Follows.creation hnext,
        Moves.quiet hspares.found rfl⟩

end Call

/-!
# The race

As long as the row is there no deletion of it has ended, and once it is gone exactly one of
those that have ended deleted it.
-/

namespace Traffic

variable {online : Prop} {t : Traffic} {w : Outside} {id : String} {r : Review}

def Decided (replies : List (Except NotFound Deletion)) (id : String) : Prop :=
  ∃ deletion missed, replies.Perm (.ok deletion :: List.replicate missed (.error ⟨id⟩))

def Standing (d : Desk) (replies : List (Except NotFound Deletion)) (id : String) (r : Review) :
    Prop :=
  (d.find? id = some r ∧ replies = []) ∨ (d.find? id = none ∧ Decided replies id)

theorem decided_of_missed {before later : List (Except NotFound Deletion)}
    (h : Decided (before ++ later) id) : Decided (before ++ .error ⟨id⟩ :: later) id := by
  rcases h with ⟨deletion, missed, hperm⟩
  refine ⟨deletion, missed + 1, ?_⟩
  calc List.Perm (before ++ .error ⟨id⟩ :: later) (.error ⟨id⟩ :: (before ++ later)) :=
        List.perm_middle
    List.Perm _ (.error ⟨id⟩ :: .ok deletion :: List.replicate missed (.error ⟨id⟩)) :=
        hperm.cons _
    List.Perm _ (.ok deletion :: List.replicate (missed + 1) (.error ⟨id⟩)) :=
        List.Perm.swap _ _ _

theorem standing_of_moves {d after : Desk} {c next : Call}
    {before later : List (Except NotFound Deletion)}
    (h : Standing d (before ++ ((c.reply? id).toList ++ later)) id r)
    (hmoves : Call.Moves id r d c after next) :
    Standing after (before ++ ((next.reply? id).toList ++ later)) id r := by
  cases hmoves with
  | quiet hfound hreply =>
      rw [Standing, hfound, hreply]
      exact h
  | erases hfound hgone hopen hreply =>
      rename_i deletion
      -- the row is there, so nobody has ended yet
      rcases h with ⟨_, hnone⟩ | ⟨hmissing, _⟩
      · rw [hopen] at hnone
        rcases List.append_eq_nil_iff.mp hnone with ⟨rfl, rfl⟩
        refine Or.inr ⟨hgone, deletion, 0, ?_⟩
        rw [hreply]
        exact List.Perm.refl _
      · rw [hfound] at hmissing
        cases hmissing
  | misses hmissing hgone hopen hreply =>
      -- the row is gone, so somebody has deleted it before
      rcases h with ⟨hfound, _⟩ | ⟨_, hdecided⟩
      · rw [hmissing] at hfound
        cases hfound
      · rw [hopen] at hdecided
        rw [hreply]
        exact Or.inr ⟨hgone, decided_of_missed hdecided⟩

structure Contests (online : Prop) (t : Traffic) (id : String) (r : Review) : Prop where
  reachable : online → t.desk.archive.Reachable
  follows : ∀ c ∈ t.calls, c.Follows online id r
  standing : Standing t.desk (t.replies id) id r

theorem replies_split {before later : List Call} {c : Call} (h : t.calls = before ++ c :: later)
    (id : String) :
    t.replies id = before.filterMap (·.reply? id) ++
      ((c.reply? id).toList ++ later.filterMap (·.reply? id)) := by
  rw [replies, h, List.filterMap_append, List.filterMap_cons]
  cases c.reply? id with
  | none => rfl
  | some reply => rfl

theorem contests_turn (h : Contests online t id r) (i : Nat) (hvanish : w.vanishing = []) :
    Contests online (t.turn i w) id r := by
  cases hcall : t.calls[i]? with
  | none =>
      rw [turn_of_no_call hcall]
      exact h
  | some c =>
      rcases h with ⟨hreachable, hfollows, hstanding⟩
      -- only the call that takes its turn changes, so the calls are split there
      rcases turn_of_call hcall w with ⟨before, later, hcalls, hturn⟩
      have hrow : t.desk.find? id = some r ∨ t.desk.find? id = none :=
        hstanding.imp And.left And.left
      rcases Call.moves_step (hfollows c (List.mem_of_getElem? hcall)) hvanish hreachable hrow with
        ⟨hstill, hnext, hmoves⟩
      rw [hcalls, List.forall_mem_append, List.forall_mem_cons] at hfollows
      rw [replies_split hcalls] at hstanding
      rw [hturn]
      refine ⟨hstill, ?_, ?_⟩
      · rw [List.forall_mem_append, List.forall_mem_cons]
        exact ⟨hfollows.left, hnext, hfollows.right.right⟩
      · rw [replies_split rfl]
        exact standing_of_moves hstanding hmoves

theorem contests_run {turns : List (Nat × Outside)} (h : Contests online t id r)
    (hvanish : ∀ next ∈ turns, next.2.vanishing = []) : Contests online (t.run turns) id r := by
  induction turns using List.reverseRecOn with
  | nil => exact h
  | append_singleton turns next ih =>
      rcases next with ⟨i, w⟩
      rw [run_snoc]
      apply contests_turn
      · exact ih fun other hmem => hvanish other (List.mem_append_left _ hmem)
      · exact hvanish (i, w) (by simp)

theorem rivals_turn (t : Traffic) (i : Nat) (w : Outside) (id : String) :
    (t.turn i w).rivals id = t.rivals id := by
  cases hcall : t.calls[i]? with
  | none => rw [turn_of_no_call hcall]
  | some c =>
      rcases turn_of_call hcall w with ⟨before, later, hcalls, hturn⟩
      rw [hturn, rivals, rivals, hcalls, List.countP_append, List.countP_append, List.countP_cons,
        List.countP_cons, Call.targets_step]

theorem rivals_run (t : Traffic) (turns : List (Nat × Outside)) (id : String) :
    (t.run turns).rivals id = t.rivals id := by
  induction turns using List.reverseRecOn with
  | nil => rfl
  | append_singleton turns next ih =>
      rcases next with ⟨i, w⟩
      rw [run_snoc, rivals_turn, ih]

theorem length_replies
    (h : ∀ c ∈ t.calls, c.targets id = true → (c.reply? id).isSome = true) :
    (t.replies id).length = t.rivals id := by
  rw [replies, rivals, List.length_filterMap_eq_countP]
  apply List.countP_congr
  intro c hc
  refine ⟨?_, h c hc⟩
  cases c with
  | creation requests m => simp [Call.reply?]
  | deletion m =>
      simp only [Call.reply?, Call.targets, beq_iff_eq]
      split
      · rename_i hid
        exact fun _ => hid
      · simp

inductive Starts (id : String) : Call → Prop where
  | delete (other : String) : Starts id (.deletion (.start other))
  | create {new : Identity} (h : new.id ≠ id) (title content : Option (List Text.Mark)) :
      Starts id (.creation [] (.start new title content))

theorem follows_of_starts {c : Call} (h : Starts id c) (online : Prop) (r : Review) :
    c.Follows online id r ∧ c.reply? id = none := by
  cases h with
  | delete other =>
      by_cases hid : other = id
      · subst hid
        exact ⟨Call.Follows.rival Removal.Follows.looking, Call.reply?_self other _ _ _⟩
      · exact ⟨Call.Follows.bystander hid, by simp [Call.reply?, Removal.start, hid]⟩
  | create hnew title content =>
      exact ⟨Call.Follows.creation (Making.spares_start hnew title content), rfl⟩

theorem contests_start (hstarts : ∀ c ∈ t.calls, Starts id c) (hfound : t.desk.find? id = some r)
    (hreachable : online → t.desk.archive.Reachable) : Contests online t id r where
  reachable := hreachable
  follows := fun c hc => (follows_of_starts (hstarts c hc) online r).left
  standing := by
    refine Or.inl ⟨hfound, ?_⟩
    rw [replies, List.filterMap_eq_nil_iff]
    exact fun c hc => (follows_of_starts (hstarts c hc) online r).right

/-!
# How the race ends

One of the deletions has deleted the review and all others missed it.  Each of them that
found the row asked for the removal of its file, once, and none touched the row of another
review.
-/

structure Settles (t : Traffic) (id : String) (rivals : Nat) : Prop where
  replies : ∃ deletion,
    (t.replies id).Perm (.ok deletion :: List.replicate (rivals - 1) (.error ⟨id⟩))
  gone : t.desk.find? id = none

def AsksOnce (t : Traffic) (id : String) : Prop :=
  ∀ m, .deletion m ∈ t.calls → m.id = id → ∀ r f, m.seen = some r → r.file? = some f →
    removals m.requests = [.string f]

def KeepsOthers (t : Traffic) (turns : List (Nat × Outside)) (id : String) : Prop :=
  ∀ before i w later, turns = before ++ (i, w) :: later →
    ∀ m, (t.run before).calls[i]? = some (.deletion m) → m.id = id →
      (t.run (before ++ [(i, w)])).desk.others id = (t.run before).desk.others id

theorem keepsOthers_run {turns : List (Nat × Outside)}
    (hvanish : ∀ next ∈ turns, next.2.vanishing = []) (t : Traffic) (id : String) :
    t.KeepsOthers turns id := by
  rintro before i w later rfl m hcall rfl
  rcases turn_of_call hcall w with ⟨_, _, _, hturn⟩
  rw [run_snoc, hturn]
  exact Removal.others_step (hvanish (i, w) (by simp)) m _

/-- However the deletions of a stored review take their turns, with each other and with all
other calls, once they have all ended one of them has deleted it. -/
theorem run_settles {turns : List (Nat × Outside)} (hstarts : ∀ c ∈ t.calls, Starts id c)
    (hfound : t.desk.find? id = some r) (hvanish : ∀ next ∈ turns, next.2.vanishing = [])
    (hrivals : 0 < t.rivals id)
    (hended : ∀ c ∈ (t.run turns).calls, c.targets id = true → (c.reply? id).isSome = true) :
    (t.run turns).Settles id (t.rivals id) ∧
      (t.desk.archive.Reachable → (t.run turns).AsksOnce id) ∧ t.KeepsOthers turns id := by
  have hcontests := contests_run (contests_start hstarts hfound fun h => h) hvanish
  have hlength := (length_replies hended).trans (rivals_run t turns id)
  refine ⟨?_, ?_, keepsOthers_run hvanish t id⟩
  · rcases hcontests.standing with ⟨_, hnone⟩ | ⟨hgone, deletion, missed, hperm⟩
    · rw [hnone] at hlength
      exact absurd hlength (Nat.ne_of_lt hrivals)
    · have hmissed : missed = t.rivals id - 1 := by
        have hsame := hperm.length_eq
        simp only [List.length_cons, List.length_replicate] at hsame
        omega
      rw [hmissed] at hperm
      exact ⟨⟨deletion, hperm⟩, hgone⟩
  · rintro honline m hm rfl found f hseen hf
    have hreply := hended _ hm (beq_self_eq_true m.id)
    rw [Call.reply?, if_pos rfl] at hreply
    cases hcontests.follows _ hm with
    | rival hfollows => exact Removal.asked_of_follows hfollows hreply hseen hf honline
    | bystander hother => exact absurd rfl hother

def rush : Traffic where
  desk := Desk.crowded
  calls := [.deletion (.start "r1"), .deletion (.start "r1"), .deletion (.start "r9"),
    .creation [] (.start ⟨"r2", ⟨1⟩⟩ (some "题") (some "文"))]

def rushed : List (Nat × Outside) :=
  [0, 1, 3, 1, 3, 0, 2, 3, 1, 3, 0].map fun i => (i, .fair)

theorem run_settles_rushed :
    (rush.run rushed).Settles "r1" 2 ∧ (rush.run rushed).AsksOnce "r1" ∧
      rush.KeepsOthers rushed "r1" ∧
      (rush.run rushed).replies "r1" = [.error ⟨"r1"⟩, .ok ⟨true, []⟩] ∧
      (rush.run rushed).desk.store.rows.map (·.id) = ["r2"] := by
  have hstarts : ∀ c ∈ rush.calls, Starts "r1" c := by
    intro c hc
    simp only [rush, List.mem_cons, List.not_mem_nil, or_false] at hc
    rcases hc with rfl | rfl | rfl | rfl
    · exact Starts.delete "r1"
    · exact Starts.delete "r1"
    · exact Starts.delete "r9"
    · exact Starts.create (by decide) (some "题") (some "文")
  have hsome : (rush.desk.find? "r1").isSome = true := by rfl
  rcases Option.isSome_iff_exists.mp hsome with ⟨r, hfound⟩
  have hvanish : ∀ next ∈ rushed, next.2.vanishing = [] := by
    intro next hnext
    rcases List.mem_map.mp hnext with ⟨i, _, rfl⟩
    rfl
  have hall : (rush.run rushed).calls.all
      (fun c => !c.targets "r1" || (c.reply? "r1").isSome) = true := by rfl
  have hended : ∀ c ∈ (rush.run rushed).calls,
      c.targets "r1" = true → (c.reply? "r1").isSome = true := by
    intro c hc htargets
    simpa [htargets] using List.all_eq_true.mp hall c hc
  rcases run_settles hstarts hfound hvanish (by decide) hended with ⟨hsettles, hasks, hkeeps⟩
  exact ⟨hsettles, hasks (Or.inl rfl), hkeeps, by rfl, by rfl⟩

end Traffic
end ReviewDesk
