import ReviewDesk.Proofs.Web.Visit

/-!
# Agreement of responses

Visits follow one another.  What the response to a creation tells of the new review is
what every later response tells of it, until the review is deleted; from then on no
response tells of it.
-/

namespace ReviewDesk
namespace Web
namespace App

variable {a : App} {v w : Visit} {visits before rest : List Visit} {id : String} {row : Review}

/-!
# Runs of visits

Nobody disturbs the visits, no id is drawn that was drawn before, and every row can be
shown.
-/

def after (a : App) (visits : List Visit) : App :=
  visits.foldl next a

def drawn (a : App) : List Visit → List Identity
  | [] => []
  | v :: rest => (a.drawn? v).toList ++ (a.next v).drawn rest

theorem drawn_cons (a : App) (v : Visit) (rest : List Visit) :
    a.drawn (v :: rest) = (a.drawn? v).toList ++ (a.next v).drawn rest :=
  rfl

def Deletes (a : App) (id : String) : List Visit → Prop
  | [] => False
  | v :: rest =>
      (v.request.Calls "DELETE" (.review id) ∧ (a.response v).status = 200) ∨
        (a.next v).Deletes id rest

/-- Visits one after another, which nobody disturbs, to rows that can be shown.  No id is
drawn that was drawn before, and each identity that is drawn is usable. -/
structure Orderly (a : App) (visits : List Visit) : Prop where
  viewable : ∀ row ∈ a.desk.store.rows, row.IsViewable
  distinct : (a.desk.store.rows.map (·.id) ++ (a.drawn visits).map (·.id)).Nodup
  usable : ∀ new ∈ a.drawn visits, new.IsUsable
  undisturbed : ∀ v ∈ visits, v.outside.vanishing = []

namespace Orderly

theorem nodup (h : Orderly a visits) : (a.desk.store.rows.map (·.id)).Nodup :=
  h.distinct.of_append_left

theorem first (h : Orderly a (v :: rest)) : Visited a v := by
  apply visited (h.undisturbed v (by simp))
  intro new hnew
  exact h.usable new (by simp [drawn_cons, hnew])

theorem distinct_next (h : Orderly a (v :: rest)) :
    ((a.next v).desk.store.rows.map (·.id) ++ ((a.next v).drawn rest).map (·.id)).Nodup := by
  have hdistinct := h.distinct
  rw [drawn_cons, List.map_append] at hdistinct
  have hlater : List.Sublist (((a.next v).drawn rest).map (·.id))
      ((a.drawn? v).toList.map (·.id) ++ ((a.next v).drawn rest).map (·.id)) :=
    List.sublist_append_right _ _
  cases h.first with
  | kept hrows hpost hdelete =>
      rw [hrows]
      exact hdistinct.sublist ((List.Sublist.refl _).append hlater)
  | added row hcalls hstatus hrows hview hannounced hdrawn =>
      have hid : (a.drawn? v).toList.map (·.id) = [row.id] := by
        rw [← Option.toList_map, hdrawn]
        rfl
      rw [hid, ← List.append_assoc] at hdistinct
      rw [hrows, List.map_append]
      exact hdistinct
  | erased id hcalls hstatus hrows =>
      rw [hrows]
      exact hdistinct.sublist ((List.filter_sublist.map _).append hlater)

theorem viewable_next (h : Orderly a (v :: rest)) :
    ∀ row ∈ (a.next v).desk.store.rows, row.IsViewable := by
  intro row hrow
  rcases mem_next h.first hrow with hold | ⟨hview, _⟩
  · exact h.viewable row hold
  · exact hview

theorem next (h : Orderly a (v :: rest)) : Orderly (a.next v) rest where
  viewable := h.viewable_next
  distinct := h.distinct_next
  usable := fun new hnew => h.usable new (by simp [drawn_cons, hnew])
  undisturbed := fun other hother => h.undisturbed other (by simp [hother])

theorem later (h : Orderly a (before ++ rest)) : Orderly (a.after before) rest := by
  induction before generalizing a with
  | nil => exact h
  | cons v others ih => exact ih h.next

/-!
# What becomes of a row

A row stands until it is deleted, and afterwards there is none of its id.
-/

theorem missing (h : Orderly a (before ++ rest)) (hmissing : ∀ row ∈ a.desk.store.rows, row.id ≠ id)
    (hdrawn : id ∉ (a.drawn (before ++ rest)).map (·.id)) :
    ∀ row ∈ (a.after before).desk.store.rows, row.id ≠ id := by
  induction before generalizing a with
  | nil => exact hmissing
  | cons v others ih =>
      rw [List.cons_append, drawn_cons, List.map_append, List.mem_append, not_or] at hdrawn
      apply ih h.next
      case hdrawn => exact hdrawn.right
      case hmissing =>
        intro row hrow
        rcases mem_next h.first hrow with hold | ⟨_, hnew⟩
        · exact hmissing row hold
        · rintro rfl
          apply hdrawn.left
          rw [← Option.toList_map, hnew]
          simp

theorem stands (h : Orderly a (before ++ rest)) (hrow : row ∈ a.desk.store.rows) :
    (¬ a.Deletes row.id before ∧ row ∈ (a.after before).desk.store.rows) ∨
      (a.Deletes row.id before ∧
        ∀ other ∈ (a.after before).desk.store.rows, other.id ≠ row.id) := by
  induction before generalizing a with
  | nil => exact Or.inl ⟨id, hrow⟩
  | cons v others ih =>
      have hgoes : row ∈ (a.next v).desk.store.rows →
          ¬ (v.request.Calls "DELETE" (.review row.id) ∧ (a.response v).status = 200) →
          (¬ a.Deletes row.id (v :: others) ∧ row ∈ (a.after (v :: others)).desk.store.rows) ∨
            (a.Deletes row.id (v :: others) ∧
              ∀ other ∈ (a.after (v :: others)).desk.store.rows, other.id ≠ row.id) := by
        intro hstays hspared
        rw [Deletes, or_iff_right hspared]
        exact ih h.next hstays
      cases h.first with
      | kept hrows hpost hdelete =>
          apply hgoes
          · rw [hrows]
            exact hrow
          · exact fun hboth => hdelete row.id hboth.left hboth.right
      | added new hcalls hstatus hrows hview hannounced hnew =>
          apply hgoes
          · rw [hrows]
            exact List.mem_append_left _ hrow
          · exact fun hboth => not_post_of_delete hboth.left hcalls
      | erased id hcalls hstatus hrows =>
          by_cases hsame : row.id = id
          · apply Or.inr
            rw [← hsame] at hcalls hrows
            refine ⟨Or.inl ⟨hcalls, hstatus⟩, h.next.missing ?_ ?_⟩
            · intro other hother
              rw [hrows] at hother
              simpa using (List.mem_filter.mp hother).right
            · have hdistinct := h.distinct
              rw [List.cons_append, drawn_cons, List.map_append] at hdistinct
              intro hdrawn
              have hdisjoint := (List.nodup_append.mp hdistinct).right.right
              exact hdisjoint row.id (List.mem_map_of_mem hrow) row.id
                (List.mem_append_right _ hdrawn) rfl
          · apply hgoes
            · rw [hrows]
              exact List.mem_filter.mpr ⟨hrow, by simpa using hsame⟩
            · intro hboth
              have hroute := hcalls.right.symm.trans hboth.left.right
              simp only [Route.found.injEq, Resource.review.injEq] at hroute
              exact hsame hroute.symm

end Orderly

/-!
# What responses tell of a review

A review is shown by reading it and as the only item of its id in a list.  It is hidden
when neither reading nor deleting finds it and no list has it.
-/

structure Lists (response : HttpResponse) (shown : List Json) : Prop where
  status : response.status = 200
  items : response.member? "items" = some (.array shown)
  total : response.member? "total" = some (.int shown.length)

structure Shows (a : App) (w : Visit) (id : String) (review : Json) : Prop where
  read : w.request.Calls "GET" (.review id) →
    (a.response w).status = 200 ∧ (a.response w).body = .json review
  listed : w.request.Calls "GET" .reviews →
    ∃ newer older, Lists (a.response w) (newer ++ review :: older) ∧
      ∀ item ∈ newer ++ older, item.member? "id" ≠ some (.string id)

structure Hides (a : App) (w : Visit) (id : String) : Prop where
  read : w.request.Calls "GET" (.review id) → (a.response w).status = 404
  deleted : w.request.Calls "DELETE" (.review id) → (a.response w).status = 404
  listed : w.request.Calls "GET" .reviews →
    ∃ shown, Lists (a.response w) shown ∧ ∀ item ∈ shown, item.member? "id" ≠ some (.string id)

/-- On each of the visits the review is shown, until it is deleted, and then hidden. -/
def Keeps (a : App) (visits : List Visit) (id : String) (review : Json) : Prop :=
  ∀ before w rest, visits = before ++ w :: rest →
    (¬ a.Deletes id before → (a.after before).Shows w id review) ∧
      (a.Deletes id before → (a.after before).Hides w id)

structure Agrees (a : App) (v : Visit) (visits : List Visit) : Prop where
  created : v.request.Calls "POST" .reviews → (a.response v).status = 201 →
    ∃ row, (a.next v).desk.store.rows = a.desk.store.rows ++ [row] ∧
      Announces (a.response v) row.id row.view ∧ (a.next v).Keeps visits row.id row.view
  refused : v.request.Calls "POST" .reviews → (a.response v).status ≠ 201 →
    (a.next v).desk.store.rows = a.desk.store.rows
  listed : v.request.Calls "GET" .reviews → ∃ shown, Lists (a.response v) shown

theorem lists_of_viewable (hcalls : v.request.Calls "GET" .reviews)
    (h : ∀ row ∈ a.desk.store.rows, row.IsViewable) :
    Lists (a.response v) (a.desk.list.map Review.view) := by
  have hlist : ∀ row ∈ a.desk.list, row.IsViewable := fun row hrow =>
    h row ((Store.newestFirst_perm _).mem_iff.mp hrow)
  rcases list_of_viewable hcalls hlist with ⟨hstatus, hitems, htotal⟩
  constructor
  case status => exact hstatus
  case items => exact hitems
  case total => simpa using htotal

theorem member_of_ne (hview : row.IsViewable) (hid : row.id ≠ id) :
    row.view.member? "id" ≠ some (.string id) := by
  rw [(View.review_members hview).left]
  simpa using hid

namespace Orderly

theorem shows (h : Orderly a (w :: rest)) (hrow : row ∈ a.desk.store.rows) :
    a.Shows w row.id row.view := by
  constructor
  case read =>
    intro hcalls
    have hfound := (Store.find?_eq_some_iff h.nodup).mpr ⟨hrow, rfl⟩
    exact read_of_found hcalls hfound (h.viewable row hrow)
  case listed =>
    intro hcalls
    have hperm : a.desk.list.Perm a.desk.store.rows := Store.newestFirst_perm _
    rcases List.append_of_mem (hperm.mem_iff.mpr hrow) with ⟨newer, older, hlist⟩
    refine ⟨newer.map Review.view, older.map Review.view, ?_, ?_⟩
    · have hlists := lists_of_viewable hcalls h.viewable
      rw [hlist, List.map_append, List.map_cons] at hlists
      exact hlists
    · intro item hitem
      rw [← List.map_append] at hitem
      rcases List.mem_map.mp hitem with ⟨other, hother, rfl⟩
      have hids : (a.desk.list.map (·.id)).Nodup := (hperm.map _).nodup_iff.mpr h.nodup
      rw [hlist, List.map_append, List.map_cons, List.nodup_middle, ← List.map_append] at hids
      have hbefore : other ∈ a.desk.list := by
        rw [hlist]
        exact List.mem_append.mpr ((List.mem_append.mp hother).imp_right (List.mem_cons_of_mem _))
      apply member_of_ne (h.viewable other (hperm.mem_iff.mp hbefore))
      intro hsame
      rw [← hsame] at hids
      exact (List.nodup_cons.mp hids).left (List.mem_map_of_mem hother)

theorem hides (h : Orderly a (w :: rest)) (hmissing : ∀ other ∈ a.desk.store.rows, other.id ≠ id) :
    a.Hides w id := by
  have hfound : a.desk.find? id = none := by
    simpa [Desk.find?, Store.contains] using Store.contains_eq_false_iff.mpr hmissing
  constructor
  case read => exact fun hcalls => read_of_missing hcalls hfound
  case deleted => exact fun hcalls => (delete_of_missing hcalls hfound).left
  case listed =>
    intro hcalls
    refine ⟨_, lists_of_viewable hcalls h.viewable, ?_⟩
    intro item hitem
    rcases List.mem_map.mp hitem with ⟨other, hother, rfl⟩
    have hrow : other ∈ a.desk.store.rows := (Store.newestFirst_perm _).mem_iff.mp hother
    exact member_of_ne (h.viewable other hrow) (hmissing other hrow)

theorem keeps (h : Orderly a visits) (hrow : row ∈ a.desk.store.rows) :
    a.Keeps visits row.id row.view := by
  intro before w rest hvisits
  rw [hvisits] at h
  rcases h.stands hrow with ⟨hstands, hstill⟩ | ⟨hdeleted, hmissing⟩
  · exact ⟨fun _ => h.later.shows hstill, fun hother => absurd hother hstands⟩
  · exact ⟨fun hother => absurd hdeleted hother, fun _ => h.later.hides hmissing⟩

theorem agrees (h : Orderly a (v :: rest)) : a.Agrees v rest := by
  constructor
  case created =>
    intro hpost hcreated
    cases h.first with
    | kept hrows hother hdelete => exact absurd hcreated (hother hpost)
    | erased id hcalls hstatus hrows => exact absurd hpost (not_post_of_delete hcalls)
    | added row hcalls hstatus hrows hview hannounced hdrawn =>
        refine ⟨row, hrows, hannounced, h.next.keeps ?_⟩
        rw [hrows]
        simp
  case refused =>
    intro hpost hrefused
    cases h.first with
    | kept hrows hother hdelete => exact hrows
    | erased id hcalls hstatus hrows => exact absurd hpost (not_post_of_delete hcalls)
    | added row hcalls hstatus hrows hview hannounced hdrawn => exact absurd hstatus hrefused
  case listed => exact fun hcalls => ⟨_, lists_of_viewable hcalls h.viewable⟩

end Orderly

/-- Whatever the visits ask for and whatever the outside answers meanwhile, each response
agrees with the rows and with every later response. -/
theorem visits_agree (h : Orderly a visits) (hsplit : visits = before ++ v :: rest) :
    (a.after before).Agrees v rest := by
  rw [hsplit] at h
  exact h.later.agrees

def asking (method path : String) (body : List Nat) : Visit :=
  ⟨.fair, ⟨method, "http://desk", path, "", [], body⟩⟩

def posting : Visit :=
  asking "POST" "/api/reviews" [123, 34, 116, 105, 116, 108, 101, 34, 58, 34, 231, 148, 178, 34,
    44, 34, 111, 114, 105, 103, 105, 110, 97, 108, 95, 99, 111, 110, 116, 101, 110, 116, 34, 58,
    34, 229, 165, 189, 34, 125]

def looking : List Visit :=
  [asking "GET" "/api/reviews" [], asking "GET" "/api/reviews/r1" [],
    asking "DELETE" "/api/reviews/r1" [], asking "GET" "/api/reviews/r1" []]

theorem visits_agree_looking :
    ((make Desk.furnished []).response posting).status = 201 ∧
      ((make Desk.furnished []).next posting).Deletes "r1" looking ∧
      (make Desk.furnished []).Agrees posting looking := by
  have hdrawn : (make Desk.furnished []).drawn (posting :: looking) = [⟨"r1", ⟨0⟩⟩] := by
    decide +kernel
  have hplain : IsPlain "r1" := by
    refine ⟨by decide, ?_⟩
    intro c hc
    change c ∈ ['r', '1'] at hc
    simp only [List.mem_cons, List.not_mem_nil, or_false] at hc
    rcases hc with rfl | rfl
    · decide
    · decide
  have horderly : Orderly (make Desk.furnished []) (posting :: looking) := by
    constructor
    case viewable =>
      intro row hrow
      cases hrow
    case distinct =>
      rw [hdrawn]
      decide
    case usable =>
      intro new hnew
      rw [hdrawn, List.mem_singleton] at hnew
      rw [hnew]
      exact ⟨hplain, by decide⟩
    case undisturbed =>
      intro v hv
      simp only [posting, looking, List.mem_cons, List.not_mem_nil, or_false] at hv
      rcases hv with rfl | rfl | rfl | rfl | rfl
      · rfl
      · rfl
      · rfl
      · rfl
      · rfl
  refine ⟨by decide +kernel, ?_, visits_agree horderly (List.nil_append _).symm⟩
  exact Or.inr (Or.inr (Or.inl ⟨⟨rfl, by decide +kernel⟩, by decide +kernel⟩))

end App
end Web
end ReviewDesk
