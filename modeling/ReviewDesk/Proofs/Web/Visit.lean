import ReviewDesk.Proofs.Text.Ascii
import ReviewDesk.Proofs.Web.View
import ReviewDesk.Web.App

/-!
# What a visit does

A visit is a request with what the outside world does meanwhile.  It adds one row, which
its response tells of, or it erases the row that it was asked to delete, or it leaves all
rows alone.
-/

namespace ReviewDesk

/-- An id that can stand in a path and in a header, such as one of hexadecimal digits. -/
def IsPlain (id : String) : Prop :=
  id ≠ "" ∧ ∀ c ∈ id.toList, c ≠ '/' ∧ c.toNat < 256

structure Identity.IsUsable (new : Identity) : Prop where
  plain : IsPlain new.id
  time : new.createdAt.micros < Seoul.end9999.micros

namespace Web

structure Visit where
  outside : Outside
  request : HttpRequest

def HttpRequest.Calls (r : HttpRequest) (method : String) (resource : Resource) : Prop :=
  r.method = method ∧ Route.ofPath r.path = .found resource

def HttpResponse.member? (r : HttpResponse) (name : String) : Option Json :=
  match r.body with
  | .json v => v.member? name
  | .text _ => none

def lastSegment (path : String) : String :=
  String.ofList (path.toList.reverse.takeWhile (· != '/')).reverse

namespace App

def response (a : App) (v : Visit) : HttpResponse :=
  match (a.handle v.outside v.request).result with
  | .ok response => response
  | .error _ => brokenResponse

def next (a : App) (v : Visit) : App :=
  (a.handle v.outside v.request).app

def drawn? (a : App) (v : Visit) : Option Identity :=
  if (a.next v).begun = a.begun then none else some (v.outside.identity (a.begun + 1))

end App

namespace App

variable {a : App} {w : Outside} {r : HttpRequest} {v : Visit}

/-!
# Handling
-/

theorem tag_eq (a : App) (w : Outside) (r : HttpRequest) :
    ∃ tagged, (a.tag w r).1 = { a with tagged := tagged } := by
  unfold tag
  split
  · exact ⟨a.tagged, rfl⟩
  · exact ⟨a.tagged + 1, rfl⟩

theorem asked?_of_method (h : r.method ≠ "OPTIONS") : Origin.asked? r = none := by
  simp [Origin.asked?, h]

theorem handle_of_calls {method : String} {resource : Resource} (hcalls : r.Calls method resource)
    (hoptions : method ≠ "OPTIONS") (hhead : method ≠ "HEAD") (a : App) (w : Outside) :
    a.handle w r =
      ⟨((a.tag w r).1.serve w r resource).app, ((a.tag w r).1.serve w r resource).requests,
        ((a.tag w r).1.serve w r resource).result.map (·.withHeaders
          (Origin.ordinary (a.tag w r).1.origins r.headers ++
            [("x-request-id", (a.tag w r).2)]))⟩ := by
  rcases hcalls with ⟨rfl, hroute⟩
  simp only [handle, answer, dispatch, asked?_of_method hoptions, hroute]
  cases ((a.tag w r).1.serve w r resource).result with
  | error fault => rfl
  | ok response => simp [Except.map, finish, hhead, HttpResponse.withHeaders]

theorem served_of_calls {method : String} {resource : Resource} (hcalls : r.Calls method resource)
    (hoptions : method ≠ "OPTIONS") (hhead : method ≠ "HEAD") (a : App) (w : Outside) :
    ∃ tagged : Nat, ∃ extra : Headers,
      (a.handle w r).app = ({ a with tagged := tagged }.serve w r resource).app ∧
        (a.handle w r).result =
          ({ a with tagged := tagged }.serve w r resource).result.map
            fun (response : HttpResponse) => response.withHeaders extra := by
  rcases tag_eq a w r with ⟨tagged, htag⟩
  rw [handle_of_calls hcalls hoptions hhead, htag]
  exact ⟨tagged, _, rfl, rfl⟩

theorem handle_of_other (hpost : ¬ r.Calls "POST" .reviews)
    (hdelete : ∀ id, ¬ r.Calls "DELETE" (.review id)) (a : App) (w : Outside) :
    (a.handle w r).app.desk = a.desk ∧ (a.handle w r).app.begun = a.begun ∧
      (a.handle w r).requests = [] := by
  rcases tag_eq a w r with ⟨tagged, htag⟩
  simp only [handle, answer, htag]
  split
  · exact ⟨rfl, rfl, rfl⟩
  · simp only [dispatch]
    split
    · rename_i resource hroute
      unfold serve
      split
      · exact ⟨rfl, rfl, rfl⟩
      · exact ⟨rfl, rfl, rfl⟩
      · rename_i hmethod
        exact absurd ⟨hmethod, hroute⟩ hpost
      · exact ⟨rfl, rfl, rfl⟩
      · exact ⟨rfl, rfl, rfl⟩
      · rename_i id hmethod
        exact absurd ⟨hmethod, hroute⟩ (hdelete id)
      · exact ⟨rfl, rfl, rfl⟩
    · exact ⟨rfl, rfl, rfl⟩
    · exact ⟨rfl, rfl, rfl⟩

theorem next_of_other (hpost : ¬ v.request.Calls "POST" .reviews)
    (hdelete : ∀ id, ¬ v.request.Calls "DELETE" (.review id)) (a : App) :
    (a.next v).desk = a.desk ∧ (a.next v).begun = a.begun := by
  rcases handle_of_other hpost hdelete a v.outside with ⟨hdesk, hbegun, _⟩
  exact ⟨hdesk, hbegun⟩

theorem response_of_ok {method : String} {resource : Resource} {response : HttpResponse}
    (hcalls : v.request.Calls method resource) (hoptions : method ≠ "OPTIONS")
    (hhead : method ≠ "HEAD")
    (h : ∀ tagged, ({ a with tagged := tagged }.serve v.outside v.request resource).result =
      .ok response) :
    ∃ extra : Headers, a.response v = response.withHeaders extra := by
  rcases served_of_calls hcalls hoptions hhead a v.outside with ⟨tagged, extra, _, hresult⟩
  refine ⟨extra, ?_⟩
  rw [App.response, hresult, h tagged]
  rfl

/-!
# Reading
-/

theorem read_of_missing {id : String} (hcalls : v.request.Calls "GET" (.review id))
    (h : a.desk.find? id = none) : (a.response v).status = 404 := by
  have hserved : ∀ tagged, ({ a with tagged := tagged }.serve v.outside v.request
      (.review id)).result = .ok (refused 404 missingText) := by
    intro tagged
    simp [serve, hcalls.left, readResponse, h]
  rcases response_of_ok hcalls (by decide) (by decide) hserved with ⟨extra, hresponse⟩
  rw [hresponse]
  rfl

theorem read_of_found {id : String} {row : Review} (hcalls : v.request.Calls "GET" (.review id))
    (h : a.desk.find? id = some row) (hview : row.IsViewable) :
    (a.response v).status = 200 ∧ (a.response v).body = .json row.view := by
  have hserved : ∀ tagged, ({ a with tagged := tagged }.serve v.outside v.request
      (.review id)).result = .ok (.json 200 row.view) := by
    intro tagged
    simp [serve, hcalls.left, readResponse, h, Review.view_eq hview, bind, Except.bind, pure,
      Except.pure]
  rcases response_of_ok hcalls (by decide) (by decide) hserved with ⟨extra, hresponse⟩
  rw [hresponse]
  exact ⟨rfl, rfl⟩

theorem list_of_viewable (hcalls : v.request.Calls "GET" .reviews)
    (h : ∀ row ∈ a.desk.list, row.IsViewable) :
    (a.response v).status = 200 ∧
      (a.response v).member? "items" = some (.array (a.desk.list.map Review.view)) ∧
      (a.response v).member? "total" = some (.int a.desk.list.length) := by
  have hserved : ∀ tagged, ({ a with tagged := tagged }.serve v.outside v.request
      .reviews).result = .ok (.json 200 (.object [("items", .array (a.desk.list.map Review.view)),
        ("total", .int a.desk.list.length)])) := by
    intro tagged
    simp [serve, hcalls.left, listResponse, View.listing_eq h, bind, Except.bind, pure,
      Except.pure]
  rcases response_of_ok hcalls (by decide) (by decide) hserved with ⟨extra, hresponse⟩
  rw [hresponse]
  exact ⟨rfl, rfl, rfl⟩

/-!
# Deleting
-/

theorem delete_of_missing {id : String} (hcalls : v.request.Calls "DELETE" (.review id))
    (h : a.desk.find? id = none) :
    (a.response v).status = 404 ∧ (a.next v).desk = a.desk := by
  have hserved : ∀ tagged, { a with tagged := tagged }.serve v.outside v.request (.review id) =
      ⟨{ a with tagged := tagged }, [], .ok (refused 404 missingText)⟩ := by
    intro tagged
    simp [serve, hcalls.left, remove, delete, Desk.delete_of_missing h]
  constructor
  · rcases response_of_ok hcalls (by decide) (by decide) fun tagged => by rw [hserved] with
      ⟨extra, hresponse⟩
    rw [hresponse]
    rfl
  · rcases served_of_calls hcalls (by decide) (by decide) a v.outside with ⟨tagged, _, happ, _⟩
    rw [next, happ, hserved]

theorem delete_of_found {id : String} {row : Review}
    (hcalls : v.request.Calls "DELETE" (.review id)) (h : a.desk.find? id = some row)
    (hvanish : v.outside.vanishing = []) :
    (a.response v).status = 200 ∧
      (a.next v).desk.store.rows = a.desk.store.rows.filter (·.id ≠ id) := by
  have hdeletes := Desk.delete_deletes h v.outside
  have hstays : ¬ (a.desk.Asks row ∧ id ∈ v.outside.vanishing) := by simp [hvanish]
  rcases hdeletes.deleted hstays with ⟨deletion, hdeletion, _⟩
  have hrows : (a.desk.delete v.outside id).1.store.rows =
      a.desk.store.rows.filter (·.id ≠ id) := by
    by_cases hasks : a.desk.Asks row
    · simpa [hvanish] using hdeletes.rowsAsked hasks
    · exact hdeletes.rowsUnasked hasks
  constructor
  · have hserved : ∀ tagged, ({ a with tagged := tagged }.serve v.outside v.request
        (.review id)).result = .ok (.json 200 (View.deletion deletion)) := by
      intro tagged
      simp [serve, hcalls.left, remove, delete, hdeletion]
    rcases response_of_ok hcalls (by decide) (by decide) hserved with ⟨extra, hresponse⟩
    rw [hresponse]
    rfl
  · rcases served_of_calls hcalls (by decide) (by decide) a v.outside with ⟨tagged, _, happ, _⟩
    rw [next, happ]
    simp [serve, hcalls.left, remove, delete, hdeletion, hrows]

/-!
# Creating

A creation has saved a review under the identity that was drawn for it, and its response
tells of the review and where it is; or no row was added, and the response does not say so
either.
-/

theorem status_of_failure {failure : CreationFailure} {response : HttpResponse}
    (h : creationResponse (.error failure) = .ok response) :
    response.status = 400 ∨ response.status = 500 := by
  cases failure with
  | rejected rejection =>
      cases h
      exact Or.inl rfl
  | notSaved =>
      cases h
      exact Or.inr rfl
  | broken fault => cases h

theorem status_of_not_created {failure : CreationFailure} {response : HttpResponse}
    (h : creationResponse (.error failure) = .ok response) : response.status ≠ 201 := by
  rcases status_of_failure h with hstatus | hstatus
  · simp [hstatus]
  · simp [hstatus]

structure Saved (a : App) (w : Outside) (after : App) (c : Creation) : Prop where
  made : ∃ title content,
    (a.desk.create w (w.identity (a.begun + 1)) title content).2.2 = .ok c
  rows : after.desk.store.rows = a.desk.store.rows ++ [c.review]
  begun : after.begun = a.begun + 1

theorem create_desk (a : App) (w : Outside) (title content : Option (List Text.Mark)) :
    (a.create w title content).1.desk =
        (a.desk.create w (w.identity (a.begun + 1)) title content).1 ∧
      (a.create w title content).2.2 =
        (a.desk.create w (w.identity (a.begun + 1)) title content).2.2 := by
  unfold create
  rcases a.desk.create w (w.identity (a.begun + 1)) title content with ⟨desk, requests, result⟩
  exact ⟨rfl, rfl⟩

theorem create_begun {c : Creation} {title content : Option (List Text.Mark)}
    (h : (a.create w title content).2.2 = .ok c) :
    (a.create w title content).1.begun = a.begun + 1 := by
  revert h
  unfold create
  rcases a.desk.create w (w.identity (a.begun + 1)) title content with ⟨desk, requests, result⟩
  rintro ⟨rfl⟩
  rfl

theorem create_saved (hvanish : w.vanishing = []) {title content : Option (List Text.Mark)}
    {c : Creation} (h : (a.create w title content).2.2 = .ok c) :
    Saved a w (a.create w title content).1 c := by
  have hsaves := Desk.create_saves hvanish a.desk (w.identity (a.begun + 1)) title content
  rcases create_desk a w title content with ⟨hdesk, hresult⟩
  rw [hresult] at h
  constructor
  case made => exact ⟨title, content, h⟩
  case rows => rw [hdesk, (hsaves.saved c h).left]
  case begun =>
    rw [← hresult] at h
    exact create_begun h

theorem create_failed (hvanish : w.vanishing = []) {title content : Option (List Text.Mark)}
    {failure : CreationFailure} (h : (a.create w title content).2.2 = .error failure) :
    (a.create w title content).1.desk.store.rows = a.desk.store.rows := by
  have hsaves := Desk.create_saves hvanish a.desk (w.identity (a.begun + 1)) title content
  rcases create_desk a w title content with ⟨hdesk, hresult⟩
  rw [hresult] at h
  rw [hdesk, hsaves.failed failure h]

inductive Posted (a : App) (w : Outside) (handled : Handled HttpResponse) : Prop where
  | saved (c : Creation) (hsaved : Saved a w handled.app c)
      (hresult : handled.result = createdResponse c)
  | kept (hrows : handled.app.desk.store.rows = a.desk.store.rows)
      (hresult : ∀ response, handled.result = .ok response → response.status ≠ 201)

theorem post_posted (hvanish : w.vanishing = []) (a : App) (r : HttpRequest) :
    Posted a w (a.post w r) := by
  unfold post
  split
  · exact .kept rfl (by simp [refused, HttpResponse.json])
  · exact .kept rfl (by simp [HttpResponse.json])
  · rename_i entry _
    rcases hcreate : a.create w (some entry.title) (some entry.content) with
      ⟨after, requests, result⟩
    cases result with
    | ok c =>
        have hsaved : Saved a w (a.create w (some entry.title) (some entry.content)).1 c :=
          create_saved hvanish (by rw [hcreate])
        rw [hcreate] at hsaved
        exact .saved c hsaved rfl
    | error failure =>
        have hrows : (a.create w (some entry.title) (some entry.content)).1.desk.store.rows =
          a.desk.store.rows := create_failed hvanish (by rw [hcreate])
        rw [hcreate] at hrows
        exact .kept hrows fun response hresponse => status_of_not_created hresponse

theorem reviewPath_chars (id : String) :
    (reviewPath id).toList = "/api/reviews".toList ++ '/' :: id.toList := by
  simp [reviewPath]

theorem checkHeader_of_plain {id : String} (h : IsPlain id) :
    checkHeader (reviewPath id) = .ok () := by
  have hfits : ∀ c ∈ (reviewPath id).toList, c.toNat < 256 := by
    rw [reviewPath_chars]
    intro c hc
    rcases List.mem_append.mp hc with hfixed | hrest
    · have hall : Text.IsAscii "/api/reviews".toList := by decide
      exact Nat.lt_trans (hall c hfixed) (by decide)
    · rcases List.mem_cons.mp hrest with rfl | hid
      · decide
      · exact (h.right c hid).right
  rw [checkHeader, Text.misfit?_of_fits hfits]

theorem createdResponse_eq {c : Creation} {v : Json} (hplain : IsPlain c.review.id)
    (hv : View.creation c = .ok v) :
    createdResponse c =
      .ok ((HttpResponse.json 201 v).withHeaders [("location", reviewPath c.review.id)]) := by
  simp [createdResponse, checkHeader_of_plain hplain, hv, bind, Except.bind, pure, Except.pure]

theorem lastSegment_reviewPath {id : String} (h : IsPlain id) :
    lastSegment (reviewPath id) = id := by
  have hsegment : ∀ c ∈ id.toList.reverse, (c != '/') = true := by
    intro c hc
    simpa using (h.right c (List.mem_reverse.mp hc)).left
  rw [lastSegment, reviewPath_chars, List.reverse_append, List.reverse_cons, List.append_assoc,
    List.takeWhile_append_of_pos hsegment]
  simp

structure Announces (response : HttpResponse) (id : String) (review : Json) : Prop where
  saved : response.member? "saved_review_id" = some (.string id)
  located : (header? response.headers "location").map lastSegment = some id
  shown : response.member? "review" = some review
  identified : review.member? "id" = some (.string id)
  agreed : ∃ status, response.member? "integration_status" = some status ∧
    review.member? "integration_status" = some status

theorem announces_of_created {c : Creation} (hplain : IsPlain c.review.id)
    (hview : c.review.IsViewable) (hstatus : c.review.status.renewed = c.status) :
    ∃ response, createdResponse c = .ok response ∧ response.status = 201 ∧
      ∀ extra : Headers, Announces (response.withHeaders extra) c.review.id c.review.view := by
  rcases View.creation_members hview with ⟨v, hv, hsaved, hshown, hreview⟩
  rcases View.review_members hview with ⟨hid, hrow⟩
  refine ⟨(HttpResponse.json 201 v).withHeaders [("location", reviewPath c.review.id)], ?_, rfl, ?_⟩
  · exact createdResponse_eq hplain hv
  · intro extra
    constructor
    case saved => exact hsaved
    case located =>
      have hname : (lower "location" == "location") = true := by decide
      simp [header?, HttpResponse.withHeaders, HttpResponse.json, hname,
        lastSegment_reviewPath hplain]
    case shown => exact hreview
    case identified => exact hid
    case agreed =>
      rw [hstatus] at hrow
      exact ⟨_, hshown, hrow⟩

/-!
# Every visit

The rows after a visit were there before it, or have the id that was drawn.
-/

/-- How the response to a visit and the rows after it belong together. -/
inductive Visited (a : App) (v : Visit) : Prop where
  | kept (hrows : (a.next v).desk.store.rows = a.desk.store.rows)
      (hpost : v.request.Calls "POST" .reviews → (a.response v).status ≠ 201)
      (hdelete : ∀ id, v.request.Calls "DELETE" (.review id) → (a.response v).status ≠ 200)
  | added (row : Review) (hcalls : v.request.Calls "POST" .reviews)
      (hstatus : (a.response v).status = 201)
      (hrows : (a.next v).desk.store.rows = a.desk.store.rows ++ [row])
      (hview : row.IsViewable) (hannounced : Announces (a.response v) row.id row.view)
      (hdrawn : (a.drawn? v).map (·.id) = some row.id)
  | erased (id : String) (hcalls : v.request.Calls "DELETE" (.review id))
      (hstatus : (a.response v).status = 200)
      (hrows : (a.next v).desk.store.rows = a.desk.store.rows.filter (·.id ≠ id))

theorem not_post_of_delete {id : String} (h : v.request.Calls "DELETE" (.review id)) :
    ¬ v.request.Calls "POST" .reviews := by
  intro hpost
  have hmethod := h.left.symm.trans hpost.left
  exact absurd hmethod (by decide)

theorem post_visited (hcalls : v.request.Calls "POST" .reviews)
    (hvanish : v.outside.vanishing = [])
    (husable : ∀ new, a.drawn? v = some new → new.IsUsable) : Visited a v := by
  rcases served_of_calls hcalls (by decide) (by decide) a v.outside with
    ⟨tagged, extra, happ, hresult⟩
  have hserve : ({ a with tagged := tagged } : App).serve v.outside v.request .reviews =
      ({ a with tagged := tagged } : App).post v.outside v.request := by
    simp only [serve, hcalls.left]
  rw [hserve] at happ hresult
  have hdelete : ∀ id, v.request.Calls "DELETE" (.review id) → (a.response v).status ≠ 200 :=
    fun id hother => absurd hcalls (not_post_of_delete hother)
  cases post_posted hvanish { a with tagged := tagged } v.request with
  | kept hrows hresponse =>
      apply Visited.kept
      case hrows => rw [next, happ, hrows]
      case hdelete => exact hdelete
      case hpost =>
        intro _
        unfold response
        rw [hresult]
        cases hposted : (({ a with tagged := tagged } : App).post v.outside v.request).result with
        | ok response => exact hresponse response hposted
        | error fault => simp [Except.map, brokenResponse]
  | saved c hsaved hcreated =>
      rcases hsaved.made with ⟨title, content, hmade⟩
      have hdrawn : a.drawn? v = some (v.outside.identity (a.begun + 1)) := by
        simp [drawn?, next, happ, hsaved.begun]
      have hidentity := Desk.identity_of_created hmade
      have hshows := Desk.create_shows hmade
      have hnew := husable _ hdrawn
      have hview := hshows.right hnew.time
      have hplain : IsPlain c.review.id := by
        rw [hidentity.left]
        exact hnew.plain
      rcases announces_of_created hplain hview hshows.left with
        ⟨created, hok, hstatus, hannounces⟩
      have hresponse : a.response v = created.withHeaders extra := by
        unfold response
        rw [hresult, hcreated, hok]
        rfl
      apply Visited.added c.review hcalls
      case hstatus =>
        rw [hresponse]
        exact hstatus
      case hrows => rw [next, happ, hsaved.rows]
      case hview => exact hview
      case hannounced =>
        rw [hresponse]
        exact hannounces extra
      case hdrawn => rw [hdrawn, Option.map_some, hidentity.left]

theorem delete_visited {id : String} (hcalls : v.request.Calls "DELETE" (.review id))
    (hvanish : v.outside.vanishing = []) : Visited a v := by
  cases hfound : a.desk.find? id with
  | none =>
      rcases delete_of_missing hcalls hfound with ⟨hstatus, hdesk⟩
      apply Visited.kept
      case hrows => rw [hdesk]
      case hpost => exact fun hpost => absurd hpost (not_post_of_delete hcalls)
      case hdelete =>
        intro other _
        simp [hstatus]
  | some row =>
      rcases delete_of_found hcalls hfound hvanish with ⟨hstatus, hrows⟩
      exact .erased id hcalls hstatus hrows

theorem visited (hvanish : v.outside.vanishing = [])
    (husable : ∀ new, a.drawn? v = some new → new.IsUsable) : Visited a v := by
  by_cases hpost : v.request.Calls "POST" .reviews
  · exact post_visited hpost hvanish husable
  · by_cases hdelete : ∃ id, v.request.Calls "DELETE" (.review id)
    · rcases hdelete with ⟨id, hcalls⟩
      exact delete_visited hcalls hvanish
    · push Not at hdelete
      apply Visited.kept
      case hrows => rw [(next_of_other hpost hdelete a).left]
      case hpost => exact fun h => absurd h hpost
      case hdelete => exact fun id h => absurd h (hdelete id)

theorem mem_next (h : Visited a v) {row : Review} (hrow : row ∈ (a.next v).desk.store.rows) :
    row ∈ a.desk.store.rows ∨
      (row.IsViewable ∧ (a.drawn? v).map (·.id) = some row.id) := by
  cases h with
  | kept hrows hpost hdelete =>
      rw [hrows] at hrow
      exact Or.inl hrow
  | added new hcalls hstatus hrows hview hannounced hdrawn =>
      rw [hrows] at hrow
      rcases List.mem_append.mp hrow with hold | hnew
      · exact Or.inl hold
      · rw [List.mem_singleton.mp hnew]
        exact Or.inr ⟨hview, hdrawn⟩
  | erased id hcalls hstatus hrows =>
      rw [hrows] at hrow
      exact Or.inl (List.mem_filter.mp hrow).left

end App
end Web
end ReviewDesk
