import ReviewDesk.Proofs.Desk.Passing
import ReviewDesk.Proofs.Web.Client
import ReviewDesk.Smoke

/-!
# Sending a review and taking it back

A submission that the model is not asked about is refused, or it adds one row, and then its
response arrives and names the id of the row.  The address of that id is plain, so that a
request to delete it reaches the row.
-/

namespace ReviewDesk

open Web

/-!
# Generated texts
-/

def hexDigits : List Char :=
  "0123456789abcdef".toList

structure IsHex (n : Nat) (s : String) : Prop where
  length : s.length = n
  digits : s.toList ⊆ hexDigits

/-- The database takes rows, ids and tags are drawn as usual, and times can be shown. -/
structure Outside.IsWorking (w : Outside) : Prop where
  saving : w.saving = none
  ids : ∀ n, IsHex 32 (w.identity n).id
  tags : ∀ n, IsHex 12 (w.tag n)
  times : ∀ n, (w.identity n).createdAt.micros < Seoul.end9999.micros

namespace IsHex

variable {n : Nat} {s : String}

theorem isAscii (h : IsHex n s) : Text.IsAscii s.toList := by
  have hall : Text.IsAscii hexDigits := by decide
  exact fun c hc => hall c (h.digits hc)

theorem slash_not_mem (h : IsHex n s) : '/' ∉ s.toList := by
  have hslash : '/' ∉ hexDigits := by decide
  exact fun hc => hslash (h.digits hc)

theorem ne_empty (h : IsHex 32 s) : s ≠ "" := by
  rintro rfl
  exact absurd h.length (by decide)

theorem isPlain (h : IsHex 32 s) : IsPlain s := by
  refine ⟨h.ne_empty, ?_⟩
  intro c hc
  constructor
  · rintro rfl
    exact h.slash_not_mem hc
  · exact Nat.lt_trans (h.isAscii c hc) (by decide)

theorem isPlainPath (h : IsHex 32 s) : Address.IsPlainPath (App.reviewPath s).toList where
  chars := by
    have hdigits : hexDigits ⊆ Address.pathChars := by decide
    have hfixed : "/api/reviews".toList ++ ['/'] ⊆ Address.pathChars := by decide
    rw [App.reviewPath_chars, ← List.singleton_append, ← List.append_assoc]
    exact List.append_subset.mpr ⟨hfixed, List.Subset.trans h.digits hdigits⟩
  rooted := by
    rw [App.reviewPath_chars]
    exact ⟨'a', _, rfl, by decide⟩
  short := by
    have hid : s.toList.length = 32 := String.length_toList.trans h.length
    rw [App.reviewPath_chars, List.length_append, List.length_cons, hid]
    decide

end IsHex

namespace Smoke

open Client

variable {a : App} {w : Outside} {row : Review} {title content : String} {e : Web.Entry}

/-!
# Submitting
-/

theorem ofRequest_of_ascii {v : Json}
    (hascii : Text.IsAscii (v.print Json.compact).toList)
    (hgiven : (v.print Json.compact).toList.isEmpty = false)
    (hread : Entry.ofBytes ((v.print Json.compact).toList.map Char.toNat) = .ok e)
    (method path : String) : Entry.ofRequest (plainRequest method path (.json v)) = .ok e := by
  have hbody : (plainRequest method path (.json v)).body =
      (v.print Json.compact).toList.map Char.toNat := by
    rw [plainRequest, Content.bytes, Text.utf8Bytes_ascii hascii]
  have htype : Entry.isJsonType ((header? (plainRequest method path (.json v)).headers
      "content-type").getD "") = true := by
    have hjson : Entry.isJsonType
        ((header? [("content-type", "application/json")] "content-type").getD "") = true := by
      decide
    exact hjson
  simp only [Entry.ofRequest, hbody, List.isEmpty_map, hgiven, htype, if_true, hread]
  rfl

theorem ofRequest_blank (method path : String) :
    Entry.ofRequest (plainRequest method path (entry "   " "x")) =
      .ok ⟨Text.marks "   ", Text.marks "x"⟩ := by
  apply ofRequest_of_ascii
  · decide +kernel
  · decide +kernel
  · decide +kernel

theorem ofRequest_book (method path : String) :
    Entry.ofRequest (plainRequest method path (entry "Smoke Book" "It was good.")) =
      .ok ⟨Text.marks "Smoke Book", Text.marks "It was good."⟩ := by
  apply ofRequest_of_ascii
  · decide +kernel
  · decide +kernel
  · decide +kernel

/-- The application after a submission that the model was not asked about, and the result. -/
inductive Submitted (a : App) (w : Outside) (title content : List Text.Mark) :
    App.Handled HttpResponse → Prop where
  | saved (c : Creation) (begun : Nat) (hapart : a.desk.IsApart c.review)
      (hmade : (a.desk.create w (w.identity (a.begun + 1)) (some title) (some content)).2.2 =
        .ok c) :
      Submitted a w title content
        ⟨{ a with desk := a.desk.withRow c.review, begun := begun }, [], App.createdResponse c⟩
  | refused (failure : CreationFailure) (begun : Nat) :
      Submitted a w title content
        ⟨{ a with begun := begun }, [], App.creationResponse (.error failure)⟩

theorem post_submitted {r : HttpRequest} (h : a.desk.polisher.configured = false)
    (hread : Entry.ofRequest r = .ok e) (w : Outside) :
    Submitted a w e.title e.content (a.post w r) := by
  have hpost : a.post w r =
      ⟨(a.create w (some e.title) (some e.content)).1,
        (a.create w (some e.title) (some e.content)).2.1,
        App.creationResponse (a.create w (some e.title) (some e.content)).2.2⟩ := by
    simp [App.post, hread]
  rcases Desk.create_of_not_configured h w (w.identity (a.begun + 1)) (some e.title)
    (some e.content) with ⟨c, hcreate, hapart⟩ | ⟨failure, hcreate⟩
  · rw [hpost, App.create]
    simp only [hcreate]
    exact .saved c _ hapart (by rw [hcreate])
  · rw [hpost, App.create]
    simp only [hcreate]
    exact .refused failure _

/-!
# Responses to submissions
-/

theorem isDirect_of_failure (failure : CreationFailure) :
    IsDirect (App.creationResponse (.error failure)) := by
  intro response hresponse
  rcases App.status_of_failure hresponse with hstatus | hstatus
  · simp [hstatus]
  · simp [hstatus]

theorem arrive_createdResponse {c : Creation} {tag : String} (hid : IsHex 32 c.review.id)
    (hview : c.review.IsViewable) (htag : IsHex 12 tag) :
    ∃ response, App.createdResponse c = .ok response ∧ response.status = 201 ∧
      arrive tag (.ok response) = .ok (response.withHeaders (plainHeaders tag)) ∧
      textOf (member response "saved_review_id") = c.review.id := by
  rcases View.creation_members hview with ⟨v, hv, hsaved, _, _⟩
  refine ⟨_, App.createdResponse_eq hid.isPlain hv, rfl, ?_, ?_⟩
  · apply arrive_of_isAscii htag.isAscii
    intro q hq
    rw [List.mem_singleton.mp hq]
    exact Address.isAscii_of_pathChars hid.isPlainPath.chars
  · simp [member, HttpResponse.withHeaders, HttpResponse.json, hsaved, textOf]

/-!
# Sending
-/

structure Stores (a : App) (sent : Sent) (row : Review) : Prop where
  desk : sent.app.desk = a.desk.withRow row
  requests : sent.requests = []
  apart : a.desk.IsApart row
  id : IsHex 32 row.id
  announced : ∃ response, sent.result = .ok response ∧ response.status = 201 ∧
    textOf (member response "saved_review_id") = row.id

inductive Replied (a : App) (title content : String) (sent : Sent) : Prop where
  | refused (hspares : Spares a sent)
      (hstatus : ∀ response, sent.result = .ok response → response.status ≠ 201)
  | stored (row : Review) (s : Submission)
      (haccepted : Submission.validate (some (Text.marks title)) (some (Text.marks content)) =
        .ok s)
      (hstores : Stores a sent row)

theorem send_submission (h : a.desk.polisher.configured = false) (hw : w.IsWorking)
    (hread : Entry.ofRequest (plainRequest "POST" "/api/reviews" (entry title content)) =
      .ok ⟨title, content⟩) :
    Replied a title content (send a w "POST" "/api/reviews" (entry title content)) := by
  have hsubmitted : Submitted { a with tagged := a.tagged + 1 } w (Text.marks title)
      (Text.marks content)
      (({ a with tagged := a.tagged + 1 } : App).serve w
        (plainRequest "POST" "/api/reviews" (entry title content)) .reviews) :=
    post_submitted (a := { a with tagged := a.tagged + 1 }) h hread w
  generalize hserved : ({ a with tagged := a.tagged + 1 } : App).serve w
    (plainRequest "POST" "/api/reviews" (entry title content)) .reviews = served at hsubmitted
  have hsent := send_of_served isPlainPath_reviews ofPath_reviews (by decide) (by decide)
    (by decide) hserved
  cases hsubmitted with
  | refused failure begun =>
      rw [hsent (isDirect_of_failure failure)]
      apply Replied.refused
      case hspares => exact ⟨rfl, rfl⟩
      case hstatus =>
        intro response hresponse
        rcases arrive_eq_ok hresponse with ⟨sent, hfailed, rfl⟩
        have hstatus : sent.status ≠ 201 := App.status_of_not_created hfailed
        exact hstatus
  | saved c begun hapart hmade =>
      dsimp only at hmade
      rcases Desk.create_eq_ok hmade with ⟨s, haccepted, _⟩
      have hid : IsHex 32 c.review.id := by
        rw [(Desk.identity_of_created hmade).left]
        exact hw.ids _
      have hview := (Desk.create_shows hmade).right (hw.times _)
      rcases arrive_createdResponse hid hview (hw.tags (a.tagged + 1)) with
        ⟨response, hcreated, hstatus, harrived, hnamed⟩
      rw [hcreated] at hsent
      rw [hsent (isDirect_ok (by simp [hstatus]))]
      exact .stored c.review s haccepted ⟨rfl, rfl, hapart, hid, _, harrived, hstatus, hnamed⟩

theorem send_deletion {d : Desk} (hdesk : a.desk = d.withRow row) (hapart : d.IsApart row)
    (hid : IsHex 32 row.id) (w : Outside) :
    (send a w "DELETE" (address row.id) .none).app.desk = d ∧
      (send a w "DELETE" (address row.id) .none).requests = [] := by
  have hdelete := Desk.delete_withRow hapart w
  rw [← hdesk] at hdelete
  have hserved : ({ a with tagged := a.tagged + 1 } : App).serve w
      (plainRequest "DELETE" (address row.id) .none) (.review row.id) =
        ⟨{ a with desk := d, tagged := a.tagged + 1 }, [],
          .ok (.json 200 (View.deletion ⟨false, []⟩))⟩ := by
    simp [App.serve, plainRequest, App.remove, App.delete, hdelete]
  have hsent := send_of_served hid.isPlainPath (ofPath_reviewPath hid.ne_empty hid.slash_not_mem)
    (by decide) (by decide) (by decide) hserved (isDirect_ok (by decide))
  constructor
  · exact congrArg (fun sent => sent.app.desk) hsent
  · exact congrArg Sent.requests hsent

end Smoke
end ReviewDesk
