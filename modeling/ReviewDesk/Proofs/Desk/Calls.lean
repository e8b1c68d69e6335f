import ReviewDesk.Proofs.Desk.Orphans
import ReviewDesk.Proofs.Submission

/-!
# What a creation asks for

The requests of a creation form a trace: the model, the rate, the connection to the
archive, the upload and the removal, each at most once and in this order.  A rejected
submission leaves no trace, and for an accepted one the trace says when each request is
made and with what.  No file can hold half a pair, so a title or a polished text with one
is not uploaded, although the archive could be reached.
-/

namespace ReviewDesk

open Text

/-- When each request of an accepted creation is made and with what; `address` is where
the office asks for rates. -/
structure Trace.Fits (t : Trace) (d : Desk) (w : Outside) (new : Identity) (s : Submission)
    (address : String) : Prop where
  polish : ∀ prompt, t.polish = some prompt ↔
    d.polisher.configured = true ∧
      prompt = marks "书名：" ++ s.title ++ marks "\n\n原始书评：\n" ++ s.content ++
        marks "\n\n请输出润色后的书评："
  rate : ∀ asked, t.rate = some asked ↔
    asked = address ∧ ∃ p e, d.polished w s = .success p ∧ d.estimated p = .ok (.success e) ∧
      d.office.NeedsRate w.now e.usdCost
  connect : ∀ timeout, t.connect = some timeout ↔
    (∃ p title content, d.polished w s = .success p ∧ text? s.title = some title ∧
      text? p.content = some content) ∧ d.archive.connecting? = some timeout
  upload : ∀ file, t.upload = some file ↔
    d.archive.Reachable ∧ ∃ p reply said title content, d.polished w s = .success p ∧
      w.polish = .ok reply ∧ ModelReply.messageText reply.content = .ok said ∧
      text? s.title = some title ∧ text? (Reasoning.clean said) = some content ∧
      file = ⟨FileName.ofTitle title, d.archive.folder,
        "# " ++ title ++ "\n\n" ++ content ++ "\n"⟩
  remove : ∀ id, t.remove = some id ↔
    t.upload.isSome = true ∧ Archive.uploadResult w.upload = .ok (.success id) ∧
      (d.attempt w new s).desk.keep w (d.attempt w new s).draft = .error .rejected

namespace Desk

variable {d : Desk} {w : Outside} {new : Identity} {s : Submission} {p : Polished}

/-!
# The requests of an attempt
-/

theorem polishing_eq_some_iff (d : Desk) (title content prompt : List Mark) :
    d.polishing title content = some prompt ↔
      d.polisher.configured = true ∧ prompt = Prompt.human title content := by
  unfold polishing
  split
  · rename_i hconfigured
    simp [hconfigured, eq_comm]
  · rename_i hconfigured
    simp [hconfigured]

theorem rate_of_requests {rate : Option String} {address : String}
    (haddress : d.office.key ≠ "" →
      Inquiry.make d.office.template d.office.key d.office.source = .ok (.host address))
    (hrate : (d.costStep w p).requests = (rate.map .rate).toList) (asked : String) :
    rate = some asked ↔ asked = address ∧ d.AsksRate w p := by
  rcases costStep_requests (w := w) (p := p) haddress with ⟨hasks, hsilent⟩
  by_cases h : d.AsksRate w p
  · rw [hasks h] at hrate
    cases rate with
    | none => cases hrate
    | some found =>
        cases hrate
        simp [h, eq_comm]
  · rw [hsilent h] at hrate
    cases rate with
    | none => simp [h]
    | some found => cases hrate

theorem uploads_of_polished (h : d.polished w s = .success p) (file : ArchiveFile) :
    d.archive.Uploads s.title p.content file ↔
      d.archive.Reachable ∧ ∃ q reply said title content, d.polished w s = .success q ∧
        w.polish = .ok reply ∧ ModelReply.messageText reply.content = .ok said ∧
        text? s.title = some title ∧ text? (Reasoning.clean said) = some content ∧
        file = ⟨FileName.ofTitle title, d.archive.folder,
          "# " ++ title ++ "\n\n" ++ content ++ "\n"⟩ := by
  rcases Polisher.improve_eq_success h with ⟨reply, said, hreply, hsaid, hclean, _⟩
  rw [Archive.Uploads, Archive.reviewFile?_eq_some_iff]
  apply and_congr_right
  intro _
  constructor
  · rintro ⟨title, content, htitle, hcontent, rfl⟩
    rw [hclean] at hcontent
    exact ⟨p, reply, said, title, content, h, hreply, hsaid, htitle, hcontent, rfl⟩
  · rintro ⟨q, other, text, title, content, _, hother, htext, htitle, hcontent, rfl⟩
    rw [hreply] at hother
    cases hother
    rw [hsaid] at htext
    cases htext
    rw [← hclean] at hcontent
    exact ⟨title, content, htitle, hcontent, rfl⟩

theorem connects_of_polished (h : d.polished w s = .success p) :
    (d.archive.reviewFile? s.title p.content).isSome = true ↔
      ∃ q title content, d.polished w s = .success q ∧ text? s.title = some title ∧
        text? q.content = some content := by
  rw [Option.isSome_iff_exists]
  constructor
  · rintro ⟨file, hfile⟩
    rcases Archive.reviewFile?_eq_some_iff.mp hfile with ⟨title, content, htitle, hcontent, _⟩
    exact ⟨p, title, content, h, htitle, hcontent⟩
  · rintro ⟨q, title, content, hq, htitle, hcontent⟩
    rw [h] at hq
    cases hq
    exact ⟨_, Archive.reviewFile?_eq_some_iff.mpr ⟨title, content, htitle, hcontent, rfl⟩⟩

theorem attempt_trace {address : String}
    (haddress : d.office.key ≠ "" →
      Inquiry.make d.office.template d.office.key d.office.source = .ok (.host address))
    (w : Outside) (new : Identity) (s : Submission) :
    ∃ t : Trace, (d.attempt w new s).requests = t.requests ∧ t.remove = none ∧
      ∀ remove : Option Json,
        (∀ id, remove = some id ↔ t.upload.isSome = true ∧
          Archive.uploadResult w.upload = .ok (.success id) ∧
          (d.attempt w new s).desk.keep w (d.attempt w new s).draft = .error .rejected) →
        Trace.Fits { t with remove := remove } d w new s address := by
  cases hpolished : d.polished w s with
  | success p =>
      rcases attempt_of_polished new hpolished with ⟨_, hrequests⟩
      rcases pipeline_trace d w p s.title (d.polishing s.title s.content) with
        ⟨t, htrace, hpolish, hremove, hrate, hconnect, hupload⟩
      refine ⟨t, hrequests.trans htrace, hremove, ?_⟩
      intro remove hback
      exact
        { polish := by
            intro prompt
            rw [hpolish, polishing_eq_some_iff]
            rfl
          rate := by
            intro asked
            rw [rate_of_requests haddress hrate, AsksRate]
            simp [hpolished]
          connect := by
            intro timeout
            rw [hconnect, connects_of_polished hpolished]
          upload := by
            intro file
            rw [hupload, uploads_of_polished hpolished]
          remove := hback }
  | failure reason detail =>
      rcases attempt_of_not_polished new hpolished with ⟨_, hrequests⟩
      refine ⟨⟨d.polishing s.title s.content, none, none, none, none⟩, ?_, rfl, ?_⟩
      · rw [hrequests]
        simp [Trace.requests]
      · intro remove hback
        exact
          { polish := polishing_eq_some_iff d s.title s.content
            rate := by simp [hpolished]
            connect := by simp [hpolished]
            upload := by simp [hpolished]
            remove := hback }

/-!
# The requests of a creation
-/

theorem fileId_eq_some_iff {t : Trace} (hrequests : (d.attempt w new s).requests = t.requests)
    (id : Json) :
    (d.attempt w new s).draft.fileId = some id ↔
      t.upload.isSome = true ∧ Archive.uploadResult w.upload = .ok (.success id) := by
  rw [← (attempt_attempted d w new s).uploaded, hrequests, uploadedId?_requests]
  cases t.upload.isSome with
  | true => simp [Outcome.value?_eq_some_iff, Outcome.ofAttempt_eq_success_iff]
  | false => simp

/-- A rejected submission leaves no trace and the desk as it was; the trace of an accepted
one fits the trimmed texts. -/
theorem create_trace {address : String}
    (haddress : d.office.key ≠ "" →
      Inquiry.make d.office.template d.office.key d.office.source = .ok (.host address))
    (w : Outside) (new : Identity) (title content : Option (List Mark)) :
    ∃ t : Trace, (d.create w new title content).2.1 = t.requests ∧
      (∀ rejection, Submission.validate title content = .error rejection →
        t = .silent ∧ (d.create w new title content).1 = d) ∧
      (∀ s, Submission.validate title content = .ok s →
        s = ⟨trim Mark.isBlank (title.getD []), trim Mark.isBlank (content.getD [])⟩ ∧
          t.Fits d w new s address) := by
  cases hs : Submission.validate title content with
  | error rejection =>
      rw [create_of_rejected hs]
      refine ⟨.silent, rfl, fun _ _ => ⟨rfl, rfl⟩, ?_⟩
      intro s h
      cases h
  | ok s =>
      rcases attempt_trace haddress w new s with ⟨t, hrequests, hnone, hfits⟩
      rcases create_requests hs d w new with ⟨remove, hcreate, hremove⟩
      refine ⟨{ t with remove := remove }, ?_, ?_, ?_⟩
      · rw [hcreate, hrequests]
        exact (Trace.requests_with_remove hnone remove).symm
      · intro rejection h
        cases h
      · intro accepted h
        cases h
        refine ⟨(Submission.validate_eq_ok_iff.mp hs).left, hfits remove ?_⟩
        intro id
        rw [hremove, fileId_eq_some_iff hrequests, and_assoc]

theorem create_trace_furnished :
    ∃ t : Trace, (furnished.create .fair ⟨"r1", ⟨0⟩⟩ (some " 书 ") (some "好")).2.1 = t.requests ∧
      t.Fits furnished .fair ⟨"r1", ⟨0⟩⟩ ⟨"书", "好"⟩ "http://rates/key/USD" := by
  have haddress : furnished.office.key ≠ "" →
      Inquiry.make furnished.office.template furnished.office.key furnished.office.source =
        .ok (.host "http://rates/key/USD") := fun _ => by rfl
  have hs : Submission.validate (some " 书 ") (some "好") = .ok ⟨"书", "好"⟩ := by rfl
  rcases create_trace haddress .fair ⟨"r1", ⟨0⟩⟩ (some " 书 ") (some "好") with
    ⟨t, hrequests, _, haccepted⟩
  exact ⟨t, hrequests, (haccepted _ hs).right⟩

/-- The title is polished and the archive can be reached, but nothing is uploaded. -/
theorem create_halved_not_uploaded :
    ∃ s p, Submission.validate (some [.half 0xD800]) (some "好") = .ok s ∧
      furnished.polished .fair s = .success p ∧ furnished.archive.Reachable ∧
      (furnished.create .fair ⟨"r1", ⟨0⟩⟩ (some [.half 0xD800]) (some "好")).2.1.any
        Request.isUpload = false :=
  ⟨⟨[.half 0xD800], "好"⟩, _, rfl, rfl, Or.inr rfl, rfl⟩

end Desk
end ReviewDesk
