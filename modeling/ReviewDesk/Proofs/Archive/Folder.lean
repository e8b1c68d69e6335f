import ReviewDesk.Archive.Folder
import ReviewDesk.Proofs.Outcome

/-!
# What the archive is asked for

A request reaches the archive exactly when a connection can be obtained, after at most
one attempt to make it; the connection is then there for every later request.  When no
connection can be obtained the archive is as it was and nothing has been uploaded.
-/

namespace ReviewDesk
namespace Archive

variable {α β : Type}

def Reachable (a : Archive) : Prop :=
  a.access = .connected ∨ a.access = .credentials (.ok ())

def connecting? (a : Archive) : Option Binary64 :=
  match a.access with
  | .credentials (.ok ()) => some a.timeout
  | _ => none

def connected (a : Archive) : Archive :=
  { a with access := .connected }

theorem connecting?_of_connected {a : Archive} (h : a.access = .connected) :
    a.connecting? = none := by
  simp [connecting?, h]

theorem reachable_of_connecting? {a : Archive} {timeout : Binary64}
    (h : a.connecting? = some timeout) : a.Reachable := by
  unfold connecting? at h
  split at h
  · rename_i haccess
    exact Or.inr haccess
  · cases h

theorem connected_of_connected {a : Archive} (h : a.access = .connected) : a.connected = a := by
  cases a with
  | mk folder timeout access =>
      cases h
      rfl

/-!
# Sending a request
-/

theorem send_of_reachable {a : Archive} (h : a.Reachable) (request : Request)
    (read : Except Fault β → Except Fault (Outcome α)) (answer : Except Fault β) :
    a.send request read answer =
      (a.connected, ⟨(a.connecting?.map .connect).toList ++ [request], read answer⟩) := by
  rcases h with h | h
  · have hsame : a.connected = a := connected_of_connected h
    simp [send, configured, Archive.connect, connecting?, h, hsame]
  · simp [send, configured, Archive.connect, connecting?, connected, h]

theorem ofFault_ne_success (fault : Fault) (value : α) :
    ofFault fault ≠ .ok (.success value) := by
  unfold ofFault
  split <;> simp [Outcome.refuse]

theorem send_of_absent {a : Archive} (h : a.access = .absent) (request : Request)
    (read : Except Fault β → Except Fault (Outcome α)) (answer : Except Fault β) :
    a.send request read answer = (a, ⟨[], .ok (.refuse .notConfigured notConfigured)⟩) := by
  simp [send, configured, h, Answered.atOnce]

theorem send_of_refused {a : Archive} {fault : Fault} (h : a.access = .credentials (.error fault))
    (request : Request) (read : Except Fault β → Except Fault (Outcome α))
    (answer : Except Fault β) : a.send request read answer = (a, ⟨[], read (.error fault)⟩) := by
  simp [send, configured, Archive.connect, h]

theorem access_of_not_reachable {a : Archive} (h : ¬ a.Reachable) :
    a.access = .absent ∨ ∃ fault, a.access = .credentials (.error fault) := by
  cases haccess : a.access with
  | absent => exact Or.inl rfl
  | connected => exact absurd (Or.inl haccess) h
  | credentials trial =>
      cases trial with
      | ok made => exact absurd (Or.inr haccess) h
      | error fault => exact Or.inr ⟨fault, rfl⟩

/-!
# Uploading
-/

theorem upload_of_reachable {a : Archive} (h : a.Reachable) (answer : Except Fault Json)
    (title text : String) :
    a.upload answer title text =
      (a.connected, ⟨(a.connecting?.map .connect).toList ++ [.upload (a.fileFor title text)],
        uploadResult answer⟩) :=
  send_of_reachable h (.upload (a.fileFor title text)) uploadResult answer

theorem upload_of_not_reachable {a : Archive} (h : ¬ a.Reachable) (answer : Except Fault Json)
    (title text : String) :
    ∃ failed, a.upload answer title text = (a, ⟨[], failed⟩) ∧
      ∀ id, failed ≠ .ok (.success id) := by
  rcases access_of_not_reachable h with habsent | ⟨fault, hrefused⟩
  · have hsend := send_of_absent habsent (.upload (a.fileFor title text)) uploadResult answer
    exact ⟨_, hsend, by simp [Outcome.refuse]⟩
  · have hsend := send_of_refused hrefused (.upload (a.fileFor title text)) uploadResult answer
    exact ⟨_, hsend, ofFault_ne_success fault⟩

theorem upload_outcome_value? {a : Archive} (answer : Except Fault Json) (title text : String)
    (id : Json) :
    (a.upload answer title text).2.outcome.value? = some id ↔
      a.Reachable ∧ uploadResult answer = .ok (.success id) := by
  rw [Outcome.value?_eq_some_iff, Answered.outcome, Outcome.ofAttempt_eq_success_iff]
  by_cases h : a.Reachable
  · simp [upload_of_reachable h, h]
  · rcases upload_of_not_reachable h answer title text with ⟨failed, hupload, hfailed⟩
    simp [hupload, hfailed, h]

/-!
# Uploading reviews
-/

/-- The file of a review; half a pair in the title or in the text leaves it without one. -/
def reviewFile? (a : Archive) (title content : List Text.Mark) : Option ArchiveFile := do
  let title ← Text.text? title
  let content ← Text.text? content
  return a.fileFor title (markdown title content)

def Uploads (a : Archive) (title content : List Text.Mark) (file : ArchiveFile) : Prop :=
  a.Reachable ∧ a.reviewFile? title content = some file

variable {title content : List Text.Mark}

theorem reviewFile?_eq_some_iff {a : Archive} {file : ArchiveFile} :
    a.reviewFile? title content = some file ↔
      ∃ t c, Text.text? title = some t ∧ Text.text? content = some c ∧
        a.fileFor t (markdown t c) = file := by
  simp [reviewFile?, Option.bind_eq_some_iff]

theorem uploadReview_of_uploads {a : Archive} {file : ArchiveFile}
    (h : a.Uploads title content file) (answer : Except Fault Json) :
    a.uploadReview answer title content =
      (a.connected,
        ⟨(a.connecting?.map .connect).toList ++ [.upload file], uploadResult answer⟩) := by
  rcases reviewFile?_eq_some_iff.mp h.right with ⟨t, c, ht, hc, rfl⟩
  rw [uploadReview, ht, hc]
  exact upload_of_reachable h.left answer t (markdown t c)

theorem uploadReview_of_no_upload {a : Archive} (h : ∀ file, ¬ a.Uploads title content file)
    (answer : Except Fault Json) :
    ∃ failed, a.uploadReview answer title content = (a, ⟨[], failed⟩) ∧
      ∀ id, failed ≠ .ok (.success id) := by
  unfold uploadReview
  split
  · rename_i t c ht hc
    have hfile : a.reviewFile? title content = some (a.fileFor t (markdown t c)) :=
      reviewFile?_eq_some_iff.mpr ⟨t, c, ht, hc, rfl⟩
    exact upload_of_not_reachable (fun hreachable => h _ ⟨hreachable, hfile⟩) answer t _
  · split
    · exact ⟨_, rfl, by simp⟩
    · exact ⟨_, rfl, by simp [Outcome.refuse]⟩

theorem uploadReview_outcome_value? {a : Archive} (answer : Except Fault Json) (id : Json) :
    (a.uploadReview answer title content).2.outcome.value? = some id ↔
      (∃ file, a.Uploads title content file) ∧ uploadResult answer = .ok (.success id) := by
  rw [Outcome.value?_eq_some_iff, Answered.outcome, Outcome.ofAttempt_eq_success_iff]
  by_cases h : ∃ file, a.Uploads title content file
  · rcases h with ⟨file, hfile⟩
    rw [uploadReview_of_uploads hfile]
    exact ⟨fun hid => ⟨⟨file, hfile⟩, hid⟩, fun hid => hid.right⟩
  · rcases uploadReview_of_no_upload (not_exists.mp h) answer with ⟨failed, hupload, hfailed⟩
    simp [hupload, hfailed, h]

/-!
# Removing
-/

theorem remove_cases (a : Archive) (answer : Except Fault Unit) (id : Json) :
    (a.Reachable ∧ (a.remove answer id).1 = a.connected ∧
        (a.remove answer id).2.requests = (a.connecting?.map .connect).toList ++ [.remove id]) ∨
      (¬ a.Reachable ∧ (a.remove answer id).1 = a ∧ (a.remove answer id).2.requests = []) := by
  by_cases h : a.Reachable
  · have hsend := send_of_reachable h (.remove id) removeResult answer
    exact Or.inl ⟨h, by simp [remove, hsend], by simp [remove, hsend]⟩
  · rcases access_of_not_reachable h with habsent | ⟨fault, hrefused⟩
    · have hsend := send_of_absent habsent (.remove id) removeResult answer
      exact Or.inr ⟨h, by simp [remove, hsend], by simp [remove, hsend]⟩
    · have hsend := send_of_refused hrefused (.remove id) removeResult answer
      exact Or.inr ⟨h, by simp [remove, hsend], by simp [remove, hsend]⟩

theorem remove_of_connected {a : Archive} (h : a.access = .connected)
    (answer : Except Fault Unit) (id : Json) :
    a.remove answer id = (a, ⟨[.remove id], removeResult answer⟩) := by
  have hsend : a.remove answer id =
      (a.connected, ⟨(a.connecting?.map .connect).toList ++ [.remove id], removeResult answer⟩) :=
    send_of_reachable (Or.inl h) (.remove id) removeResult answer
  rw [hsend, connected_of_connected h, connecting?_of_connected h]
  rfl

end Archive
end ReviewDesk
