import ReviewDesk.Desk.Basic
import ReviewDesk.Proofs.Archive.Folder

/-!
# Requests of an operation

A trace says what an operation asked the outside for, at most once of each kind.  Its
requests stand in the order of the fields.
-/

namespace ReviewDesk

namespace Request

def removed? : Request → Option Json
  | .remove id => some id
  | _ => none

def isUpload : Request → Bool
  | .upload _ => true
  | _ => false

end Request

def removals (requests : List Request) : List Json :=
  requests.filterMap Request.removed?

/-- The id of a file that an upload among the requests returned. -/
def Outside.uploadedId? (w : Outside) (requests : List Request) : Option Json :=
  if requests.any Request.isUpload then
    (Outcome.ofAttempt (Archive.uploadResult w.upload)).value?
  else none

theorem removals_append (before after : List Request) :
    removals (before ++ after) = removals before ++ removals after :=
  List.filterMap_append

theorem removals_map_remove (fileId : Option Json) :
    removals (fileId.map .remove).toList = fileId.toList := by
  cases fileId with
  | none => rfl
  | some id => rfl

theorem uploadedId?_append_remove (w : Outside) (requests : List Request) (fileId : Option Json) :
    w.uploadedId? (requests ++ (fileId.map .remove).toList) = w.uploadedId? requests := by
  cases fileId with
  | none => simp
  | some id => simp [Outside.uploadedId?, Request.isUpload]

/-!
# Traces
-/

structure Trace where
  polish : Option (List Text.Mark)
  rate : Option String
  connect : Option Binary64
  upload : Option ArchiveFile
  remove : Option Json

namespace Trace

def silent : Trace :=
  ⟨none, none, none, none, none⟩

def requests (t : Trace) : List Request :=
  (t.polish.map .polish).toList ++ (t.rate.map .rate).toList ++ (t.connect.map .connect).toList ++
    (t.upload.map .upload).toList ++ (t.remove.map .remove).toList

theorem removals_requests (t : Trace) : removals t.requests = t.remove.toList := by
  rcases t with ⟨polish, rate, connect, upload, remove⟩
  cases polish <;> cases rate <;> cases connect <;> cases upload <;> cases remove <;> rfl

theorem any_isUpload_requests (t : Trace) :
    t.requests.any Request.isUpload = t.upload.isSome := by
  rcases t with ⟨polish, rate, connect, upload, remove⟩
  cases polish <;> cases rate <;> cases connect <;> cases upload <;> cases remove <;> rfl

theorem requests_with_remove {t : Trace} (h : t.remove = none) (remove : Option Json) :
    { t with remove := remove }.requests = t.requests ++ (remove.map .remove).toList := by
  simp [requests, h]

end Trace
end ReviewDesk
