import ReviewDesk.Desk.Basic

/-!
# Deleting a review

The file of a review is removed from the archive first.  When that fails the review
is deleted all the same, with a warning.  Somebody else may delete the review in the
meantime; then it counts as not found.
-/

namespace ReviewDesk

structure Deletion where
  fileRemoved : Bool
  warnings : List String
  deriving DecidableEq

structure NotFound where
  id : String
  deriving DecidableEq

namespace NotFound

def message (e : NotFound) : String :=
  "书评不存在: " ++ e.id

end NotFound

namespace Desk

def fileWarning (fileId : String) : String :=
  "Google Drive 文件未能删除（" ++ fileId ++ "）"

def removeFileOf (d : Desk) (w : Outside) (r : Review) : Desk × List Request × Deletion :=
  match r.fileId with
  | none => (d, [], ⟨false, []⟩)
  | some fileId =>
      if fileId.isEmpty then (d, [], ⟨false, []⟩)
      else
        let (d, answered) := d.removeFile w (.string fileId)
        let removed := answered.outcome.ok
        (d, answered.requests, ⟨removed, if removed then [] else [fileWarning fileId]⟩)

def deleteRow? (d : Desk) (id : String) : Option Desk :=
  if d.store.contains id then some { d with store := d.store.erase id } else none

def delete (d : Desk) (w : Outside) (id : String) :
    Desk × List Request × Except NotFound Deletion :=
  match d.find? id with
  | none => (d, [], .error ⟨id⟩)
  | some r =>
      let (d, requests, deletion) := d.removeFileOf w r
      match d.deleteRow? id with
      | some d => (d, requests, .ok deletion)
      | none => (d, requests, .error ⟨id⟩)

end Desk
end ReviewDesk
