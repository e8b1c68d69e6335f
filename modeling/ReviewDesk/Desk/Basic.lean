import ReviewDesk.Archive.Folder
import ReviewDesk.Exchange.Office
import ReviewDesk.Polish.Polisher
import ReviewDesk.Review.Store
import ReviewDesk.Submission

/-!
# The review desk

The desk brings the integrations and the store together.  An operation on it is a
function of the desk and of what the outside world does meanwhile.
-/

namespace ReviewDesk

structure Desk where
  polisher : Polisher
  prices : PriceTable
  office : Office
  archive : Archive
  store : Store

structure Identity where
  id : String
  createdAt : Instant
  deriving DecidableEq

/-- What the outside world does during an operation: which identities and tags are
drawn, the reading of the clock, what each service answers if it is asked, the
reviews that somebody else deletes while a file is being removed from the archive, and
what keeps the database from taking any row at all. -/
structure Outside where
  identity : Nat → Identity
  tag : Nat → String
  now : Moment
  polish : Except Fault ModelReply
  rate : Except Fault RateResponse
  upload : Except Fault Json
  remove : Except Fault Unit
  vanishing : List String
  saving : Option SaveFault := none

namespace Desk

def find? (d : Desk) (id : String) : Option Review :=
  d.store.find? id

def list (d : Desk) : List Review :=
  d.store.newestFirst

/-!
# Removing a file
-/

def asksRemoval (requests : List Request) : Bool :=
  requests.any fun
    | .remove _ => true
    | _ => false

/-- Removes a file from the archive.  Reviews can vanish only while the archive is
being asked. -/
def removeFile (d : Desk) (w : Outside) (id : Json) : Desk × Answered Unit :=
  let (archive, answered) := d.archive.remove w.remove id
  let store :=
    if asksRemoval answered.requests then d.store.eraseAll w.vanishing else d.store
  ({ d with archive := archive, store := store }, answered)

end Desk
end ReviewDesk
