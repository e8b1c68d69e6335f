import ReviewDesk.Json.Basic
import ReviewDesk.Fault

/-!
# Requests to the outside

Everything that the program asks of an outside service is a request.  What one
operation asked for is listed in order, next to its result.
-/

namespace ReviewDesk

structure ArchiveFile where
  name : String
  folder : String
  text : String
  deriving DecidableEq

inductive Request where
  | polish (prompt : List Text.Mark)
  | rate (address : String)
  | connect (timeout : Binary64)
  | upload (file : ArchiveFile)
  | remove (id : Json)

/-- What an integration answered, and what it asked for on the way. -/
structure Answered (α : Type) where
  requests : List Request
  result : Except Fault (Outcome α)

namespace Answered

variable {α : Type}

def atOnce (outcome : Outcome α) : Answered α :=
  ⟨[], .ok outcome⟩

def outcome (a : Answered α) : Outcome α :=
  .ofAttempt a.result

end Answered
end ReviewDesk
