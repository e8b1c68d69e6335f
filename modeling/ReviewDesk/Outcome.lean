import ReviewDesk.Json.Basic

/-!
# Outcomes of outside requests

Every integration answers with a value or with one of a closed set of reasons why
there is none.  The detail of a failure is usually a sentence, but may be whatever
the outside service gave as its reason.
-/

namespace ReviewDesk

inductive FailureReason where
  | notConfigured
  | timeout
  | unavailable
  | rateLimited
  | insufficientQuota
  | unauthorized
  | invalidResponse
  deriving DecidableEq

inductive Outcome (α : Type) where
  | success (value : α)
  | failure (reason : FailureReason) (detail : Json)

namespace Outcome

variable {α β : Type}

def ok : Outcome α → Bool
  | success _ => true
  | failure _ _ => false

def value? : Outcome α → Option α
  | success value => some value
  | failure _ _ => none

def reason? : Outcome α → Option FailureReason
  | success _ => none
  | failure reason _ => some reason

def refuse (reason : FailureReason) (detail : String) : Outcome α :=
  failure reason (.string detail)

def ended : Outcome α → Outcome Unit
  | success _ => success ()
  | failure reason detail => failure reason detail

theorem ok_eq_true_iff (o : Outcome α) : o.ok = true ↔ ∃ value, o = success value := by
  cases o <;> simp [ok]

end Outcome

def FailureReason.ofStatusCode (code : Int) : FailureReason :=
  if code = 429 then .rateLimited
  else if code = 401 || code = 403 then .unauthorized
  else if 500 ≤ code then .unavailable
  else .invalidResponse

end ReviewDesk
