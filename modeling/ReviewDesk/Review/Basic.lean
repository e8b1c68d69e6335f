import ReviewDesk.Calendar.Instant
import ReviewDesk.Decimal.Basic
import ReviewDesk.Fault
import ReviewDesk.Number.Shortest
import ReviewDesk.Status.Basic

/-!
# Reviews

A review as it is kept: what was submitted, what the integrations added, and how
they ended.  What an integration did not provide is missing.
-/

namespace ReviewDesk

structure Review where
  id : String
  title : String
  content : String
  improved : Option String
  model : Option String
  tokenCount : Option Int
  usdCost : Option Decimal
  krwCost : Option Decimal
  fileId : Option String
  status : IntegrationStatus
  createdAt : Instant
  deriving DecidableEq

/-!
# Drafts

A draft is a review before it is saved.  Its texts may still hold halves of pairs, the
model and the id of the archived file are still whatever the services gave, and the costs
are still exact.
-/

structure Costs where
  usd : Decimal
  krw : Decimal

structure Draft where
  id : String
  title : List Text.Mark
  content : List Text.Mark
  improved : Option (List Text.Mark)
  model : Option Json
  tokenCount : Option Int
  costs : Option Costs
  fileId : Option Json
  status : IntegrationStatus
  createdAt : Instant

/-!
# Columns

The store keeps texts, whole numbers of sixty-four bits and binary numbers.  Other
values are turned into texts where a text is kept; lists and objects cannot be kept.
Larger numbers, and texts with half a pair, do not even reach the database.
-/

/-- Why a draft cannot be saved: the database rejects it, or handing a value over to the
database breaks off. -/
inductive SaveFault where
  | rejected
  | broken (fault : Fault)
  deriving DecidableEq

namespace Column

def tooLargeText : String := "Python int too large to convert to SQLite INTEGER"
def unpairedText : String := "half of a pair that stands alone"

def minInt : Int := -9223372036854775808
def maxInt : Int := 9223372036854775807

def integer (n : Int) : Except SaveFault Int :=
  if minInt ≤ n && n ≤ maxInt then .ok n else .error (.broken (.overflow tooLargeText))

def marks (ms : List Text.Mark) : Except SaveFault String :=
  match Text.text? ms with
  | some s => .ok s
  | none => .error (.broken (.badValue unpairedText))

def binaryText : Binary64 → String :=
  Binary64.Layout.write ⟨-4, 15, true, "", "Inf"⟩ (Binary64.significant .halfUp 15)

def text : Json → Except SaveFault (Option String)
  | .null => .ok none
  | .string s => .ok (some s)
  | .bool b => .ok (some (if b then "1" else "0"))
  | .int n => do return some (toString (← integer n))
  | .double .nan => .ok none
  | .double x => .ok (some (binaryText x))
  | .unpaired _ => .error (.broken (.badValue unpairedText))
  | .array _ => .error .rejected
  | .object _ => .error .rejected

def optional {α β : Type} (read : α → Except SaveFault (Option β)) :
    Option α → Except SaveFault (Option β)
  | none => .ok none
  | some a => read a

/-!
# Money

A cost is kept as the nearest binary number and read back with its number of places,
halves to even.
-/

def binary : Decimal → Binary64
  | .finite negative c e => .ofScientific negative c e
  | .infinite negative => .infinite negative
  | .nan _ _ _ => .nan

def readBack (places : Nat) : Binary64 → Option Decimal
  | .finite negative m e => some (.finite (negative && m != 0) (Binary64.units places m e) (-places))
  | .infinite negative => some (.infinite negative)
  | .nan => none

def money (places : Nat) (d : Decimal) : Option Decimal :=
  readBack places (binary d)

end Column

namespace Draft

def usdPlaces : Nat := 6
def krwPlaces : Nat := 2

/-- The review as it will be read back, or what keeps the first column that cannot
be kept from being saved. -/
def stored (d : Draft) : Except SaveFault Review := do
  let title ← Column.marks d.title
  let content ← Column.marks d.content
  let improved ← Column.optional (fun ms => some <$> Column.marks ms) d.improved
  let model ← Column.optional Column.text d.model
  let tokenCount ← Column.optional (fun n => some <$> Column.integer n) d.tokenCount
  let usdCost := d.costs.bind fun c => Column.money usdPlaces c.usd
  let krwCost := d.costs.bind fun c => Column.money krwPlaces c.krw
  let fileId ← Column.optional Column.text d.fileId
  return ⟨d.id, title, content, improved, model, tokenCount, usdCost, krwCost, fileId, d.status,
    d.createdAt⟩

end Draft
end ReviewDesk
