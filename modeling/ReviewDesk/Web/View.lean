import ReviewDesk.Desk.Creation
import ReviewDesk.Desk.Deletion
import ReviewDesk.Review.Display

/-!
# Views

What the interface shows of reviews, as JSON values.  A review is shown with its
costs and its creation time both exactly and as readers see them.
-/

namespace ReviewDesk
namespace View

def optional {α : Type} (f : α → Json) : Option α → Json
  | some a => f a
  | none => .null

def text? : Option String → Json :=
  optional .string

def decimal? : Option Decimal → Json :=
  optional fun d => .string d.text

def status (s : IntegrationStatus) : Json :=
  .object [("openai_status", .string s.polish.name), ("currency_status", .string s.cost.name),
    ("drive_status", .string s.archive.name), ("warning_message", text? s.warning)]

/-- A review whose creation time cannot be shown has no view. -/
def review (r : Review) : Except Fault Json := do
  let krw ← Display.krw r.krwCost
  let shown ← Display.createdAt (some r.createdAt)
  return .object
    [("id", .string r.id), ("title", .string r.title), ("original_content", .string r.content),
      ("improved_content", text? r.improved), ("model", text? r.model),
      ("token_count", optional .int r.tokenCount), ("usd_cost", decimal? r.usdCost),
      ("krw_cost", decimal? r.krwCost), ("google_file_id", text? r.fileId),
      ("integration_status", status r.status.renewed),
      ("formatted_usd_cost", .string (Display.usd r.usdCost)),
      ("formatted_krw_cost", .string krw), ("formatted_created_at", .string shown),
      ("created_at", .string r.createdAt.isoText)]

def reviews : List Review → Except Fault (List Json)
  | [] => .ok []
  | r :: rest => do
      let v ← review r
      let vs ← reviews rest
      return v :: vs

def listing (rs : List Review) : Except Fault Json := do
  return .object [("items", .array (← reviews rs)), ("total", .int rs.length)]

def creation (c : Creation) : Except Fault Json := do
  return .object
    [("saved_review_id", .string c.review.id), ("integration_status", status c.status),
      ("message", .string c.message), ("review", ← review c.review)]

def deletion (d : Deletion) : Json :=
  .object [("deleted", .bool true), ("drive_deleted", .bool d.fileRemoved),
    ("warnings", .array (d.warnings.map .string))]

def detail (text : String) : Json :=
  .object [("detail", .string text)]

end View
end ReviewDesk
