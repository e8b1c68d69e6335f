import ReviewDesk.Desk.Creation
import ReviewDesk.Text.Misfit
import ReviewDesk.Web.Entry
import ReviewDesk.Web.Origin
import ReviewDesk.Web.Route
import ReviewDesk.Web.View

/-!
# The application

The application serves the desk over HTTP.  It counts the reviews that it has begun
and the requests that it has named, so that each gets an identity or a tag of its
own.
-/

namespace ReviewDesk
namespace Web

open Text

structure App where
  desk : Desk
  origins : List String
  begun : Nat
  tagged : Nat

namespace App

def make (desk : Desk) (origins : List String) : App :=
  ⟨desk, origins, 0, 0⟩

/-- What handling something did: the application afterwards, the requests to the
outside, and the result unless a fault broke it off. -/
structure Handled (α : Type) where
  app : App
  requests : List Request
  result : Except Fault α

/-!
# Creating and deleting
-/

/-- Creates a review.  An identity is drawn once the submission has been accepted. -/
def create (a : App) (w : Outside) (title content : Option (List Mark)) :
    App × List Request × Except CreationFailure Creation :=
  let (desk, requests, result) :=
    a.desk.create w (w.identity (a.begun + 1)) title content
  let begun := match result with
    | .error (.rejected _) => a.begun
    | _ => a.begun + 1
  ({ a with desk := desk, begun := begun }, requests, result)

def delete (a : App) (w : Outside) (id : String) :
    App × List Request × Except NotFound Deletion :=
  let (desk, requests, result) := a.desk.delete w id
  ({ a with desk := desk }, requests, result)

/-!
# Endpoints
-/

def rootText : String := "书评服务 API 运行中"
def missingText : String := "书评不存在"

def rootView : Json :=
  .object [("status", .string "ok"), ("message", .string rootText)]

def healthView : Json :=
  .object [("status", .string "healthy")]

def refused (status : Nat) (text : String) : HttpResponse :=
  .json status (View.detail text)

def reviewPath (id : String) : String :=
  "/api/reviews/" ++ id

def checkHeader (value : String) : Except Fault Unit :=
  match misfit? "latin-1" 256 value.toList with
  | none => .ok ()
  | some text => .error (.badValue text)

def createdResponse (c : Creation) : Except Fault HttpResponse := do
  checkHeader (reviewPath c.review.id)
  return (HttpResponse.json 201 (← View.creation c)).withHeaders
    [("location", reviewPath c.review.id)]

def creationResponse : Except CreationFailure Creation → Except Fault HttpResponse
  | .ok c => createdResponse c
  | .error (.rejected rejection) => .ok (refused 400 rejection.message)
  | .error .notSaved => .ok (refused 500 CreationFailure.notSavedText)
  | .error (.broken fault) => .error fault

def post (a : App) (w : Outside) (r : HttpRequest) : Handled HttpResponse :=
  match Entry.ofRequest r with
  | .error .unreadable => ⟨a, [], .ok (refused 400 Entry.unreadableText)⟩
  | .error (.findings fs) =>
      ⟨a, [], .ok (.json 422 (.object [("detail", .array (fs.map Entry.findingJson))]))⟩
  | .ok entry =>
      let (a, requests, result) := a.create w (some entry.title) (some entry.content)
      ⟨a, requests, creationResponse result⟩

def listResponse (a : App) : Except Fault HttpResponse := do
  return .json 200 (← View.listing a.desk.list)

def readResponse (a : App) (id : String) : Except Fault HttpResponse :=
  match a.desk.find? id with
  | none => .ok (refused 404 missingText)
  | some r => do return .json 200 (← View.review r)

def remove (a : App) (w : Outside) (id : String) : Handled HttpResponse :=
  let (a, requests, result) := a.delete w id
  match result with
  | .ok deletion => ⟨a, requests, .ok (.json 200 (View.deletion deletion))⟩
  | .error _ => ⟨a, requests, .ok (refused 404 missingText)⟩

/-!
# Dispatch
-/

def wrongMethod (resource : Resource) : HttpResponse :=
  (refused 405 "Method Not Allowed").withHeaders [("allow", resource.firstMethod)]

def serve (a : App) (w : Outside) (r : HttpRequest) (resource : Resource) :
    Handled HttpResponse :=
  match resource, r.method with
  | .root, "GET" => ⟨a, [], .ok (.json 200 rootView)⟩
  | .health, "GET" => ⟨a, [], .ok (.json 200 healthView)⟩
  | .reviews, "POST" => a.post w r
  | .reviews, "GET" => ⟨a, [], a.listResponse⟩
  | .review id, "GET" => ⟨a, [], a.readResponse id⟩
  | .review id, "DELETE" => a.remove w id
  | resource, _ => ⟨a, [], .ok (wrongMethod resource)⟩

def dispatch (a : App) (w : Outside) (r : HttpRequest) : Handled HttpResponse :=
  match Route.ofPath r.path with
  | .found resource => a.serve w r resource
  | .moved path =>
      ⟨a, [], .ok ⟨307, [("location", Route.location r.origin path r.query)], .text ""⟩⟩
  | .unknown => ⟨a, [], .ok (refused 404 "Not Found")⟩

/-!
# Tags

Every request goes by its own tag, or by the next one of a series.
-/

def ownTag? (r : HttpRequest) : Option String :=
  (header? r.headers "x-request-id").bind fun tag => if tag.isEmpty then none else some tag

def tag (a : App) (w : Outside) (r : HttpRequest) : App × String :=
  match ownTag? r with
  | some tag => (a, tag)
  | none => ({ a with tagged := a.tagged + 1 }, w.tag (a.tagged + 1))

/-!
# Handling a request
-/

def finish (r : HttpRequest) (tag : String) (response : HttpResponse) : HttpResponse :=
  let response := if r.method = "HEAD" then response.withoutBody else response
  response.withHeaders [("x-request-id", tag)]

def answer (a : App) (w : Outside) (r : HttpRequest) : Handled HttpResponse :=
  match Origin.asked? r with
  | some (origin, method) => ⟨a, [], .ok (Origin.reply a.origins r.headers origin method)⟩
  | none =>
      let handled := a.dispatch w r
      ⟨handled.app, handled.requests,
        handled.result.map (·.withHeaders (Origin.ordinary a.origins r.headers))⟩

def handle (a : App) (w : Outside) (r : HttpRequest) : Handled HttpResponse :=
  let (a, tag) := a.tag w r
  let handled := a.answer w r
  ⟨handled.app, handled.requests, handled.result.map (finish r tag)⟩

def brokenResponse : HttpResponse :=
  ⟨500, [], .text "Internal Server Error"⟩

end App
end Web
end ReviewDesk
