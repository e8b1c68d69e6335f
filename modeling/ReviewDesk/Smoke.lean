import ReviewDesk.Settings.Environment
import ReviewDesk.Text.Quoted
import ReviewDesk.Web.Client

/-!
# Smoke test

Six checks in a row against a running application: it answers, refuses a blank
title, creates a review, lists and shows it, and deletes it again.  The report says
for each check whether it passed and what was seen.
-/

namespace ReviewDesk
namespace Smoke

open Text Web

/-!
# Arguments
-/

def externalFlag : List Char :=
  "--with-external".toList

/-- The flag may be cut short, as long as something of its name is left. -/
def isFlag (argument : String) : Bool :=
  2 < argument.length && argument.toList.isPrefixOf externalFlag

def external? (arguments : List String) : Option Bool :=
  if arguments.all isFlag then some (!arguments.isEmpty) else none

def environment (env : Environment) (arguments : List String) : Environment :=
  if external? arguments = some false then env.withoutCredentials else env

/-!
# Checks
-/

structure Check where
  name : String
  passed : Bool
  detail : String
  deriving DecidableEq

/-- Where a run has got to: the application, the requests to the outside, the checks
that have been made, and the id of the review that was created. -/
structure Run where
  app : App
  requests : List Request
  checks : List Check
  created : Option String

namespace Run

def start (a : App) : Run := ⟨a, [], [], none⟩

def note (r : Run) (c : Check) : Run :=
  { r with checks := r.checks ++ [c] }

def pass (r : Run) (name detail : String) : Run :=
  r.note ⟨name, true, detail⟩

def fail (r : Run) (name detail : String) : Run :=
  r.note ⟨name, false, detail⟩

def sending (r : Run) (w : Outside) (name method address : String) (content : Client.Content)
    (go : Run → HttpResponse → Run) : Run :=
  let sent := Client.send r.app w method address content
  let r := { r with app := sent.app, requests := r.requests ++ sent.requests }
  match sent.result with
  | .error failure => r.fail name ("exception: " ++ failure.message)
  | .ok response => go r response

end Run

/-!
# What a response says
-/

def rootName : String := "GET /"
def healthName : String := "GET /health"
def blankName : String := "POST /api/reviews (blank)"
def createName : String := "POST /api/reviews"
def listName : String := "GET /api/reviews"
def readName : String := "GET /api/reviews/\x7bid\x7d"
def deleteName : String := "DELETE /api/reviews/\x7bid\x7d"
def noReview : String := "no review created"

def cut (n : Nat) (s : String) : String :=
  String.ofList (s.toList.take n)

def member (r : HttpResponse) (name : String) : Json :=
  match r.body with
  | .json v => (v.member? name).getD .null
  | .text _ => .null

def textOf : Json → String
  | .string s => s
  | _ => ""

def itemsOf : Json → List Json
  | .array items => items
  | _ => []

def statusText (r : HttpResponse) : String := s!"status={r.status}"

def fullText (n : Nat) (r : HttpResponse) : String :=
  statusText r ++ ", body=" ++ cut n r.body.content

def entry (title content : String) : Client.Content :=
  .json (.object [("title", .string title), ("original_content", .string content)])

def address (id : String) : String := "/api/reviews/" ++ id

/-!
# The six checks
-/

def checkAlive (w : Outside) (name path : String) (r : Run) : Run :=
  r.sending w name "GET" path .none fun r response =>
    if response.status = 200 then r.pass name "healthy" else r.fail name (fullText 200 response)

def checkBlank (w : Outside) (r : Run) : Run :=
  r.sending w blankName "POST" "/api/reviews" (entry "   " "x") fun r response =>
    if response.status = 400 then r.pass blankName (textOf (member response "detail"))
    else r.fail blankName (statusText response)

def checkCreate (w : Outside) (external : Bool) (r : Run) : Run :=
  r.sending w createName "POST" "/api/reviews" (entry "Smoke Book" "It was good.")
    fun r response =>
      if response.status = 201 then
        let id := textOf (member response "saved_review_id")
        let status := member response "integration_status"
        let r := { r with created := some id }
        let shown := status.print Json.spaced
        let polished := textOf ((status.member? "openai_status").getD .null) == "SUCCESS"
        if external && !polished then
          r.fail createName ("unexpected status: " ++ cut 300 shown)
        else r.pass createName ("id=" ++ id ++ ", status=" ++ shown)
      else r.fail createName (fullText 300 response)

def checkRead (w : Outside) (id total : String) (r : Run) : Run :=
  r.sending w listName "GET" (address id) .none fun r response =>
    if response.status = 200 then r.pass listName ("total=" ++ total)
    else r.fail readName (statusText response)

def listedIds (r : HttpResponse) : List String :=
  (itemsOf (member r "items")).map fun item => textOf ((item.member? "id").getD .null)

def checkList (w : Outside) (r : Run) : Run :=
  match r.created with
  | none => r.fail listName noReview
  | some id =>
      r.sending w listName "GET" "/api/reviews" .none fun r response =>
        if response.status ≠ 200 then r.fail listName (statusText response)
        else if (listedIds response).contains id then
          checkRead w id ((member response "total").print Json.spaced) r
        else
          r.fail listName
            ("created review missing from list: " ++ quotedList ((listedIds response).take 5))

def checkGone (w : Outside) (id warnings : String) (r : Run) : Run :=
  r.sending w deleteName "GET" (address id) .none fun r response =>
    if response.status = 404 then r.pass deleteName ("warnings=" ++ warnings)
    else r.fail deleteName s!"review still readable: {response.status}"

def checkDelete (w : Outside) (r : Run) : Run :=
  match r.created with
  | none => r.fail deleteName noReview
  | some id =>
      r.sending w deleteName "DELETE" (address id) .none fun r response =>
        if response.status = 200 && !(member response "deleted").isAbsent then
          checkGone w id
            (quotedList ((itemsOf (member response "warnings")).map textOf)) r
        else r.fail deleteName (fullText 300 response)

def run (a : App) (w : Outside) (external : Bool) : Run :=
  checkDelete w (checkList w (checkCreate w external (checkBlank w
    (checkAlive w healthName "/health" (checkAlive w rootName "/" (.start a))))))

/-!
# The report
-/

def line (c : Check) : String :=
  (if c.passed then "[PASS] " else "[FAIL] ") ++ c.name ++ ": " ++ c.detail ++ "\n"

def rule (c : Char) : String :=
  String.ofList (List.replicate 24 c) ++ "\n"

def passedCount (checks : List Check) : Nat :=
  checks.countP (·.passed)

def summary (checks : List Check) : String :=
  let passed := passedCount checks
  s!"passed={passed}, failed={checks.length - passed}, total={checks.length}\n"

def reportText (checks : List Check) : String :=
  "\nAcceptance Smoke Report\n" ++ rule '=' ++ String.join (checks.map line) ++ rule '-' ++
    summary checks

structure Report where
  code : Nat
  text : String
  deriving DecidableEq

def report (checks : List Check) : Report :=
  ⟨if checks.all (·.passed) then 0 else 1, reportText checks⟩

def misused : Report := ⟨2, ""⟩

def perform (a : App) (w : Outside) (arguments : List String) : App × List Request × Report :=
  match external? arguments with
  | none => (a, [], misused)
  | some external =>
      let r := run a w external
      (r.app, r.requests, report r.checks)

end Smoke
end ReviewDesk
