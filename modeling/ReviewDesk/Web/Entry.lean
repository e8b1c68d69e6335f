import ReviewDesk.Json.Reader
import ReviewDesk.Text.Blank
import ReviewDesk.Web.Message

/-!
# Entries

A review is submitted as a JSON object with a title and a text.  What is wrong with
the body is reported place by place; texts that are missing are empty.
-/

namespace ReviewDesk
namespace Web

open Text

inductive Place where
  | name (s : String)
  | position (n : Nat)
  deriving DecidableEq

inductive Defect where
  | missing
  | notJson
  | notObject
  | notText
  deriving DecidableEq

namespace Defect

def code : Defect → String
  | missing => "missing"
  | notJson => "json_invalid"
  | notObject => "model_attributes_type"
  | notText => "string_type"

def message : Defect → String
  | missing => "Field required"
  | notJson => "JSON decode error"
  | notObject => "Input should be a valid dictionary or object to extract fields from"
  | notText => "Input should be a valid string"

end Defect

structure Finding where
  defect : Defect
  place : List Place
  deriving DecidableEq

inductive EntryFailure where
  | unreadable
  | findings (fs : List Finding)
  deriving DecidableEq

/-- The texts as they were sent; they need not be made of characters alone. -/
structure Entry where
  title : List Mark
  content : List Mark
  deriving DecidableEq

namespace Entry

/-!
# The kind of body
-/

/-- Whether a content type names JSON: the part before a semicolon, in any case.  A
type that is not named is taken for JSON. -/
def isJsonType (contentType : String) : Bool :=
  if contentType.isEmpty then true
  else
    let cs := (trim isBlank (contentType.toList.takeWhile (· != ';'))).map Char.toLower
    match cs.dropWhile (· != '/') with
    | _ :: sub =>
        cs.takeWhile (· != '/') == "application".toList && !sub.contains '/' &&
          (sub == "json".toList || "+json".toList.isSuffixOf sub)
    | [] => false

/-!
# The fields
-/

def contentNames : List String := ["original_content", "originalContent"]

def checkText (name : String) (v : Json) : Except Finding (List Mark) :=
  match v.marks? with
  | some ms => .ok ms
  | none => .error ⟨.notText, [.name "body", .name name]⟩

def field (members : List (String × Json)) (names : List String) :
    Except Finding (List Mark) :=
  match names.findSome? fun name => (members.lookup name).map fun v => (name, v) with
  | none => .ok []
  | some (name, v) => checkText name v

def findingsOf {α : Type} : Except Finding α → List Finding
  | .ok _ => []
  | .error f => [f]

def ofMembers (members : List (String × Json)) : Except EntryFailure Entry :=
  match field members ["title"], field members contentNames with
  | .ok title, .ok content => .ok ⟨title, content⟩
  | title, content => .error (.findings (findingsOf title ++ findingsOf content))

/-!
# The body
-/

def bodyFinding (defect : Defect) : EntryFailure :=
  .findings [⟨defect, [.name "body"]⟩]

def ofJson : Json → Except EntryFailure Entry
  | .object members => ofMembers members
  | _ => .error (bodyFinding .notObject)

/-- Fifty calls of the server and its layers lead to the body. -/
def bodyDepth : Nat := Json.roomAfter 50

def ofBytes (bytes : List Nat) : Except EntryFailure Entry :=
  match Json.readBytes bytes bodyDepth with
  | .ok v => ofJson v
  | .error (.content (.malformed position)) =>
      .error (.findings [⟨.notJson, [.name "body", .position position]⟩])
  | .error _ => .error .unreadable

def ofRequest (r : HttpRequest) : Except EntryFailure Entry :=
  if r.body.isEmpty then .error (bodyFinding .missing)
  else if isJsonType ((header? r.headers "content-type").getD "") then ofBytes r.body
  else .error (bodyFinding .notObject)

/-!
# Reports
-/

def placeJson : Place → Json
  | .name s => .string s
  | .position n => .int n

def findingJson (f : Finding) : Json :=
  .object [("type", .string f.defect.code), ("loc", .array (f.place.map placeJson)),
    ("msg", .string f.defect.message)]

def unreadableText : String := "There was an error parsing the body"

end Entry
end Web
end ReviewDesk
