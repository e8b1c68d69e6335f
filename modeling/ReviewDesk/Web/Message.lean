import ReviewDesk.Json.Printer

/-!
# Messages

A request that has reached the application, and the response to it.  Names of
headers are compared ignoring case; responses write them in small letters.
-/

namespace ReviewDesk
namespace Web

abbrev Headers := List (String × String)

def lower (s : String) : String :=
  String.ofList (s.toList.map Char.toLower)

def header? (headers : Headers) (name : String) : Option String :=
  (headers.find? fun (other, _) => lower other == name).map (·.2)

/-- The origin is the scheme and the host that the request was sent to.  The path is
decoded; the query is as it was sent. -/
structure HttpRequest where
  method : String
  origin : String
  path : String
  query : String
  headers : Headers
  body : List Nat

inductive Body where
  | json (v : Json)
  | text (s : String)

structure HttpResponse where
  status : Nat
  headers : Headers
  body : Body

namespace Body

def content : Body → String
  | json v => v.print Json.compact
  | text s => s

end Body

namespace HttpResponse

def json (status : Nat) (v : Json) : HttpResponse :=
  ⟨status, [], .json v⟩

def withHeaders (r : HttpResponse) (headers : Headers) : HttpResponse :=
  { r with headers := r.headers ++ headers }

def withoutBody (r : HttpResponse) : HttpResponse :=
  { r with body := .text "" }

end HttpResponse
end Web
end ReviewDesk
