import ReviewDesk.Web.Message

/-!
# Requests from other origins

Browsers ask before they send a request from the page of another origin, and look in
every response for leave to use it.
-/

namespace ReviewDesk
namespace Web
namespace Origin

def methods : List String :=
  ["DELETE", "GET", "HEAD", "OPTIONS", "PATCH", "POST", "PUT", "QUERY"]

def maxAge : String := "600"

def varies : String :=
  "Origin, Access-Control-Request-Method, Access-Control-Request-Headers, " ++
    "Access-Control-Request-Private-Network"

def leave (allowed : List String) (origin : String) : Headers :=
  (if allowed.contains origin then [("access-control-allow-origin", origin)] else []) ++
    [("access-control-allow-credentials", "true")]

def ordinary (allowed : List String) (headers : Headers) : Headers :=
  (match header? headers "origin" with
    | some origin => leave allowed origin
    | none => []) ++ [("vary", "Origin")]

/-!
# Asking before
-/

def asked? (r : HttpRequest) : Option (String × String) :=
  if r.method = "OPTIONS" then
    match header? r.headers "origin", header? r.headers "access-control-request-method" with
    | some origin, some method => some (origin, method)
    | _, _ => none
  else none

def refusals (allowed : List String) (headers : Headers) (origin method : String) :
    List String :=
  (if allowed.contains origin then [] else ["origin"]) ++
    (if methods.contains method then [] else ["method"]) ++
    (if (header? headers "access-control-request-private-network").isSome then
      ["private-network"] else [])

def reply (allowed : List String) (headers : Headers) (origin method : String) : HttpResponse :=
  let refused := refusals allowed headers origin method
  { status := if refused.isEmpty then 200 else 400
    headers := leave allowed origin ++
      [("access-control-allow-methods", String.intercalate ", " methods),
        ("access-control-max-age", maxAge), ("vary", varies)]
    body := .text
      (if refused.isEmpty then "OK" else "Disallowed CORS " ++ String.intercalate ", " refused) }

end Origin
end Web
end ReviewDesk
