import ReviewDesk.Text.Percent
import ReviewDesk.Web.Message

/-!
# Routes

Which resource a path names.  A path that names one only without the slashes at its
end is redirected there.
-/

namespace ReviewDesk
namespace Web

open Text

inductive Resource where
  | root
  | health
  | reviews
  | review (id : String)
  deriving DecidableEq

namespace Resource

def collection : List Char :=
  "/api/reviews".toList

/-- Whether a path is the given one, or that with the end of a line behind it. -/
def isAt (path cs : List Char) : Bool :=
  cs == path || cs == path ++ ['\n']

def ofChars? (cs : List Char) : Option Resource :=
  if isAt ['/'] cs then some root
  else if isAt "/health".toList cs then some health
  else if isAt collection cs then some reviews
  else if (collection ++ ['/']).isPrefixOf cs then
    let id := cs.drop (collection.length + 1)
    if id.isEmpty || id.contains '/' then none else some (review (String.ofList id))
  else none

def firstMethod : Resource → String
  | reviews => "POST"
  | _ => "GET"

end Resource

inductive Route where
  | found (resource : Resource)
  | moved (path : String)
  | unknown
  deriving DecidableEq

namespace Route

def dropSlashes (cs : List Char) : List Char :=
  (cs.reverse.dropWhile (· == '/')).reverse

def ofPath (path : String) : Route :=
  let cs := path.toList
  match Resource.ofChars? cs with
  | some resource => found resource
  | none =>
      let shorter := dropSlashes cs
      if (Resource.ofChars? shorter).isSome then moved (String.ofList shorter) else unknown

/-!
# Addresses
-/

def locationSafe (c : Char) : Bool :=
  ('0' ≤ c && c ≤ '9') || ('A' ≤ c && c ≤ 'Z') || ('a' ≤ c && c ≤ 'z') ||
    "_.-~:/%#?=@[]!$&'()*+,;".toList.contains c

def encodeLocation (s : String) : String :=
  String.ofList (s.toList.flatMap fun c => if locationSafe c then [c] else Percent.encodeChar c)

def location (origin path query : String) : String :=
  encodeLocation (origin ++ path ++ (if query.isEmpty then "" else "?" ++ query))

end Route
end Web
end ReviewDesk
