import ReviewDesk.Text.Blank
import ReviewDesk.Web.Client

/-!
# The console

A request can be written as a line: a method, an address, and the body, if there is
one.  Its response is a line as well, with the status and the text of the body.
-/

namespace ReviewDesk
namespace Web
namespace Console

open Text

def word (cs : List Char) : List Char × List Char :=
  let cs := trimStart isBlank cs
  (cs.takeWhile (!isBlank ·), cs.dropWhile (!isBlank ·))

def content (cs : List Char) : Client.Content :=
  match trim isBlank cs with
  | [] => .none
  | cs => .text (String.ofList cs)

def responseLine (r : HttpResponse) : String :=
  toString r.status ++ " " ++ r.body.content

def unreadableLine : String := "400 a line holds a method, an address and a body"

def failureLine : Client.Failure → String
  | .broken _ => responseLine App.brokenResponse
  | failure => "400 " ++ failure.message

def answer (a : App) (w : Outside) (line : String) : App × String :=
  let (method, rest) := word line.toList
  let (address, rest) := word rest
  if address.isEmpty then (a, unreadableLine)
  else
    let sent :=
      Client.once a w (String.ofList method) (String.ofList address) [] (content rest)
    match sent.result with
    | .ok response => (sent.app, responseLine response)
    | .error failure => (sent.app, failureLine failure)

end Console
end Web
end ReviewDesk
