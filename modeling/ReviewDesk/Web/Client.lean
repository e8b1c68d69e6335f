import ReviewDesk.Address
import ReviewDesk.Text.Case
import ReviewDesk.Text.Misfit
import ReviewDesk.Web.App

/-!
# Sending requests

A client writes an address, headers and a body; this is what of it reaches the
application, and what of the response reaches the client.  The path is decoded twice on
the way, once when it is sent and once when it is received.
-/

namespace ReviewDesk
namespace Web
namespace Client

open Text

inductive Content where
  | none
  | json (v : Json)
  | text (s : String)

namespace Content

def bytes : Content → List Nat
  | none => []
  | json v => utf8Bytes (v.print Json.compact)
  | text s => utf8Bytes s

def isGiven : Content → Bool
  | none => false
  | _ => true

end Content

inductive Failure where
  | address (fault : AddressFault)
  | misfit (text : String)
  | unknownScheme (name : String)
  | badPlace (place : String)
  | otherProtocol
  | broken (fault : Fault)
  | undecodable (text : String)
  deriving DecidableEq

def Failure.message : Failure → String
  | address fault => fault.message
  | misfit text => text
  | unknownScheme name => quoted name
  | badPlace place => "no port: " ++ quoted place
  | otherProtocol => ""
  | broken fault => fault.message
  | undecodable text => text

/-!
# Addresses

A request goes to the application whatever the host of its address is.  An address
without a host is below the application's own one.
-/

def home : Address :=
  { Address.nowhere with scheme := "http".toList, host := "testserver".toList }

def addressOf (text : String) : Except Failure Address :=
  ((Address.read text).bind home.below).mapError .address

def schemes : List String := ["http", "ws", "https", "wss"]

def checkPlace (a : Address) : Except Failure Unit :=
  let place := String.ofList a.place
  let port := ((a.place.dropWhile (· != ':')).drop 1)
  if !schemes.contains (String.ofList a.scheme) then
    .error (.unknownScheme (String.ofList a.scheme))
  else if a.place.contains ':' && (Integer.read? (String.ofList port)).isNone then
    .error (.badPlace place)
  else if "ws".toList.isPrefixOf a.scheme then .error .otherProtocol
  else .ok ()

def pathOf (a : Address) : String :=
  Percent.decode (Percent.decode (if a.path.isEmpty then "/" else String.ofList a.path))

def queryOf (a : Address) : String :=
  String.ofList (a.query.getD [])

/-!
# The request
-/

def contentHeaders (headers : Headers) (content : Content) : Headers :=
  if content.isGiven && (header? headers "content-type").isNone then
    headers ++ [("content-type", "application/json")]
  else headers

def checkAscii (s : String) : Except Failure Unit :=
  match misfit? "ascii" 128 s.toList with
  | none => .ok ()
  | some text => .error (.misfit text)

def checkHeaders : Headers → Except Failure Unit
  | [] => .ok ()
  | (name, value) :: rest => do
      checkAscii name
      checkAscii value
      checkHeaders rest

def originOf (a : Address) (headers : Headers) : String :=
  String.ofList a.scheme ++ "://" ++
    (header? headers "host").getD (String.ofList a.place)

def request (method address : String) (headers : Headers) (content : Content) :
    Except Failure HttpRequest := do
  let a ← addressOf address
  checkHeaders headers
  checkPlace a
  return ⟨Text.upper method, originOf a headers, pathOf a, queryOf a,
    contentHeaders headers content, content.bytes⟩

/-!
# The response

The bytes of the headers are read as UTF-8, and have to be ASCII then.
-/

def byteOf (c : Char) : Nat :=
  c.toNat

def received (value : String) : Except Failure String :=
  let bytes := value.toList.map byteOf
  match brokenBytes? bytes with
  | some s => .error (.undecodable s.text)
  | none => .ok (utf8Lenient bytes)

def checkReceived : Headers → Except Failure Unit
  | [] => .ok ()
  | (_, value) :: rest => do
      checkAscii (← received value)
      checkReceived rest

def receive (r : HttpResponse) : Except Failure HttpResponse := do
  checkReceived r.headers
  return r

structure Sent where
  app : App
  requests : List Request
  result : Except Failure HttpResponse

def exchange (a : App) (w : Outside) (r : HttpRequest) : Sent :=
  let handled := a.handle w r
  ⟨handled.app, handled.requests, do receive (← handled.result.mapError .broken)⟩

def once (a : App) (w : Outside) (method address : String) (headers : Headers)
    (content : Content) : Sent :=
  match request method address headers content with
  | .ok r => exchange a w r
  | .error failure => ⟨a, [], .error failure⟩

/-!
# Following redirections
-/

def location? (r : HttpResponse) : Option String :=
  if r.status = 307 then header? r.headers "location" else none

def maxRedirections : Nat := 20

def follow (w : Outside) (r : HttpRequest) : Nat → Sent → Sent
  | 0, sent => sent
  | fuel + 1, sent =>
      match sent.result with
      | .error _ => sent
      | .ok response =>
          match location? response with
          | none => sent
          | some text =>
              match addressOf text with
              | .error failure => { sent with result := .error failure }
              | .ok a =>
                  let again := exchange sent.app w { r with path := pathOf a, query := queryOf a }
                  follow w r fuel ⟨again.app, sent.requests ++ again.requests, again.result⟩

def send (a : App) (w : Outside) (method address : String) (content : Content) : Sent :=
  match request method address [] content with
  | .ok r => follow w r maxRedirections (exchange a w r)
  | .error failure => ⟨a, [], .error failure⟩

end Client
end Web
end ReviewDesk
