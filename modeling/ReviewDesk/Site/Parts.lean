import ReviewDesk.Text.Percent
import ReviewDesk.Text.Word

/-!
# Parts of the address of a database

The kind of database, a colon and two slashes, perhaps a user with a password before an
at sign, perhaps a host and a port, a slash and a path, and options after a question
mark.  What follows the options on further lines is ignored.
-/

namespace ReviewDesk
namespace Location

open Text

structure Parts where
  kind : String
  user : List Char
  password : List Char
  host : List Char
  port : Option String
  path : Option String
  options : List (String × List String)
  deriving DecidableEq

/-!
# User and host
-/

def beforeLast? (mark : Char) (cs : List Char) : Option (List Char) :=
  match cs.reverse.dropWhile (· != mark) with
  | [] => none
  | _ :: before => some before.reverse

def isKindChar (c : Char) : Bool :=
  isWordChar c || c == '+'

def isUserChar (c : Char) : Bool :=
  c != ':' && c != '/'

def splitPlainUser (cs : List Char) : List Char × List Char :=
  match beforeLast? '@' (cs.takeWhile isUserChar) with
  | none => ([], cs)
  | some user => (user, cs.drop (user.length + 1))

/-- User, password and the rest.  A password may hold anything but an at sign. -/
def splitUser (cs : List Char) : List Char × List Char × List Char :=
  match cs.dropWhile isUserChar with
  | ':' :: more =>
      if more.contains '@' then
        (cs.takeWhile isUserChar, more.takeWhile (· != '@'), (more.dropWhile (· != '@')).drop 1)
      else ((splitPlainUser cs).1, [], (splitPlainUser cs).2)
  | _ => ((splitPlainUser cs).1, [], (splitPlainUser cs).2)

def isAuthorityChar (c : Char) : Bool :=
  c != '/' && c != '?'

def isHostChar (c : Char) : Bool :=
  isAuthorityChar c && c != ':'

def bracketed? : List Char → Option (List Char)
  | '[' :: cs => (beforeLast? ']' (cs.takeWhile isAuthorityChar)).filter (!·.isEmpty)
  | _ => none

def splitHost (cs : List Char) : List Char × List Char :=
  match bracketed? cs with
  | some host => (host, cs.drop (host.length + 2))
  | none => (cs.takeWhile isHostChar, cs.dropWhile isHostChar)

def splitBehind (mark : Char) (isPart : Char → Bool) (cs : List Char) :
    Option String × List Char :=
  if cs.head? = some mark then
    (some (String.ofList ((cs.drop 1).takeWhile isPart)), (cs.drop 1).dropWhile isPart)
  else (none, cs)

/-!
# Options

An option without a value is none.  An option that is given more than once has all of
its values, in order.
-/

def decoded (cs : List Char) : String :=
  Percent.decode (String.ofList (cs.map fun c => if c = '+' then ' ' else c))

def option? (piece : String) : Option (String × String) :=
  let name := piece.toList.takeWhile (· != '=')
  let value := (piece.toList.dropWhile (· != '=')).drop 1
  if value.isEmpty then none else some (decoded name, decoded value)

def addOption (name value : String) : List (String × List String) → List (String × List String)
  | [] => [(name, [value])]
  | (other, values) :: rest =>
      if other = name then (other, values ++ [value]) :: rest
      else (other, values) :: addOption name value rest

def optionsOf (query : String) : List (String × List String) :=
  ((query.splitOn "&").filterMap option?).foldl (fun found (name, value) =>
    addOption name value found) []

/-!
# Addresses
-/

def partsBehind (kind cs : List Char) : Parts :=
  let (user, password, cs) := splitUser cs
  let (host, cs) := splitHost cs
  let (port, cs) := splitBehind ':' isAuthorityChar cs
  let (path, cs) := splitBehind '/' (· != '?') cs
  let (query, _) := splitBehind '?' (· != '\n') cs
  { kind := String.ofList kind, user, password, host, port
    path := path.map Percent.decode
    options := query.elim [] optionsOf }

def parts? (address : String) : Option Parts :=
  let cs := address.toList
  match cs.takeWhile isKindChar, cs.dropWhile isKindChar with
  | c :: kind, ':' :: '/' :: '/' :: rest => some (partsBehind (c :: kind) rest)
  | _, _ => none

end Location
end ReviewDesk
