import ReviewDesk.Address.Host
import ReviewDesk.Number.Integer
import ReviewDesk.Text.Quoted

/-!
# Addresses

An address names a scheme, a user, a host and a port, a path, a query and a fragment, each
of which may be missing.  Reading one gives its normal form: the scheme in small letters,
the written form of the host, no port that the scheme has anyway, a path without dots,
and every part percent-encoded by its own rule.
-/

namespace ReviewDesk

open Text

inductive AddressFault where
  | tooLong
  | partTooLong (name : String)
  | control (c : Char) (position : Nat)
  | badHost (host : String)
  | badPort (port : String)
  | misleadingPath
  deriving DecidableEq

def AddressFault.message : AddressFault → String
  | tooLong => "URL too long"
  | partTooLong name => s!"URL component '{name}' too long"
  | control c position =>
      "Invalid non-printable ASCII character in URL, " ++ quoted (String.singleton c) ++
        s!" at position {position}."
  | badHost host => "Invalid host: " ++ quoted host
  | badPort port => "Invalid port: " ++ quoted port
  | misleadingPath => "Relative URLs cannot have a path starting with '//' or ':'"

/-- The host and all that follows it are in their written form. -/
structure Address where
  scheme : List Char
  user : List Char
  host : List Char
  port : Option Int
  path : List Char
  query : Option (List Char)
  fragment : Option (List Char)
  deriving DecidableEq

namespace Address

/-!
# Parts of a text
-/

structure Parts where
  scheme : List Char
  authority : List Char
  path : List Char
  query : Option (List Char)
  fragment : Option (List Char)
  deriving DecidableEq

def breakAt (stops : List Char) (cs : List Char) : List Char × List Char :=
  (cs.takeWhile (!stops.contains ·), cs.dropWhile (!stops.contains ·))

def isSchemeChar (c : Char) : Bool :=
  c.isAlphanum || c == '+' || c == '.' || c == '-'

/-- The scheme that a text begins with, if it does, and what follows the colon behind it.
There may be a colon alone. -/
def splitScheme (cs : List Char) : List Char × List Char :=
  match cs.takeWhile isSchemeChar, cs.dropWhile isSchemeChar with
  | [], ':' :: rest => ([], rest)
  | c :: scheme, ':' :: rest => if c.isAlpha then (c :: scheme, rest) else ([], cs)
  | _, _ => ([], cs)

def splitAuthority : List Char → List Char × List Char
  | '/' :: '/' :: rest => breakAt ['/', '?', '#'] rest
  | cs => ([], cs)

def behind (cs : List Char) : Option (List Char) :=
  cs.tail?

def parts (cs : List Char) : Parts :=
  let (scheme, rest) := splitScheme cs
  let (authority, rest) := splitAuthority rest
  let (path, rest) := breakAt ['?', '#'] rest
  let (query, fragment) := breakAt ['#'] rest
  ⟨scheme, authority, path, behind query, behind fragment⟩

/-!
# The authority
-/

def splitUser (cs : List Char) : List Char × List Char :=
  if cs.contains '@' then
    let (host, user) := breakAt ['@'] cs.reverse
    ((user.drop 1).reverse, host.reverse)
  else ([], cs)

def splitHost (cs : List Char) : List Char × List Char :=
  let (host, port) :=
    if cs.head? = some '[' && cs.contains ']' then
      let (port, host) := breakAt [']'] cs.reverse
      (host.reverse, port.reverse)
    else breakAt [':'] cs
  (host, if port.head? = some ':' then port.drop 1 else port)

def usualPorts : List (String × Int) :=
  [("ftp", 21), ("http", 80), ("https", 443), ("ws", 80), ("wss", 443)]

/-- The port, unless the scheme as it was given has it anyway. -/
def portOf (scheme cs : List Char) : Except AddressFault (Option Int) :=
  if cs.isEmpty then .ok none
  else
    match Integer.read? (String.ofList cs) with
    | some n => .ok (if usualPorts.lookup (String.ofList scheme) = some n then none else some n)
    | none => .error (.badPort (String.ofList cs))

/-!
# Reading
-/

def maxLength : Nat := 65536

def checkText (cs : List Char) : Except AddressFault Unit :=
  if maxLength < cs.length then .error .tooLong
  else
    match cs.findIdx? isControl with
    | some i => .error (.control (cs.getD i ' ') i)
    | none => .ok ()

/-- A path cannot be told from an authority, nor from a scheme, if neither is there. -/
def isMisleading (path : List Char) : Bool :=
  "//".toList.isPrefixOf path || path.head? = some ':'

def hasAuthority (a : Address) : Bool :=
  !a.user.isEmpty || !a.host.isEmpty || a.port.isSome

def ofParts (p : Parts) : Except AddressFault Address := do
  let (user, rest) := splitUser p.authority
  let (hostText, portText) := splitHost rest
  let host ← (host? hostText).elim (.error (.badHost (String.ofList hostText))) .ok
  let port ← portOf p.scheme portText
  let a : Address :=
    { scheme := p.scheme.map Char.toLower
      user := Percent.encodeList userSafe user
      host := host
      port := port
      path := p.path
      query := p.query.map quotedQuery
      fragment := p.fragment.map (Percent.encodeList fragmentSafe) }
  if !a.scheme.isEmpty || a.hasAuthority then
    return { a with path := quotedPath (normalPath p.path) }
  else if isMisleading p.path then .error .misleadingPath
  else return { a with path := quotedPath p.path }

def read (s : String) : Except AddressFault Address := do
  checkText s.toList
  ofParts (parts s.toList)

/-!
# Writing
-/

def place (a : Address) : List Char :=
  a.host ++ (match a.port with
    | some n => ':' :: (toString n).toList
    | none => [])

def authority (a : Address) : List Char :=
  (if a.user.isEmpty then [] else a.user ++ ['@']) ++ a.place

def marked (mark : Char) : Option (List Char) → List Char
  | some cs => mark :: cs
  | none => []

def text (a : Address) : String :=
  String.ofList
    ((if a.scheme.isEmpty then [] else a.scheme ++ [':']) ++
      (if a.authority.isEmpty then [] else "//".toList ++ a.authority) ++ a.path ++
      marked '?' a.query ++ marked '#' a.fragment)

/-!
# Addresses below another one

An address without a scheme or a host is taken for a path and a query below the address
that it is used from.
-/

def isFull (a : Address) : Bool :=
  !a.scheme.isEmpty && !a.host.isEmpty

def nowhere : Address := ⟨[], [], [], none, [], none, none⟩

def checkPart (name : String) (cs : List Char) : Except AddressFault Unit :=
  if maxLength < cs.length then .error (.partTooLong name) else .ok ()

def below (top a : Address) : Except AddressFault Address :=
  if a.isFull then .ok a
  else do
    let path := '/' :: a.path.dropWhile (· == '/')
    checkPart "path" path
    checkPart "query" (a.query.getD [])
    return { top with
      path := if top.isFull then normalPath path else path
      query := a.query
      fragment := none }

end Address
end ReviewDesk
