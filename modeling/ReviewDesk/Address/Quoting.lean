import ReviewDesk.Text.Percent

/-!
# Characters of the parts of an address

Each part of an address keeps the characters that cannot be mistaken for its end; all
others are percent-encoded.
-/

namespace ReviewDesk
namespace Address

open Text

def printable (c : Char) : Bool :=
  0x20 ≤ c.toNat && c.toNat < 0x7F

def isControl (c : Char) : Bool :=
  c.toNat < 0x20 || c.toNat = 0x7F

def querySafe (c : Char) : Bool :=
  printable c && !([' ', '"', '#', '<', '>'].contains c)

def pathSafe (c : Char) : Bool :=
  querySafe c && !(['?', '\x60', '\x7b', '\x7d'].contains c)

def fragmentSafe (c : Char) : Bool :=
  printable c && !([' ', '"', '<', '>', '\x60'].contains c)

def userSafe (c : Char) : Bool :=
  pathSafe c && !(['/', ';', '=', '@', '[', '\\', ']', '^', '|'].contains c)

def hostSafe (c : Char) : Bool :=
  printable c && !([' ', '#', '/', '<', '>', '?', '@', '[', ']', '^'].contains c)

def quotedPath (cs : List Char) : List Char :=
  Percent.encodeList pathSafe cs

def quotedQuery (cs : List Char) : List Char :=
  Percent.encodeList querySafe cs

end Address
end ReviewDesk
