import ReviewDesk.Address.Label
import ReviewDesk.Address.Numeric
import ReviewDesk.Address.Quoting
import ReviewDesk.Text.Lower

/-!
# Hosts

A host is a number or a name.  A name in ASCII may be anything, and what cannot stand in
an address is percent-encoded; any other name has to be made of labels that may be used.
-/

namespace ReviewDesk
namespace Address

open Text

def isBracketed (cs : List Char) : Bool :=
  2 ≤ cs.length && cs.head? == some '[' && cs.getLast? == some ']'

def insideBrackets (cs : List Char) : List Char :=
  (cs.drop 1).dropLast

def host? (cs : List Char) : Option (List Char) :=
  if cs.isEmpty then some []
  else if resemblesFourNumbers cs then (if isFourNumbers cs then some cs else none)
  else if isBracketed cs then
    (if isBracketedNumber (insideBrackets cs) then some cs else none)
  else if cs.all fun c => c.toNat < 0x80 then
    some (Percent.encodeList hostSafe (cs.map Char.toLower))
  else Label.writeName? (lowerList cs)

/-- Whether a written host could be looked up: a name that begins with the mark of a
label outside ASCII has to be readable, and a number is in ASCII. -/
def isReachable (host : List Char) : Bool :=
  if Label.codeMark.isPrefixOf host then Label.isReadable host
  else host.all fun c => c.toNat < 0x80

end Address
end ReviewDesk
