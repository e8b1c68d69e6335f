import ReviewDesk.Address.Label.Direction
import ReviewDesk.Address.Label.Joining
import ReviewDesk.Address.Label.Letters
import ReviewDesk.Address.Label.Punycode
import ReviewDesk.Address.Label.Script

/-!
# Labels

The name of a host is made of labels with dots between them.  A label that is not in
ASCII is written there behind a mark of its own.
-/

namespace ReviewDesk
namespace Label

open Text

/-!
# Labels that may be used
-/

def isJoiner (c : Char) : Bool :=
  c == zeroWidthNonJoiner || c == zeroWidthJoiner

/-- Whether a character may stand between two parts of a label, the first of which is
given from its last character on. -/
def fits (c : Char) (before after : List Char) : Bool :=
  if isLetter c then true
  else if isJoiner c then fitsJoiner c before after
  else fitsSign c before after

def allFit : List Char → List Char → Bool
  | _, [] => true
  | before, c :: after => fits c before after && allFit (c :: before) after

def hyphensFit (cs : List Char) : Bool :=
  (cs.drop 2).take 2 != ['-', '-'] && cs.head? != some '-' && cs.getLast? != some '-'

def maxNameLength : Nat := 254

def isUsable (cs : List Char) : Bool :=
  !cs.isEmpty && cs.length ≤ maxNameLength && hyphensFit cs && !(cs.head?.any isMark) &&
    allFit [] cs && isComposed cs && fitsDirection cs

/-!
# The written form
-/

def codeMark : List Char := "xn--".toList

def maxLength : Nat := 63

def read? (cs : List Char) : Option (List Char) := do
  let cs := cs.map Char.toLower
  let label ←
    if codeMark.isPrefixOf cs then
      let code := cs.drop codeMark.length
      if code.isEmpty || code.getLast? == some '-' then none else Punycode.decode? code
    else some cs
  if isUsable label then some label else none

def fitting (cs : List Char) : Option (List Char) :=
  if cs.length ≤ maxLength then some cs else none

def write? (cs : List Char) : Option (List Char) :=
  if cs.all Punycode.isBasic then (read? cs).bind fun _ => fitting cs
  else if isUsable cs then fitting (codeMark ++ Punycode.encode cs)
  else none

/-!
# Names

A name may end in a dot.
-/

def dots : List Char := ['.', '。', '．', '｡']

def splitDots : List Char → List (List Char)
  | [] => [[]]
  | c :: cs =>
      match splitDots cs with
      | [] => [[c]]
      | head :: rest => if dots.contains c then [] :: head :: rest else (c :: head) :: rest

def labels (cs : List Char) : List (List Char) × Bool :=
  match (splitDots cs).reverse with
  | [] :: rest => (rest.reverse, true)
  | _ => (splitDots cs, false)

def joinDots : List (List Char) → List Char
  | [] => []
  | [cs] => cs
  | cs :: rest => cs ++ '.' :: joinDots rest

def writeName? (cs : List Char) : Option (List Char) := do
  if cs.isEmpty then none
  let (ls, dotted) := labels cs
  let written ← ls.mapM write?
  let name := joinDots written ++ (if dotted then ['.'] else [])
  if name.length ≤ (if dotted then maxNameLength else maxNameLength - 1) then some name else none

def isReadable (cs : List Char) : Bool :=
  !cs.isEmpty && (labels cs).1.all fun l => (read? l).isSome

end Label
end ReviewDesk
