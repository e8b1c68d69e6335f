/-!
# Replacing a text

Every occurrence of a key is replaced, from left to right and without overlap.
-/

namespace ReviewDesk
namespace Text

def replaceFrom (key value : List Char) : Nat → List Char → List Char
  | 0, cs => cs
  | _, [] => []
  | fuel + 1, c :: cs =>
      if key.isPrefixOf (c :: cs) then
        value ++ replaceFrom key value fuel ((c :: cs).drop key.length)
      else c :: replaceFrom key value fuel cs

def replaceList (key value cs : List Char) : List Char :=
  replaceFrom key value cs.length cs

/-- Hides a secret in a text; an empty secret has nothing to hide. -/
def mask (secret s : String) : String :=
  if secret.isEmpty then s
  else String.ofList (replaceList secret.toList "****".toList s.toList)

end Text
end ReviewDesk
