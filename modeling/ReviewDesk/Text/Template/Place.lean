/-!
# Places of a template

A template is a text with places in braces.  A place names a value, perhaps goes on to
a part of it, and may say how it is written: in what form and in what layout.
-/

namespace ReviewDesk
namespace Text

inductive TemplateFault where
  | unknownName (name : String)
  | noPosition
  | noPart
  | wrongKind
  | malformed
  | tooWide
  deriving DecidableEq

namespace Template

structure Place where
  name : List Char
  form : Option Char
  layout : List Char
  deriving DecidableEq

/-!
# Reading a place

The name goes up to the closing brace, a colon or an exclamation mark; between square
brackets anything may stand.
-/

def isNameEnd (c : Char) : Bool :=
  c == '\x7d' || c == ':' || c == '!'

/-- The name of a place, and what follows it from the mark at its end on; `inKey` tells
whether a square bracket is open. -/
def nameFrom? : Bool → List Char → Option (List Char × List Char)
  | _, [] => none
  | true, c :: cs => (nameFrom? (c != ']') cs).map fun (n, rest) => (c :: n, rest)
  | false, c :: cs =>
      if c = '\x7b' then none
      else if isNameEnd c then some ([], c :: cs)
      else (nameFrom? (c == '[') cs).map fun (n, rest) => (c :: n, rest)

/-- A layout and what follows the brace behind it; `depth` counts the braces that are
open in the layout. -/
def layoutFrom? : Nat → List Char → Option (List Char × List Char)
  | _, [] => none
  | 0, '\x7d' :: rest => some ([], rest)
  | depth + 1, '\x7d' :: rest => (layoutFrom? depth rest).map fun (l, rest) => ('\x7d' :: l, rest)
  | depth, '\x7b' :: rest =>
      (layoutFrom? (depth + 1) rest).map fun (l, rest) => ('\x7b' :: l, rest)
  | depth, c :: rest => (layoutFrom? depth rest).map fun (l, rest) => (c :: l, rest)

def manner? : List Char → Option (Option Char × List Char × List Char)
  | '\x7d' :: rest => some (none, [], rest)
  | ':' :: rest => (layoutFrom? 0 rest).map fun (l, rest) => (none, l, rest)
  | '!' :: form :: '\x7d' :: rest => some (some form, [], rest)
  | '!' :: form :: ':' :: rest => (layoutFrom? 0 rest).map fun (l, rest) => (some form, l, rest)
  | _ => none

def place? (cs : List Char) : Option (Place × List Char) := do
  let (name, rest) ← nameFrom? false cs
  let (form, layout, rest) ← manner? rest
  return (⟨name, form, layout⟩, rest)

end Template
end Text
end ReviewDesk
