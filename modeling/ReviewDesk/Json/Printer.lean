import ReviewDesk.Json.Basic
import ReviewDesk.Number.Shortest
import ReviewDesk.Text.Percent

/-!
# Printing JSON

The same value is printed in two styles: compact, with every character as it is,
and spaced, with ASCII characters only.
-/

namespace ReviewDesk
namespace Json

open Text

structure Style where
  separator : String
  colon : String
  asciiOnly : Bool

def compact : Style := ⟨",", ":", false⟩

def spaced : Style := ⟨", ", ": ", true⟩

/-!
# Strings
-/

def unitEscape (unit : Nat) : List Char :=
  '\\' :: 'u' :: (hexField 4 unit).toList

def numbered (c : Char) : List Char :=
  let n := c.toNat
  if n < 0x10000 then unitEscape n
  else
    let m := n - 0x10000
    unitEscape (0xD800 + m / 0x400) ++ unitEscape (0xDC00 + m % 0x400)

def charText (asciiOnly : Bool) (c : Char) : List Char :=
  match c with
  | '"' => ['\\', '"']
  | '\\' => ['\\', '\\']
  | '\n' => ['\\', 'n']
  | '\r' => ['\\', 'r']
  | '\t' => ['\\', 't']
  | '\x0c' => ['\\', 'f']
  | '\x08' => ['\\', 'b']
  | c =>
      if c.toNat < 0x20 || (asciiOnly && 0x7F ≤ c.toNat) then numbered c else [c]

def markText (asciiOnly : Bool) : Mark → List Char
  | .char c => charText asciiOnly c
  | .half unit => unitEscape unit

def quoted (asciiOnly : Bool) (ms : List Mark) : String :=
  String.ofList ('"' :: ms.flatMap (markText asciiOnly) ++ ['"'])

/-!
# Values
-/

mutual

def print (style : Style) : Json → String
  | null => "null"
  | bool b => if b then "true" else "false"
  | int n => toString n
  | double x => x.jsonText
  | string s => quoted style.asciiOnly (marks s)
  | unpaired ms => quoted style.asciiOnly ms
  | array items => "[" ++ String.intercalate style.separator (printItems style items) ++ "]"
  | object members =>
      "\x7b" ++ String.intercalate style.separator (printMembers style members) ++ "\x7d"

def printItems (style : Style) : List Json → List String
  | [] => []
  | v :: rest => print style v :: printItems style rest

def printMembers (style : Style) : List (String × Json) → List String
  | [] => []
  | (name, v) :: rest =>
      (quoted style.asciiOnly (marks name) ++ style.colon ++ print style v) ::
        printMembers style rest

end

end Json
end ReviewDesk
