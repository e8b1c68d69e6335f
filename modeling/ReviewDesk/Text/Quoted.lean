import ReviewDesk.Text.Percent
import ReviewDesk.Text.Unseen

/-!
# Quoted texts

In reports a list of texts is shown in brackets, each text between single quotes.
Double quotes are used for a text that holds single quotes and no double ones.
Characters that would not show are written by number.
-/

namespace ReviewDesk
namespace Text

def numberedChar (c : Char) : List Char :=
  let n := c.toNat
  if n < 0x100 then "\\x".toList ++ (hexField 2 n).toList
  else if n < 0x10000 then "\\u".toList ++ (hexField 4 n).toList
  else "\\U".toList ++ (hexField 8 n).toList

def quotedChar (quote c : Char) : List Char :=
  match c with
  | '\\' => ['\\', '\\']
  | '\n' => ['\\', 'n']
  | '\r' => ['\\', 'r']
  | '\t' => ['\\', 't']
  | c => if c = quote then ['\\', c] else if isUnseen c then numberedChar c else [c]

def quoteOf (cs : List Char) : Char :=
  if cs.contains '\'' && !cs.contains '"' then '"' else '\''

def quoted (s : String) : String :=
  let cs := s.toList
  let quote := quoteOf cs
  String.ofList (quote :: cs.flatMap (quotedChar quote) ++ [quote])

def quotedList (texts : List String) : String :=
  "[" ++ String.intercalate ", " (texts.map quoted) ++ "]"

end Text
end ReviewDesk
