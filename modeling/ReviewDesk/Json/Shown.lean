import ReviewDesk.Fault
import ReviewDesk.Json.Basic
import ReviewDesk.Number.Integer
import ReviewDesk.Number.Shortest
import ReviewDesk.Text.Quoted

/-!
# Values in sentences

A value that is mentioned in a sentence is shown as it is if it is a text, and within
brackets with its texts in quotes.  A sentence is broken off by a whole number that has
too many digits to be written, at whatever depth it stands.  The depth itself never breaks
it off: a value has been read before it is shown, and reading takes more calls.
-/

namespace ReviewDesk
namespace Json

open Text

def quotedMark (quote : Char) : Mark → List Char
  | .char c => quotedChar quote c
  | .half unit => "\\u".toList ++ (hexField 4 unit).toList

def quotedMarks (ms : List Mark) : String :=
  let quote := quoteOf (ms.filterMap Mark.char?)
  String.ofList (quote :: ms.flatMap (quotedMark quote) ++ [quote])

mutual

def mention : Json → String
  | null => "None"
  | bool b => if b then "True" else "False"
  | int n => toString n
  | double x => x.text
  | string s => quotedMarks (marks s)
  | unpaired ms => quotedMarks ms
  | array items => "[" ++ String.intercalate ", " (mentionItems items) ++ "]"
  | object members =>
      "\x7b" ++ String.intercalate ", " (mentionMembers members) ++ "\x7d"

def mentionItems : List Json → List String
  | [] => []
  | v :: rest => mention v :: mentionItems rest

def mentionMembers : List (String × Json) → List String
  | [] => []
  | (name, v) :: rest =>
      (quotedMarks (marks name) ++ ": " ++ mention v) :: mentionMembers rest

end

def shown : Json → String
  | string s => s
  | v => v.mention

/-!
# Whole numbers that are too long
-/

mutual

def isWritable : Json → Bool
  | int n => Integer.isWritable n
  | array items => areWritable items
  | object members => haveWritable members
  | _ => true

def areWritable : List Json → Bool
  | [] => true
  | v :: rest => isWritable v && areWritable rest

def haveWritable : List (String × Json) → Bool
  | [] => true
  | (_, v) :: rest => isWritable v && haveWritable rest

end

def tooLong : String :=
  s!"Exceeds the limit ({Integer.maxDigits} digits) for integer string conversion; " ++
    "use sys.set_int_max_str_digits() to increase the limit"

/-- The value as a sentence of a message or of the log mentions it. -/
def written (v : Json) : Except Fault String :=
  if v.isWritable then .ok v.shown else .error (.badValue tooLong)

end Json
end ReviewDesk
