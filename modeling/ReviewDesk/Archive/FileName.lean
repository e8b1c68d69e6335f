import ReviewDesk.Text.Blank

/-!
# File names in the archive

A review is archived as a Markdown file named after its title.  The name keeps
ASCII letters and digits, Hangul syllables, Chinese characters, underscores and
hyphens; each run of blanks becomes one hyphen.
-/

namespace ReviewDesk
namespace FileName

open Text

/-!
# Characters
-/

def isAllowed (c : Char) : Bool :=
  let n := c.toNat
  ('0' ≤ c && c ≤ '9') || ('A' ≤ c && c ≤ 'Z') || ('a' ≤ c && c ≤ 'z') ||
    (0xAC00 ≤ n && n ≤ 0xD7A3) || (0x4E00 ≤ n && n ≤ 0x9FA5) || c == '_' || c == '-'

/-!
# The parts of a name
-/

def extensions : List (List Char) :=
  [".md".toList, ".mD".toList, ".Md".toList, ".MD".toList]

def dropExtension (cs : List Char) : List Char :=
  if extensions.any (·.isSuffixOf cs) then cs.take (cs.length - 3) else cs

/-- Writes each run of blanks as one hyphen; `inside` tells whether the character
before the text was blank. -/
def joinWords : Bool → List Char → List Char
  | _, [] => []
  | inside, c :: cs =>
      if isBlank c then (if inside then [] else ['-']) ++ joinWords true cs
      else c :: joinWords false cs

def slug (title : List Char) : List Char :=
  (joinWords false (dropExtension (trim isBlank title))).filter isAllowed

def fallback : List Char :=
  "review".toList

def ofTitleList (title : List Char) : List Char :=
  let name := slug title
  (if name.isEmpty then fallback else name) ++ ".md".toList

def ofTitle (title : String) : String :=
  String.ofList (ofTitleList title.toList)

end FileName
end ReviewDesk
