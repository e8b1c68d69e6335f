import ReviewDesk.Text.Mark

/-!
# Blank characters

Texts that people type come with stray space around them.  This module says
which characters are blank and takes the blank ends off a text.
-/

namespace ReviewDesk
namespace Text

/-!
# The class of blank characters

The space, the line and field separators of the control area, the no-break
spaces, and every other character that Unicode counts as a separator of words
or lines.  The zero-width space and the byte order mark are not blank.
-/

def isBlank (c : Char) : Bool :=
  let n := c.toNat
  (0x09 ≤ n && n ≤ 0x0D) || (0x1C ≤ n && n ≤ 0x20) || n == 0x85 || n == 0xA0 ||
    n == 0x1680 || (0x2000 ≤ n && n ≤ 0x200A) || n == 0x2028 || n == 0x2029 ||
    n == 0x202F || n == 0x205F || n == 0x3000

/-- Whitespace as the Unicode property has it, which leaves out the four
information separators. -/
def isWhiteSpace (c : Char) : Bool :=
  isBlank c && !(0x1C ≤ c.toNat && c.toNat ≤ 0x1F)

def Mark.isBlank (m : Mark) : Bool :=
  m.char?.any Text.isBlank

/-!
# Trimming

The ends that are taken off are blank in one sense or another: for readers of numbers the
information separators are not.
-/

variable {α : Type} (blank : α → Bool)

def trimStart (cs : List α) : List α :=
  cs.dropWhile blank

def trimEnd (cs : List α) : List α :=
  (cs.reverse.dropWhile blank).reverse

def trim (cs : List α) : List α :=
  trimEnd blank (trimStart blank cs)

def trimmed (s : String) : String :=
  String.ofList (trim isBlank s.toList)

def isBlankText (s : String) : Bool :=
  s.toList.all isBlank

end Text
end ReviewDesk
