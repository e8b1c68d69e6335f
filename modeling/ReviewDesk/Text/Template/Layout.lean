import ReviewDesk.Text.Digit
import ReviewDesk.Text.Template.Place

/-!
# Layouts

A layout is a character to fill up with and a side, a width, and the number of
characters to keep, each of which may be left out.
-/

namespace ReviewDesk
namespace Text
namespace Template

/-!
# Numbers

Numbers are written in digits of any script and have to fit in sixty-three bits.
-/

def maxNumber : Nat := 9223372036854775807

def numberFrom : Nat → List Char → Except TemplateFault (Nat × List Char)
  | n, [] => .ok (n, [])
  | n, c :: cs =>
      match digitValue? c with
      | none => .ok (n, c :: cs)
      | some d =>
          if maxNumber < n * 10 + d then .error .malformed else numberFrom (n * 10 + d) cs

/-!
# Reading a layout
-/

inductive Side where
  | left
  | right
  | center
  deriving DecidableEq

structure Layout where
  fill : Char
  side : Side
  width : Nat
  kept : Option Nat
  deriving DecidableEq

def side? : Char → Option Side
  | '<' => some .left
  | '>' => some .right
  | '^' => some .center
  | _ => none

def filling (cs : List Char) : Option Char × Side × List Char :=
  match cs with
  | c :: d :: rest =>
      match side? d, side? c with
      | some side, _ => (some c, side, rest)
      | none, some side => (none, side, d :: rest)
      | none, none => (none, .left, cs)
  | [c] =>
      match side? c with
      | some side => (none, side, [])
      | none => (none, .left, cs)
  | [] => (none, .left, [])

def zeroFilling (fill : Option Char) (cs : List Char) : Char :=
  fill.getD (if cs.head? = some '0' then '0' else ' ')

def keptFrom : List Char → Except TemplateFault (Option Nat × List Char)
  | '.' :: c :: cs =>
      if (digitValue? c).isSome then do
        let (n, rest) ← numberFrom 0 (c :: cs)
        return (some n, rest)
      else .error .malformed
  | cs => .ok (none, cs)

def layout (cs : List Char) : Except TemplateFault Layout := do
  let (fill, side, cs) := filling cs
  let (width, rest) ← numberFrom 0 cs
  let (kept, rest) ← keptFrom rest
  if rest = [] || rest = ['s'] then return ⟨zeroFilling fill cs, side, width, kept⟩
  else .error .malformed

/-!
# Laying out a text

No text of more than `readWidth` characters is of any use, so that a wider one is cut
there; one that no memory could hold is refused.
-/

def readWidth : Nat := 70000
def maxWidth : Nat := 10000000000

def padded (fill : Char) (side : Side) (missing : Nat) (cs : List Char) : List Char :=
  match side with
  | .left => cs ++ List.replicate missing fill
  | .right => List.replicate missing fill ++ cs
  | .center =>
      List.replicate (missing / 2) fill ++ cs ++ List.replicate (missing - missing / 2) fill

def Layout.write (l : Layout) (value : List Char) : Except TemplateFault (List Char) :=
  let shown := value.take (l.kept.getD value.length)
  if maxWidth ≤ l.width then .error .tooWide
  else .ok (padded l.fill l.side (min l.width readWidth - shown.length) shown)

def laidOut (cs value : List Char) : Except TemplateFault (List Char) := do
  (← layout cs).write value

end Template
end Text
end ReviewDesk
