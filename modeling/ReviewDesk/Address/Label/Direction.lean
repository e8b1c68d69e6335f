import ReviewDesk.Text.Combining

/-!
# Direction of writing

A name that holds letters of a script written from right to left, or the digits of one,
has to begin with a letter, keep to one direction, and end in a letter or a number, marks
apart; written from right to left, it may not mix the two kinds of digits.
-/

namespace ReviewDesk
namespace Label

open Text

inductive Direction where
  | leftToRight
  | rightToLeft
  | number
  | arabicNumber
  | neutral
  | mark
  deriving DecidableEq

def directionRuns : List (Nat × Nat × Direction) :=
  [(0x2D, 0x2D, .neutral), (0x30, 0x39, .number), (0xB7, 0xB7, .neutral),
    (0x2B9, 0x2BA, .neutral), (0x2C6, 0x2CF, .neutral), (0x2EC, 0x2EC, .neutral),
    (0x375, 0x375, .neutral), (0x5D0, 0x64A, .rightToLeft), (0x660, 0x669, .arabicNumber),
    (0x66E, 0x6EF, .rightToLeft), (0x6F0, 0x6F9, .number), (0x6FA, 0x8C9, .rightToLeft),
    (0x200C, 0x200D, .neutral), (0x2E2F, 0x2E2F, .neutral), (0x30FB, 0x30FB, .neutral),
    (0xA67F, 0xA67F, .neutral), (0xA717, 0xA71F, .neutral), (0xA788, 0xA788, .neutral),
    (0xFE73, 0xFE73, .rightToLeft), (0x10800, 0x10D23, .rightToLeft),
    (0x10D30, 0x10D39, .arabicNumber), (0x10E80, 0x10FF6, .rightToLeft),
    (0x1E800, 0x1E959, .rightToLeft)]

def direction (c : Char) : Direction :=
  if isPlainMark c then .mark
  else
    match directionRuns.find? fun (first, last, _) => first ≤ c.toNat && c.toNat ≤ last with
    | some (_, _, d) => d
    | none => .leftToRight

/-!
# The rule
-/

def isBidirectional (ds : List Direction) : Bool :=
  ds.any fun d => d = .rightToLeft || d = .arabicNumber

def lastDirection? (ds : List Direction) : Option Direction :=
  ds.reverse.find? (· ≠ .mark)

def fitsRightToLeft (ds : List Direction) : Bool :=
  ds.all (· ≠ .leftToRight) &&
    (lastDirection? ds).any (fun d => d = .rightToLeft || d = .number || d = .arabicNumber) &&
    !(ds.contains .number && ds.contains .arabicNumber)

def fitsLeftToRight (ds : List Direction) : Bool :=
  ds.all (fun d => d ≠ .rightToLeft && d ≠ .arabicNumber) &&
    (lastDirection? ds).any fun d => d = .leftToRight || d = .number

def fitsDirection (cs : List Char) : Bool :=
  let ds := cs.map direction
  if isBidirectional ds then
    match ds.head? with
    | some .rightToLeft => fitsRightToLeft ds
    | some .leftToRight => fitsLeftToRight ds
    | _ => false
  else true

end Label
end ReviewDesk
