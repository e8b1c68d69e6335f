import ReviewDesk.Text.Encoding
import ReviewDesk.Text.Quoted

/-!
# Texts that do not fit

A text does not fit an encoding that has no byte for one of its characters, and bytes may
be no text at all.  The report names the first place where that is so.
-/

namespace ReviewDesk
namespace Text

/-!
# Characters without a byte
-/

def misfitText (code what place : String) (limit : Nat) : String :=
  "'" ++ code ++ "' codec can't encode " ++ what ++ " in position " ++ place ++
    s!": ordinal not in range({limit})"

def misfit? (code : String) (limit : Nat) (cs : List Char) : Option String :=
  let fits (c : Char) : Bool := c.toNat < limit
  let first := (cs.takeWhile fits).length
  match (cs.dropWhile fits).takeWhile fun c => !fits c with
  | [] => none
  | [c] =>
      some (misfitText code ("character '" ++ String.ofList (numberedChar c) ++ "'")
        (toString first) limit)
  | run => some (misfitText code "characters" s!"{first}-{first + run.length - 1}" limit)

/-!
# Bytes without a text
-/

inductive ByteFault where
  | start
  | continuation
  | ending
  deriving DecidableEq

def ByteFault.text : ByteFault → String
  | start => "invalid start byte"
  | continuation => "invalid continuation byte"
  | ending => "unexpected end of data"

structure BrokenSequence where
  position : Nat
  first : Nat
  count : Nat
  fault : ByteFault
  deriving DecidableEq

namespace BrokenSequence

/-- Looks for the first broken sequence; `seen` is the sequence that has been begun, and
`count` the number of its bytes. -/
def find? (position first count : Nat) : Option Sequence → List Nat → Option BrokenSequence
  | none, [] => none
  | some _, [] => some ⟨position, first, count, .ending⟩
  | none, b :: bs =>
      match Sequence.start? false b with
      | none => some ⟨position, b, 1, .start⟩
      | some s =>
          if s.owed = 0 then find? (position + 1) first count none bs
          else find? position b 1 (some s) bs
  | some s, b :: bs =>
      match s.more? b with
      | none => some ⟨position, first, count, .continuation⟩
      | some s =>
          if s.owed = 0 then find? (position + count + 1) first 0 none bs
          else find? position first (count + 1) (some s) bs

def place (s : BrokenSequence) : String :=
  if s.count = 1 then "byte 0x" ++ hexField 2 s.first ++ " in position " ++ toString s.position
  else s!"bytes in position {s.position}-{s.position + s.count - 1}"

def text (s : BrokenSequence) : String :=
  "'utf-8' codec can't decode " ++ s.place ++ ": " ++ s.fault.text

end BrokenSequence

def brokenBytes? (bytes : List Nat) : Option BrokenSequence :=
  BrokenSequence.find? 0 0 0 none bytes

end Text
end ReviewDesk
