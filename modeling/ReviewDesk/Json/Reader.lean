import ReviewDesk.Json.Basic
import ReviewDesk.Number.Integer
import ReviewDesk.Text.Percent

/-!
# Reading JSON

A document is read from left to right.  When it is not JSON, the reader tells the
position of the first mark that cannot be right; a string that never ends is
reported where it begins.  The names `NaN`, `Infinity` and `-Infinity` are read as
numbers, and whole numbers of more than 4300 digits are refused, and so are arrays and
objects within more of them than there is room for.
-/

namespace ReviewDesk
namespace Json

open Text

inductive ReadFailure where
  | malformed (position : Nat)
  | oversized
  | tooDeep
  deriving DecidableEq

structure Cursor where
  position : Nat
  rest : List Mark

abbrev Taken (α : Type) := α × Cursor

/-!
# Blanks and names
-/

def isGap (m : Mark) : Bool :=
  m == .char ' ' || m == .char '\t' || m == .char '\n' || m == .char '\r'

def Cursor.skipGap (c : Cursor) : Cursor :=
  let gap := c.rest.takeWhile isGap
  ⟨c.position + gap.length, c.rest.dropWhile isGap⟩

def Cursor.advance (c : Cursor) (n : Nat) : Cursor :=
  ⟨c.position + n, c.rest.drop n⟩

def Cursor.isAt (c : Cursor) (ch : Char) : Bool :=
  c.rest.head? == some (.char ch)

def literals : List (String × Json) :=
  [("null", null), ("true", bool true), ("false", bool false), ("NaN", double .nan),
    ("Infinity", double (.infinite false)), ("-Infinity", double (.infinite true))]

def literal? (c : Cursor) : Option (Json × Cursor) :=
  (literals.find? fun (name, _) => (marks name).isPrefixOf c.rest).map fun (name, v) =>
    (v, c.advance name.length)

/-!
# Strings
-/

def hexUnit? : List Mark → Option Nat
  | .char a :: .char b :: .char c :: .char d :: _ => do
      let w ← hexValue? a
      let x ← hexValue? b
      let y ← hexValue? c
      let z ← hexValue? d
      return ((w * 16 + x) * 16 + y) * 16 + z
  | _ => none

def simpleEscape? : Mark → Option Char
  | .char '"' => some '"'
  | .char '\\' => some '\\'
  | .char '/' => some '/'
  | .char 'b' => some '\x08'
  | .char 'f' => some '\x0c'
  | .char 'n' => some '\n'
  | .char 'r' => some '\r'
  | .char 't' => some '\t'
  | _ => none

/-- The low half written right after a high half, if there is one.  The escape must
not be the last thing in the document. -/
def lowHalf? (position : Nat) (ms : List Mark) : Except ReadFailure (Option Nat) :=
  match ms with
  | .char '\\' :: .char 'u' :: digits =>
      if (digits.drop 4).isEmpty then .ok none
      else
        match hexUnit? digits with
        | none => .error (.malformed (position + 1))
        | some low => .ok (if Mark.isLowHalf low then some low else none)
  | _ => .ok none

/-- One escape by number; `position` is that of the letter `u`, and `ms` begins after
it. -/
def numberedEscape (position : Nat) (ms : List Mark) : Except ReadFailure (Taken Mark) :=
  if (ms.drop 4).isEmpty then .error (.malformed position)
  else
    match hexUnit? ms with
    | none => .error (.malformed position)
    | some unit =>
        if Mark.isHighHalf unit then do
          match ← lowHalf? (position + 5) (ms.drop 4) with
          | some low =>
              return (Mark.ofPoint (Mark.joinHalves unit low), ⟨position + 11, ms.drop 10⟩)
          | none => return (Mark.ofPoint unit, ⟨position + 5, ms.drop 4⟩)
        else .ok (Mark.ofPoint unit, ⟨position + 5, ms.drop 4⟩)

def stringFrom (opening : Nat) : Nat → Cursor → List Mark → Except ReadFailure (Taken (List Mark))
  | 0, _, _ => .error (.malformed opening)
  | fuel + 1, c, read =>
      match c.rest with
      | [] => .error (.malformed opening)
      | .char '"' :: rest => .ok (read.reverse, ⟨c.position + 1, rest⟩)
      | [.char '\\'] => .error (.malformed opening)
      | .char '\\' :: .char 'u' :: rest => do
          let (m, c) ← numberedEscape (c.position + 1) rest
          stringFrom opening fuel c (m :: read)
      | .char '\\' :: m :: rest =>
          match simpleEscape? m with
          | some ch => stringFrom opening fuel ⟨c.position + 2, rest⟩ (.char ch :: read)
          | none => .error (.malformed c.position)
      | m :: rest =>
          if (m.char?.map fun ch => decide (ch.toNat < 0x20)).getD false then
            .error (.malformed c.position)
          else stringFrom opening fuel ⟨c.position + 1, rest⟩ (m :: read)

def quotedFrom (c : Cursor) : Except ReadFailure (Taken (List Mark)) :=
  stringFrom c.position c.rest.length (c.advance 1) []

/-!
# Numbers
-/

def digit? : Mark → Option Char
  | .char c => if '0' ≤ c && c ≤ '9' then some c else none
  | .half _ => none

def digitRun (ms : List Mark) : List Char :=
  (ms.takeWhile fun m => (digit? m).isSome).filterMap digit?

def value (digits : List Char) : Nat :=
  Nat.ofDigitChars 10 digits 0

def wholeRun (ms : List Mark) : List Char :=
  match ms with
  | .char '0' :: _ => ['0']
  | _ => digitRun ms

def fractionRun (ms : List Mark) : List Char :=
  match ms with
  | .char '.' :: rest => digitRun rest
  | _ => []

def powerRun (ms : List Mark) : Option (Int × Nat) :=
  let signed (rest : List Mark) : Option (Int × Nat) :=
    let (negative, sign, digits) := match rest with
      | .char '-' :: more => (true, 1, digitRun more)
      | .char '+' :: more => (false, 1, digitRun more)
      | _ => (false, 0, digitRun rest)
    if digits.isEmpty then none
    else some (if negative then -(value digits : Int) else value digits, 1 + sign + digits.length)
  match ms with
  | .char 'e' :: rest => signed rest
  | .char 'E' :: rest => signed rest
  | _ => none

def numberFrom (c : Cursor) : Except ReadFailure (Taken Json) :=
  let negative := c.isAt '-'
  let body := if negative then c.advance 1 else c
  let whole := wholeRun body.rest
  if whole.isEmpty then .error (.malformed c.position)
  else
    let afterWhole := body.advance whole.length
    let fraction := fractionRun afterWhole.rest
    let afterFraction :=
      if fraction.isEmpty then afterWhole else afterWhole.advance (1 + fraction.length)
    match fraction, powerRun afterFraction.rest with
    | [], none =>
        if Integer.maxDigits < whole.length then .error .oversized
        else
          let n : Int := value whole
          .ok (int (if negative then -n else n), afterFraction)
    | _, power =>
        let (e, length) := power.getD (0, 0)
        .ok (double (.ofScientific negative (value (whole ++ fraction)) (e - fraction.length)),
          afterFraction.advance length)

/-!
# Values

The fuel bounds the number of values, members and closing brackets still to come;
each of them takes a mark of the document.  The room is the number of arrays and objects
that may still be entered, one within the other.
-/

mutual

def valueFrom : Nat → Nat → Cursor → Except ReadFailure (Taken Json)
  | 0, _, c => .error (.malformed c.position)
  | fuel + 1, room, c =>
      match c.rest with
      | .char '"' :: _ => do
          let (ms, c) ← quotedFrom c
          return (ofMarks ms, c)
      | .char '[' :: _ =>
          let c := (c.advance 1).skipGap
          if room = 0 then .error .tooDeep
          else if c.isAt ']' then .ok (array [], c.advance 1)
          else itemsFrom fuel (room - 1) c []
      | .char '\x7b' :: _ =>
          let c := (c.advance 1).skipGap
          if room = 0 then .error .tooDeep
          else if c.isAt '\x7d' then .ok (object [], c.advance 1)
          else membersFrom fuel (room - 1) c []
      | _ =>
          match literal? c with
          | some found => .ok found
          | none => numberFrom c

def itemsFrom : Nat → Nat → Cursor → List Json → Except ReadFailure (Taken Json)
  | 0, _, c, _ => .error (.malformed c.position)
  | fuel + 1, room, c, read => do
      let (v, c) ← valueFrom fuel room c
      let c := c.skipGap
      if c.isAt ']' then .ok (array (v :: read).reverse, c.advance 1)
      else if c.isAt ',' then itemsFrom fuel room (c.advance 1).skipGap (v :: read)
      else .error (.malformed c.position)

def membersFrom : Nat → Nat → Cursor → List (String × Json) → Except ReadFailure (Taken Json)
  | 0, _, c, _ => .error (.malformed c.position)
  | fuel + 1, room, c, read => do
      if !c.isAt '"' then .error (.malformed c.position)
      let (name, c) ← quotedFrom c
      let c := c.skipGap
      if !c.isAt ':' then .error (.malformed c.position)
      let (v, c) ← valueFrom fuel room (c.advance 1).skipGap
      let members := match text? name with
        | some name => setMember name v read
        | none => read
      let c := c.skipGap
      if c.isAt '\x7d' then .ok (object members, c.advance 1)
      else if c.isAt ',' then membersFrom fuel room (c.advance 1).skipGap members
      else .error (.malformed c.position)

end

/-!
# Documents

The interpreter lets a thousand calls be open within one another.  Each array and object that
is being read is one of them, and the calls that have led to the reader are the others.  How
many these are depends on how the program is run; each reader has the number of a usual run.
-/

def maxOpenCalls : Nat := 1000

def roomAfter (calls : Nat) : Nat :=
  maxOpenCalls - calls

def readMarks (ms : List Mark) (room : Nat := ms.length) : Except ReadFailure Json := do
  let (v, c) ← valueFrom (2 * ms.length + 2) room (Cursor.skipGap ⟨0, ms⟩)
  let c := c.skipGap
  if c.rest.isEmpty then return v else .error (.malformed c.position)

def read (s : String) (room : Nat := s.length) : Except ReadFailure Json :=
  readMarks (marks s) room

inductive DocumentFailure where
  | encoding
  | content (failure : ReadFailure)
  deriving DecidableEq

def readBytes (bytes : List Nat) (room : Nat := bytes.length) : Except DocumentFailure Json :=
  match decode? bytes with
  | none => .error .encoding
  | some ms => (readMarks ms room).mapError .content

end Json
end ReviewDesk
