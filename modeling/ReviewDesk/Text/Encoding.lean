import ReviewDesk.Text.Mark

/-!
# Encoded texts

A document arrives as bytes in one of the Unicode encoding forms.  Which one is told
by a byte order mark or by the zero bytes that an ASCII beginning leaves in the wide
forms.  Halves of surrogate pairs that stand alone are let through.
-/

namespace ReviewDesk
namespace Text

/-!
# The eight-bit form

A sequence is a lead byte and the continuation bytes that it owes; the first of
them may be bound to a narrower range.
-/

structure Sequence where
  value : Nat
  owed : Nat
  low : Nat
  high : Nat

namespace Sequence

def start? (halves : Bool) (b : Nat) : Option Sequence :=
  if b ≤ 0x7F then some ⟨b, 0, 0x80, 0xBF⟩
  else if b ≤ 0xC1 then none
  else if b ≤ 0xDF then some ⟨b - 0xC0, 1, 0x80, 0xBF⟩
  else if b = 0xE0 then some ⟨0, 2, 0xA0, 0xBF⟩
  else if b = 0xED then some ⟨0xD, 2, 0x80, if halves then 0xBF else 0x9F⟩
  else if b ≤ 0xEF then some ⟨b - 0xE0, 2, 0x80, 0xBF⟩
  else if b = 0xF0 then some ⟨0, 3, 0x90, 0xBF⟩
  else if b ≤ 0xF3 then some ⟨b - 0xF0, 3, 0x80, 0xBF⟩
  else if b = 0xF4 then some ⟨4, 3, 0x80, 0x8F⟩
  else none

def more? (s : Sequence) (b : Nat) : Option Sequence :=
  if s.low ≤ b && b ≤ s.high then some ⟨s.value * 64 + (b - 0x80), s.owed - 1, 0x80, 0xBF⟩
  else none

end Sequence

def utf8From? : Option Sequence → List Nat → Option (List Mark)
  | none, [] => some []
  | some _, [] => none
  | open?, b :: bs =>
      let next? := match open? with
        | none => Sequence.start? true b
        | some s => s.more? b
      match next? with
      | none => none
      | some s =>
          if s.owed = 0 then (utf8From? none bs).map (Mark.ofPoint s.value :: ·)
          else utf8From? (some s) bs

def utf8? (bytes : List Nat) : Option (List Mark) :=
  utf8From? none bytes

/-!
# Reading whatever the bytes are

Each broken sequence is read as one replacement character.
-/

def replacement : Char := Char.ofNat 0xFFFD

def begin (b : Nat) : List Char × Option Sequence :=
  match Sequence.start? false b with
  | none => ([replacement], none)
  | some s => if s.owed = 0 then ([Char.ofNat s.value], none) else ([], some s)

def utf8LenientFrom : Option Sequence → List Nat → List Char
  | none, [] => []
  | some _, [] => [replacement]
  | none, b :: bs =>
      let (cs, next) := begin b
      cs ++ utf8LenientFrom next bs
  | some s, b :: bs =>
      match s.more? b with
      | some s =>
          if s.owed = 0 then Char.ofNat s.value :: utf8LenientFrom none bs
          else utf8LenientFrom (some s) bs
      | none =>
          let (cs, next) := begin b
          replacement :: cs ++ utf8LenientFrom next bs

def utf8Lenient (bytes : List Nat) : String :=
  String.ofList (utf8LenientFrom none bytes)

/-!
# The wide forms
-/

inductive ByteOrder where
  | big
  | little

def ByteOrder.unit (order : ByteOrder) (bytes : List Nat) : Nat :=
  let ordered := match order with
    | big => bytes
    | little => bytes.reverse
  ordered.foldl (fun n b => n * 256 + b) 0

def units16? (order : ByteOrder) : List Nat → Option (List Nat)
  | [] => some []
  | a :: b :: rest => (units16? order rest).map (order.unit [a, b] :: ·)
  | _ => none

def joinUnits : List Nat → List Mark
  | [] => []
  | high :: low :: rest =>
      if Mark.isHighHalf high && Mark.isLowHalf low then
        Mark.ofPoint (Mark.joinHalves high low) :: joinUnits rest
      else Mark.ofPoint high :: joinUnits (low :: rest)
  | [unit] => [Mark.ofPoint unit]

def utf16? (order : ByteOrder) (bytes : List Nat) : Option (List Mark) :=
  (units16? order bytes).map joinUnits

def utf32? (order : ByteOrder) : List Nat → Option (List Mark)
  | [] => some []
  | a :: b :: c :: d :: rest =>
      let n := order.unit [a, b, c, d]
      if n ≤ 0x10FFFF then (utf32? order rest).map (Mark.ofPoint n :: ·) else none
  | _ => none

/-!
# Detection
-/

def decodeUnmarked? (bytes : List Nat) : Option (List Mark) :=
  match bytes with
  | a :: b :: c :: d :: _ =>
      if a = 0 then (if b = 0 then utf32? .big bytes else utf16? .big bytes)
      else if b = 0 then (if c = 0 && d = 0 then utf32? .little bytes else utf16? .little bytes)
      else utf8? bytes
  | [a, b] =>
      if a = 0 then utf16? .big bytes
      else if b = 0 then utf16? .little bytes
      else utf8? bytes
  | _ => utf8? bytes

def decode? (bytes : List Nat) : Option (List Mark) :=
  match bytes with
  | 0x00 :: 0x00 :: 0xFE :: 0xFF :: rest => utf32? .big rest
  | 0xFF :: 0xFE :: 0x00 :: 0x00 :: rest => utf32? .little rest
  | 0xFE :: 0xFF :: rest => utf16? .big rest
  | 0xFF :: 0xFE :: rest => utf16? .little rest
  | 0xEF :: 0xBB :: 0xBF :: rest => utf8? rest
  | _ => decodeUnmarked? bytes

def utf8Bytes (s : String) : List Nat :=
  s.toUTF8.toList.map UInt8.toNat

end Text
end ReviewDesk
