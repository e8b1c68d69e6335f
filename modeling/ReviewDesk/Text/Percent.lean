import ReviewDesk.Text.Encoding

/-!
# Percent-encoding

Characters that an address cannot hold are written as the bytes of their encoding,
two hexadecimal digits after a percent sign.
-/

namespace ReviewDesk
namespace Text

/-!
# Hexadecimal digits
-/

def hexValue? (c : Char) : Option Nat :=
  if '0' ≤ c && c ≤ '9' then some (c.toNat - '0'.toNat)
  else if 'a' ≤ c && c ≤ 'f' then some (c.toNat - 'a'.toNat + 10)
  else if 'A' ≤ c && c ≤ 'F' then some (c.toNat - 'A'.toNat + 10)
  else none

def hexField (width n : Nat) : String :=
  let ds := Nat.toDigits 16 n
  String.ofList (List.replicate (width - ds.length) '0' ++ ds)

namespace Percent

def upperHexDigit (n : Nat) : Char :=
  (Nat.digitChar n).toUpper

def encodeByte (b : Nat) : List Char :=
  ['%', upperHexDigit (b / 16), upperHexDigit (b % 16)]

def encodeChar (c : Char) : List Char :=
  (utf8Bytes (String.singleton c)).flatMap encodeByte

/-!
# Encoding

Escapes that are already there stay as they are.
-/

def encodeList (safe : Char → Bool) : List Char → List Char
  | [] => []
  | '%' :: a :: b :: rest =>
      if (hexValue? a).isSome && (hexValue? b).isSome then
        '%' :: a :: b :: encodeList safe rest
      else (if safe '%' then ['%'] else encodeByte 0x25) ++ encodeList safe (a :: b :: rest)
  | c :: rest => (if safe c then [c] else encodeChar c) ++ encodeList safe rest

def encode (safe : Char → Bool) (s : String) : String :=
  String.ofList (encodeList safe s.toList)

/-!
# Decoding
-/

def decodeBytes : List Char → List Nat
  | [] => []
  | '%' :: a :: b :: rest =>
      match hexValue? a, hexValue? b with
      | some x, some y => (x * 16 + y) :: decodeBytes rest
      | _, _ => 0x25 :: decodeBytes (a :: b :: rest)
  | c :: rest => utf8Bytes (String.singleton c) ++ decodeBytes rest

def decode (s : String) : String :=
  utf8Lenient (decodeBytes s.toList)

end Percent
end Text
end ReviewDesk
