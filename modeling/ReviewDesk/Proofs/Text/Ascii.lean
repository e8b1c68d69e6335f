import Mathlib.Data.List.TakeWhile
import ReviewDesk.Text.Misfit
import ReviewDesk.Text.Percent

/-!
# Texts in ASCII

A character of ASCII is one byte, and that byte is read as the same character.  Such a text
comes through every step of the encodings unchanged, as long as it holds no percent sign.
-/

namespace ReviewDesk
namespace Text

variable {c : Char} {cs : List Char} {s : String}

def IsAscii (cs : List Char) : Prop :=
  ∀ c ∈ cs, c.toNat < 128

instance : DecidablePred IsAscii := List.decidableBAll fun c : Char => c.toNat < 128

theorem IsAscii.of_cons (h : IsAscii (c :: cs)) : c.toNat < 128 ∧ IsAscii cs :=
  List.forall_mem_cons.mp h

theorem IsAscii.append {more : List Char} (h : IsAscii cs) (hmore : IsAscii more) :
    IsAscii (cs ++ more) :=
  List.forall_mem_append.mpr ⟨h, hmore⟩

/-!
# Bytes
-/

theorem start?_ascii {b : Nat} (h : b < 128) (halves : Bool) :
    Sequence.start? halves b = some ⟨b, 0, 0x80, 0xBF⟩ := by
  rw [Sequence.start?, if_pos (by omega)]

theorem utf8LenientFrom_ascii (h : IsAscii cs) :
    utf8LenientFrom none (cs.map Char.toNat) = cs := by
  induction cs with
  | nil => rfl
  | cons c cs ih =>
      rcases h.of_cons with ⟨hc, hcs⟩
      have hbegin : begin c.toNat = ([c], none) := by
        simp [begin, start?_ascii hc]
      rw [List.map_cons, utf8LenientFrom, hbegin]
      exact congrArg (c :: ·) (ih hcs)

theorem utf8Lenient_ascii (h : IsAscii s.toList) : utf8Lenient (s.toList.map Char.toNat) = s := by
  rw [utf8Lenient, utf8LenientFrom_ascii h, String.ofList_toList]

theorem find?_ascii (h : IsAscii cs) (position first count : Nat) :
    BrokenSequence.find? position first count none (cs.map Char.toNat) = none := by
  induction cs generalizing position with
  | nil => rfl
  | cons c cs ih =>
      rcases h.of_cons with ⟨hc, hcs⟩
      rw [List.map_cons, BrokenSequence.find?, start?_ascii hc]
      exact ih hcs (position + 1)

theorem brokenBytes?_ascii (h : IsAscii cs) : brokenBytes? (cs.map Char.toNat) = none :=
  find?_ascii h 0 0 0

theorem misfit?_of_fits {limit : Nat} (h : ∀ c ∈ cs, c.toNat < limit) (code : String) :
    misfit? code limit cs = none := by
  have hnone : cs.dropWhile (fun c => decide (c.toNat < limit)) = [] := by
    rw [List.dropWhile_eq_nil_iff]
    intro c hc
    simpa using h c hc
  simp [misfit?, hnone]

/-!
# Encoding
-/

theorem toList_loop (bytes : ByteArray) (i : Nat) (read : List UInt8) :
    ByteArray.toList.loop bytes i read = read.reverse ++ bytes.data.toList.drop i := by
  induction i, read using ByteArray.toList.loop.induct bytes with
  | case1 i read hmore ih =>
      have hi : i < bytes.data.size := hmore
      have hnext : bytes.get! i = bytes.data.toList[i] := getElem!_pos bytes.data i hi
      rw [ByteArray.toList.loop, if_pos hmore, ih, List.reverse_cons, hnext, List.append_assoc,
        List.singleton_append, ← List.drop_eq_getElem_cons]
  | case2 i read hend =>
      have hi : bytes.data.toList.length ≤ i := Nat.not_lt.mp hend
      rw [ByteArray.toList.loop, if_neg hend, List.drop_eq_nil_of_le hi, List.append_nil]

theorem toList_toByteArray (bytes : List UInt8) : bytes.toByteArray.toList = bytes := by
  rw [ByteArray.toList, toList_loop, List.toList_data_toByteArray]
  rfl

theorem flatMap_utf8EncodeChar_ascii (h : IsAscii cs) :
    cs.flatMap String.utf8EncodeChar = cs.map Char.toUInt8 := by
  induction cs with
  | nil => rfl
  | cons c cs ih =>
      rcases h.of_cons with ⟨hc, hcs⟩
      have hsize : c.utf8Size = 1 := by
        rw [Char.utf8Size_eq_one_iff, UInt32.le_iff_toNat_le]
        exact Nat.le_of_lt_succ hc
      rw [List.flatMap_cons, String.utf8EncodeChar_eq_singleton hsize, ih hcs]
      rfl

theorem utf8Bytes_ascii (h : IsAscii s.toList) : utf8Bytes s = s.toList.map Char.toNat := by
  rw [utf8Bytes, String.toUTF8_eq_toByteArray, ← String.utf8Encode_toList, List.utf8Encode,
    toList_toByteArray, flatMap_utf8EncodeChar_ascii h, List.map_map]
  apply List.map_congr_left
  intro c hc
  have hbyte : c.val.toUInt8.toNat = c.toNat := by
    rw [UInt32.toNat_toUInt8]
    exact Nat.mod_eq_of_lt (Nat.lt_trans (h c hc) (by decide))
  exact hbyte

/-!
# Percent-encoding
-/

theorem decodeBytes_ascii (h : IsAscii cs) (hpercent : '%' ∉ cs) :
    Percent.decodeBytes cs = cs.map Char.toNat := by
  induction cs with
  | nil => rfl
  | cons c cs ih =>
      rcases h.of_cons with ⟨hc, hcs⟩
      rw [List.mem_cons, not_or] at hpercent
      have hbyte : utf8Bytes (String.singleton c) = [c.toNat] := by
        rw [utf8Bytes_ascii (by simpa [IsAscii] using hc), String.toList_singleton,
          List.map_singleton]
      rw [Percent.decodeBytes.eq_3 c cs fun _ _ _ hsign _ => hpercent.left hsign.symm, hbyte,
        ih hcs hpercent.right, List.map_cons, List.singleton_append]

theorem decode_ascii (h : IsAscii s.toList) (hpercent : '%' ∉ s.toList) :
    Percent.decode s = s := by
  rw [Percent.decode, decodeBytes_ascii h hpercent, utf8Lenient_ascii h]

theorem encodeList_of_safe {safe : Char → Bool} (h : ∀ c ∈ cs, safe c = true)
    (hpercent : '%' ∉ cs) : Percent.encodeList safe cs = cs := by
  induction cs with
  | nil => rfl
  | cons c cs ih =>
      rcases List.forall_mem_cons.mp h with ⟨hc, hcs⟩
      rw [List.mem_cons, not_or] at hpercent
      rw [Percent.encodeList.eq_3 safe c cs fun _ _ _ hsign _ => hpercent.left hsign.symm,
        if_pos hc, ih hcs hpercent.right, List.singleton_append]

end Text
end ReviewDesk
