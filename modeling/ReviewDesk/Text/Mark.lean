/-!
# Marks

A decoded text may hold halves of surrogate pairs that stand alone.  They are no
characters, so such a text is a list of marks, and becomes a string only when every
mark is a character.  A string stands for the list of its characters wherever marks
are asked for.
-/

namespace ReviewDesk
namespace Text

inductive Mark where
  | char (c : Char)
  | half (unit : Nat)
  deriving DecidableEq

namespace Mark

def isHalf (n : Nat) : Bool :=
  0xD800 ≤ n && n ≤ 0xDFFF

def isHighHalf (n : Nat) : Bool :=
  0xD800 ≤ n && n ≤ 0xDBFF

def isLowHalf (n : Nat) : Bool :=
  0xDC00 ≤ n && n ≤ 0xDFFF

def joinHalves (high low : Nat) : Nat :=
  0x10000 + (high - 0xD800) * 0x400 + (low - 0xDC00)

def ofPoint (n : Nat) : Mark :=
  if isHalf n then half n else char (Char.ofNat n)

def char? : Mark → Option Char
  | char c => some c
  | half _ => none

end Mark

def marks (s : String) : List Mark :=
  s.toList.map Mark.char

def text? (ms : List Mark) : Option String :=
  (ms.mapM Mark.char?).map String.ofList

instance : Coe String (List Mark) := ⟨marks⟩

theorem text?_marks (s : String) : text? (marks s) = some s := by
  have h : ∀ cs : List Char, (cs.map Mark.char).mapM Mark.char? = some cs := by
    intro cs
    induction cs with
    | nil => rfl
    | cons c cs ih => simp [List.mapM_cons, Mark.char?, ih]
  simp [text?, marks, h]

theorem marks_of_text? {ms : List Mark} {s : String} (h : text? ms = some s) : marks s = ms := by
  have hmarks : ∀ (ms : List Mark) (cs : List Char),
      ms.mapM Mark.char? = some cs → cs.map Mark.char = ms := by
    intro ms
    induction ms with
    | nil =>
        intro cs hcs
        cases hcs
        rfl
    | cons m ms ih =>
        intro cs hcs
        cases m with
        | half unit => simp [List.mapM_cons, Mark.char?] at hcs
        | char c =>
            simp only [List.mapM_cons, Mark.char?, Option.pure_def, Option.bind_eq_bind,
              Option.bind_some, Option.bind_eq_some_iff, Option.some.injEq] at hcs
            rcases hcs with ⟨rest, hrest, rfl⟩
            rw [List.map_cons, ih rest hrest]
  rcases Option.map_eq_some_iff.mp h with ⟨cs, hcs, rfl⟩
  rw [marks, String.toList_ofList, hmarks ms cs hcs]

@[simp] theorem marks_append (s t : String) : marks (s ++ t) = marks s ++ marks t := by
  simp [marks]

@[simp] theorem length_marks (s : String) : (marks s).length = s.length := by
  simp [marks, String.length_toList]

end Text
end ReviewDesk
