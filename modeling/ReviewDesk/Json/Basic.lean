import ReviewDesk.Number.Binary64
import ReviewDesk.Text.Mark

/-!
# JSON values

The outside services answer in JSON and the program passes some of what they say
through unchanged, so a value keeps apart whole numbers and binary numbers, and the
order of the members of an object.  A string with halves of surrogate pairs that
stand alone is kept apart from the ordinary ones.
-/

namespace ReviewDesk

open Text

inductive Json where
  | null
  | bool (b : Bool)
  | int (n : Int)
  | double (x : Binary64)
  | string (s : String)
  | unpaired (marks : List Mark)
  | array (items : List Json)
  | object (members : List (String × Json))

namespace Json

def ofMarks (ms : List Mark) : Json :=
  match text? ms with
  | some s => string s
  | none => unpaired ms

/-- Null, false, zero and everything empty stand for a value that was not given. -/
def isAbsent : Json → Bool
  | null => true
  | bool b => !b
  | int n => n == 0
  | double x => x.isZero
  | string s => s.isEmpty
  | unpaired ms => ms.isEmpty
  | array items => items.isEmpty
  | object members => members.isEmpty

def marks? : Json → Option (List Mark)
  | string s => some (marks s)
  | unpaired ms => some ms
  | _ => none

theorem marks?_ofMarks (ms : List Mark) : (ofMarks ms).marks? = some ms := by
  unfold ofMarks
  split
  · rename_i s hs
    rw [marks?, marks_of_text? hs]
  · rfl

def isString (v : Json) : Bool :=
  v.marks?.isSome

/-!
# Members of an object
-/

/-- Gives a name a value: in its place if the name is there, and else at the end. -/
def setMember (name : String) (value : Json) : List (String × Json) → List (String × Json)
  | [] => [(name, value)]
  | (other, old) :: rest =>
      if other = name then (name, value) :: rest else (other, old) :: setMember name value rest

def member? (name : String) : Json → Option Json
  | object members => members.lookup name
  | _ => none

theorem lookup_setMember (name : String) (value : Json) (members : List (String × Json)) :
    (setMember name value members).lookup name = some value := by
  induction members with
  | nil => simp [setMember]
  | cons m rest ih =>
    rcases m with ⟨other, old⟩
    by_cases h : other = name
    · simp [setMember, h]
    · have h' : (name == other) = false := by simp [Ne.symm h]
      simp [setMember, h, List.lookup_cons, h', ih]

end Json
end ReviewDesk
