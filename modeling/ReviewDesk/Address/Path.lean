/-!
# Segments of a path

A segment that is a dot stays where it is, and two dots go back over the segment before
them.  The normal form of a path has neither.
-/

namespace ReviewDesk
namespace Address

def splitAt (mark : Char) : List Char → List (List Char)
  | [] => [[]]
  | c :: cs =>
      match splitAt mark cs with
      | [] => [[c]]
      | head :: rest => if c = mark then [] :: head :: rest else (c :: head) :: rest

def joinWith (mark : Char) : List (List Char) → List Char
  | [] => []
  | [cs] => cs
  | cs :: rest => cs ++ mark :: joinWith mark rest

theorem splitAt_ne_nil (mark : Char) (cs : List Char) : splitAt mark cs ≠ [] := by
  cases cs with
  | nil => simp [splitAt]
  | cons c cs =>
    unfold splitAt
    split
    · simp
    · split <;> simp

theorem joinWith_splitAt (mark : Char) (cs : List Char) :
    joinWith mark (splitAt mark cs) = cs := by
  induction cs with
  | nil => rfl
  | cons c cs ih =>
    unfold splitAt
    split
    · next h => exact absurd h (splitAt_ne_nil mark cs)
    · next head rest h =>
      rw [h] at ih
      split
      · next hc => subst hc; simp [joinWith, ih]
      · cases rest with
        | nil => simpa [joinWith] using ih
        | cons => simpa [joinWith] using ih

def dropDots (segments : List (List Char)) : List (List Char) :=
  (segments.foldl (fun kept s =>
    if s = ['.'] then kept
    else if s = ['.', '.'] then (if kept = [] || kept = [[]] then kept else kept.drop 1)
    else s :: kept) []).reverse

def normalPath (path : List Char) : List Char :=
  let segments := splitAt '/' path
  if segments.contains ['.'] || segments.contains ['.', '.'] then joinWith '/' (dropDots segments)
  else path

end Address
end ReviewDesk
