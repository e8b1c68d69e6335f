/-!
# Named values

A list gives values to names.  A name that gets another value keeps its place.
-/

namespace ReviewDesk
namespace Named

variable {α : Type}

def put (name : String) (value : α) : List (String × α) → List (String × α)
  | [] => [(name, value)]
  | (other, old) :: rest =>
      if other = name then (name, value) :: rest else (other, old) :: put name value rest

theorem lookup_put (name other : String) (value : α) (values : List (String × α)) :
    (put name value values).lookup other =
      if other = name then some value else values.lookup other := by
  induction values with
  | nil =>
      by_cases hsame : other = name
      · simp [put, hsame]
      · have hother : (other == name) = false := by simpa using hsame
        simp [put, List.lookup_cons, hother, hsame]
  | cons first rest ih =>
      rcases first with ⟨earlier, old⟩
      by_cases hearlier : earlier = name
      · rw [put, if_pos hearlier, List.lookup_cons, List.lookup_cons, hearlier]
        by_cases hsame : other = name
        · simp [hsame]
        · have hother : (other == name) = false := by simpa using hsame
          simp [hother, hsame]
      · rw [put, if_neg hearlier, List.lookup_cons, List.lookup_cons, ih]
        by_cases hsame : other = name
        · have hother : (name == earlier) = false := by simpa using Ne.symm hearlier
          simp [hsame, hother]
        · simp [hsame]

end Named
end ReviewDesk
