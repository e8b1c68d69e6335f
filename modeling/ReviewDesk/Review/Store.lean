import ReviewDesk.Review.Basic

/-!
# The store

The store holds reviews in the order in which they were saved, each id at most once.
-/

namespace ReviewDesk

structure Store where
  rows : List Review

namespace Store

def empty : Store := ⟨[]⟩

def size (s : Store) : Nat := s.rows.length

def find? (s : Store) (id : String) : Option Review :=
  s.rows.find? (·.id == id)

def contains (s : Store) (id : String) : Bool :=
  (s.find? id).isSome

def insert? (s : Store) (r : Review) : Option Store :=
  if s.contains r.id then none else some ⟨s.rows ++ [r]⟩

def erase (s : Store) (id : String) : Store :=
  ⟨s.rows.filter (·.id != id)⟩

def eraseAll (s : Store) (ids : List String) : Store :=
  ids.foldl erase s

/-- The reviews from the newest to the oldest; of reviews of the same instant, the
one saved first comes first. -/
def newestFirst (s : Store) : List Review :=
  s.rows.mergeSort fun a b => b.createdAt.micros ≤ a.createdAt.micros

end Store
end ReviewDesk
