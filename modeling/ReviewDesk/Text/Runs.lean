/-!
# Runs of characters

A property of characters is given by the runs of code points that have it, each by its
first and its last one, in ascending order.
-/

namespace ReviewDesk
namespace Text

abbrev Runs := List (Nat × Nat)

namespace Runs

def holds (runs : Runs) (n : Nat) : Bool :=
  match runs with
  | [] => false
  | (first, last) :: rest => if n < first then false else n ≤ last || holds rest n

def has (runs : Runs) (c : Char) : Bool :=
  runs.holds c.toNat

end Runs
end Text
end ReviewDesk
