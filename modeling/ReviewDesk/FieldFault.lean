/-!
# Faults of fields

A record that is read from outside has named fields.  Each fault tells where it is
and what kind of value was expected there.
-/

namespace ReviewDesk

inductive Expected where
  | present
  | integer
  | shortInteger
  | binary
  | truth
  | list
  | text
  | choice
  deriving DecidableEq

def Expected.description : Expected → String
  | present => "a value"
  | integer => "a whole number"
  | shortInteger => "a whole number of at most 4300 digits"
  | binary => "a number"
  | truth => "yes or no"
  | list => "a list"
  | text => "a text"
  | choice => "one of the names of a status"

structure FieldFault where
  location : String
  expected : Expected
  deriving DecidableEq

def FieldFault.message (f : FieldFault) : String :=
  f.location ++ ": expected " ++ f.expected.description

structure Checked (α : Type) where
  value : α
  faults : List FieldFault

end ReviewDesk
