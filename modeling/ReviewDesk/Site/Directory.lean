import ReviewDesk.Site.Fault

/-!
# Directories and files

A directory holds directories and files, each named by its place.  A file may have been
made without the table that belongs into it.
-/

namespace ReviewDesk

abbrev Path := List String

/-!
# Places

A path starts here or at the root.  A dot stays where it is and two dots go up; above
this directory there is another one.
-/

inductive Top where
  | here
  | above
  | root
  deriving DecidableEq

structure Place where
  top : Top
  names : Path
  deriving DecidableEq

namespace Place

def start (path : String) : Place :=
  ⟨if path.toList.head? = some '/' then .root else .here, []⟩

def upwards : Top → Top
  | .root => .root
  | _ => .above

def step (place : Place) (name : String) : Place :=
  if name = "." then place
  else if name = ".." then
    if place.names.isEmpty then ⟨upwards place.top, []⟩ else { place with names := place.names.dropLast }
  else { place with names := place.names ++ [name] }

def parent (place : Place) : Place :=
  place.step ".."

def segments (path : String) : List String :=
  (path.splitOn "/").filter (!·.isEmpty)

def ofPath (path : String) : Place :=
  (segments path).foldl step (start path)

def text (place : Place) : String :=
  String.intercalate "/" place.names

end Place

/-!
# Directories
-/

structure FileAccess where
  mayCreate : Bool
  mayWrite : Bool
  deriving DecidableEq

def FileAccess.full : FileAccess := ⟨true, true⟩

structure Directory where
  directories : List Place
  files : List Place
  /-- The files that hold no table. -/
  blank : List Place
  deriving DecidableEq

namespace Directory

def empty : Directory := ⟨[], [], []⟩

def systemNames : List String :=
  ["bin", "dev", "etc", "home", "proc", "root", "tmp", "usr", "var"]

def isSystem (place : Place) : Bool :=
  place.top = .root && match place.names with
    | [name] => systemNames.contains name
    | _ => false

def hasDirectory (d : Directory) (place : Place) : Bool :=
  place.names.isEmpty || isSystem place || d.directories.contains place

def hasFile (d : Directory) (place : Place) : Bool :=
  d.files.contains place

/-!
# Making directories

Every directory on the way that is missing is made.  Those that were made stay even if a
later one cannot be.
-/

def maxNameBytes : Nat := 255

def isLongName (name : String) : Bool :=
  maxNameBytes < name.utf8ByteSize

def nameFault? (name : String) : Option DirectoryFault :=
  if name.contains (Char.ofNat 0) then some .zero
  else if isLongName name then some .longName
  else none

def makeFrom (d : Directory) (place : Place) : List String → Directory × Option DirectoryFault
  | [] => (d, none)
  | name :: rest =>
      let next := place.step name
      if (nameFault? name).isSome then (d, nameFault? name)
      else if d.hasDirectory next then d.makeFrom next rest
      else if d.hasFile next then (d, some (if rest.isEmpty then .isFile else .insideFile))
      else Directory.makeFrom { d with directories := d.directories ++ [next] } next rest

theorem makeFrom_files (d : Directory) (place : Place) (names : List String) :
    (d.makeFrom place names).1.files = d.files := by
  induction names generalizing d place with
  | nil => rfl
  | cons name rest ih =>
      rw [makeFrom]
      split
      · rfl
      · split
        · exact ih d (place.step name)
        · split
          · rfl
          · exact ih _ (place.step name)

def make (d : Directory) (path : String) : Directory × Option DirectoryFault :=
  d.makeFrom (Place.start path) (Place.segments path)

def parentPath (path : String) : String :=
  String.intercalate "/" (path.splitOn "/").dropLast

/-!
# Files

While a table is written a second file lies beside the first one, with a longer name.
-/

def besideLength : Nat := "-journal".length

def canHaveBeside (place : Place) : Bool :=
  !(place.names.getLast?.any fun name => maxNameBytes < name.utf8ByteSize + besideLength)

def fill (d : Directory) (access : FileAccess) (place : Place) : Directory × Option OpeningFault :=
  if !d.blank.contains place then (d, none)
  else if !access.mayWrite then (d, some .readOnly)
  else if !canHaveBeside place then (d, some .unreachable)
  else ({ d with blank := d.blank.filter (· ≠ place) }, none)

theorem fill_files (d : Directory) (access : FileAccess) (place : Place) :
    (d.fill access place).1.files = d.files := by
  rw [fill]
  split
  · rfl
  · split
    · rfl
    · split <;> rfl

def maxPathBytes : Nat := 504

def wayBytes : Top → Nat
  | .here => 17
  | .above => 5
  | .root => 1

def isLongPath (place : Place) : Bool :=
  maxPathBytes < wayBytes place.top + place.text.utf8ByteSize || place.names.any isLongName

def addFile (d : Directory) (place : Place) : Directory :=
  { d with files := d.files ++ [place], blank := d.blank ++ [place] }

def openFile (d : Directory) (access : FileAccess) (path : String) : Directory × Option OpeningFault :=
  let place := Place.ofPath path
  if isLongPath place || d.hasDirectory place then (d, some .unreachable)
  else if d.hasFile place then d.fill access place
  else if access.mayCreate && d.hasDirectory place.parent then (d.addFile place).fill access place
  else (d, some .unreachable)

def listing (d : Directory) : List String :=
  ((d.files.filter (·.top = .here)).map Place.text).mergeSort fun a b => decide (a ≤ b)

end Directory
end ReviewDesk
