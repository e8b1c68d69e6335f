import ReviewDesk.Number.Integer
import ReviewDesk.Site.Directory
import ReviewDesk.Text.Percent

/-!
# Addresses of files

A file can be named by an address of its own, with a path and options.  The options say
what may be done to the file, by which system of files it is reached, and whether it is
left as it is.
-/

namespace ReviewDesk

open Text

structure Opening where
  file : Option String
  access : FileAccess
  deriving DecidableEq

structure FileAddress where
  path : String
  options : List (String × String)
  deriving DecidableEq

namespace FileAddress

/-!
# Reading

A null character that is written by number ends the part in which it stands.
-/

def start : List Char := "file:".toList

def decoded (cs : List Char) : String :=
  utf8Lenient ((Percent.decodeBytes cs).takeWhile (· != 0))

def option? (piece : String) : Option (String × String) :=
  let name := decoded (piece.toList.takeWhile (· != '='))
  if name.isEmpty then none
  else some (name, decoded ((piece.toList.dropWhile (· != '=')).drop 1))

def localHosts : List (List Char) := [[], "localhost".toList]

def behindHost : List Char → Except OpeningFault (List Char)
  | '/' :: '/' :: cs =>
      if localHosts.contains (cs.takeWhile (· != '/')) then .ok (cs.dropWhile (· != '/'))
      else .error .badOption
  | cs => .ok cs

def read (cs : List Char) : Except OpeningFault FileAddress := do
  let cs := (← behindHost cs).takeWhile (· != '#')
  let query := String.ofList ((cs.dropWhile (· != '?')).drop 1)
  return ⟨decoded (cs.takeWhile (· != '?')), (query.splitOn "&").filterMap option?⟩

/-!
# Modes

A mode may be followed by one that allows less.  After the mode for memory any mode may
follow.
-/

inductive Mode where
  | read
  | write
  | create
  | memory
  deriving DecidableEq

namespace Mode

def ofName? : String → Option Mode
  | "ro" => some read
  | "rw" => some write
  | "rwc" => some create
  | "memory" => some memory
  | _ => none

def width : Mode → Nat
  | memory => 0
  | read => 1
  | write => 2
  | create => 3

def mayPrecede (before after : Mode) : Bool :=
  before = memory || after.width ≤ before.width

def access : Mode → FileAccess
  | read => ⟨false, false⟩
  | write => ⟨false, true⟩
  | _ => .full

end Mode

def follow (before : Mode) (name : String) : Except OpeningFault Mode :=
  match Mode.ofName? name with
  | none => .error .badOption
  | some mode => if before.mayPrecede mode then .ok mode else .error .badOption

def mode (a : FileAddress) : Except OpeningFault Mode :=
  (a.options.filter (·.1 = "mode")).foldlM (fun before option => follow before option.2) .create

/-!
# Other options
-/

def sharing : List String := ["shared", "private"]

def sharesWell (a : FileAddress) : Bool :=
  a.options.all fun (name, value) => name != "cache" || sharing.contains value

def memorySystem : String := "memdb"

def systems : List String :=
  ["unix", "unix-none", "unix-dotfile", "unix-excl", memorySystem]

def system (a : FileAddress) : String :=
  ((a.options.filter (·.1 = "vfs")).getLast?.map (·.2)).getD "unix"

def setWords : List String := ["on", "yes", "true"]

/-- Numbers count by their lowest byte, and too large ones not at all. -/
def isSet (value : String) : Bool :=
  let digits := value.toList.takeWhile Integer.isDigit
  if digits.isEmpty then setWords.contains (String.ofList (value.toList.map Char.toLower))
  else
    let n := Nat.ofDigitChars 10 digits 0
    n < 0x80000000 && n % 0x100 != 0

/-- The file is left as it is: of several such options the first one counts. -/
def isFrozen (a : FileAddress) : Bool :=
  (a.options.lookup "immutable").any isSet

/-!
# Opening
-/

def isMemoryName (name : String) : Bool :=
  name.isEmpty || name == ":memory:"

def opening (a : FileAddress) : Except OpeningFault Opening := do
  let mode ← a.mode
  if !a.sharesWell || !systems.contains a.system then throw .badOption
  if mode = .memory || isMemoryName a.path then return ⟨none, mode.access⟩
  let access := if a.isFrozen then { mode.access with mayWrite := false } else mode.access
  return ⟨if a.system = memorySystem then none else some a.path, access⟩

def openingOf (name : String) : Except OpeningFault Opening :=
  if start.isPrefixOf name.toList then do (← read (name.toList.drop start.length)).opening
  else .ok ⟨if isMemoryName name then none else some name, .full⟩

end FileAddress
end ReviewDesk
