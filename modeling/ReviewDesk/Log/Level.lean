import ReviewDesk.Text.Case

/-!
# Levels of the log

Levels are numbers, five of which have names; the unset level is below all of them.  A
level is chosen by its name in any case, or by one of two short names.
-/

namespace ReviewDesk
namespace Log

inductive Level where
  | unset
  | debug
  | info
  | warning
  | error
  | critical
  deriving DecidableEq

namespace Level

def value : Level → Nat
  | unset => 0
  | debug => 10
  | info => 20
  | warning => 30
  | error => 40
  | critical => 50

def name : Level → String
  | unset => "NOTSET"
  | debug => "DEBUG"
  | info => "INFO"
  | warning => "WARNING"
  | error => "ERROR"
  | critical => "CRITICAL"

def all : List Level := [unset, debug, info, warning, error, critical]

def shortNames : List (String × Level) := [("FATAL", critical), ("WARN", warning)]

def orElse (level other : Level) : Level :=
  if level = unset then other else level

def shown (n : Int) : String :=
  match all.find? fun level => (level.value : Int) == n with
  | some level => level.name
  | none => s!"Level {n}"

def ofName? (s : String) : Option Level :=
  (all.find? (·.name == s)).orElse fun _ => shortNames.lookup s

end Level

/-!
# Choosing a level

Two names belong to something else than a level: the default layout of a line and
the table of layouts.
-/

inductive LevelFault where
  | unknown
  | layout
  | layoutTable
  deriving DecidableEq

def LevelFault.message : LevelFault → String
  | unknown => "there is no such level"
  | layout => "a layout is no level"
  | layoutTable => "a table of layouts is no level"

def Level.choose (name : String) : Except LevelFault Level :=
  let s := Text.upper name
  match Level.ofName? s with
  | some level => .ok level
  | none =>
      if s = "BASIC_FORMAT" then .error .layout
      else if s = "_STYLES" then .error .layoutTable
      else .error .unknown

end Log
end ReviewDesk
