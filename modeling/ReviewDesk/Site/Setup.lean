import ReviewDesk.Settings.Environment
import ReviewDesk.Site.Location
import ReviewDesk.Site.Schema

/-!
# Setting up the database

The database is made at the place that the settings name, with the directories on
the way to it.
-/

namespace ReviewDesk

inductive SetupFailure where
  | settings (failure : SettingsFailure)
  | location (fault : LocationFault)
  | directory (fault : DirectoryFault)
  | opening (fault : OpeningFault)
  deriving DecidableEq

def SetupFailure.message : SetupFailure → String
  | settings failure => failure.message
  | location fault => "database_url: " ++ fault.message
  | directory fault => "database_url: " ++ fault.message
  | opening fault => "database_url: " ++ fault.message

namespace Setup

def makeWay (d : Directory) (l : Location) : Directory × Option DirectoryFault :=
  l.filePath?.elim (d, none) fun path => d.make (Directory.parentPath path)

def openAt (d : Directory) (o : Opening) : Directory × Option OpeningFault :=
  match o.file with
  | none => (d, if o.access.mayWrite then none else some .readOnly)
  | some path => d.openFile o.access path

def makeTable (d : Directory) (l : Location) : Directory × Option OpeningFault :=
  match l.opening with
  | .error fault => (d, some fault)
  | .ok o => openAt d o

def place (d : Directory) (l : Location) : Directory × Option SetupFailure :=
  match makeWay d l with
  | (d, some fault) => (d, some (.directory fault))
  | (d, none) => ((makeTable d l).1, (makeTable d l).2.map .opening)

def doneText (address : String) : String :=
  "✅ 数据库表创建完成: " ++ address ++ "\n"

def run (d : Directory) (env : Environment) : Directory × Except SetupFailure String :=
  match Settings.ofEnvironment env with
  | .error failure => (d, .error (.settings failure))
  | .ok s =>
      match Location.ofAddress s.databaseUrl with
      | .error fault => (d, .error (.location fault))
      | .ok location =>
          let (d, failure?) := place d location
          (d, failure?.elim (.ok (doneText s.databaseUrl)) .error)

end Setup
end ReviewDesk
