import ReviewDesk.Log.Journal
import ReviewDesk.Settings.Environment

/-!
# Launching the server

The server is launched from the environment: the settings are read, the journal is
set up, and what is left for the server itself is where to listen and whether to
reload when the program changes.
-/

namespace ReviewDesk

structure Launch where
  host : String
  port : Int
  reload : Bool
  journal : Log.Journal
  deriving DecidableEq

inductive LaunchFailure where
  | settings (failure : SettingsFailure)
  | level (fault : Log.LevelFault)
  deriving DecidableEq

def LaunchFailure.message : LaunchFailure → String
  | settings failure => failure.message
  | level fault => "log_level: " ++ fault.message

namespace Launch

def ofEnvironment (env : Environment) : Except LaunchFailure Launch :=
  match Settings.ofEnvironment env with
  | .error failure => .error (.settings failure)
  | .ok s =>
      match Log.Journal.fresh.perform (Log.Journal.setup s.logLevel) with
      | (_, .error fault) => .error (.level fault)
      | (journal, .ok ()) => .ok ⟨s.apiHost, s.apiPort, s.debug, journal⟩

end Launch
end ReviewDesk
