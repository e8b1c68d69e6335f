import ReviewDesk.Launch
import ReviewDesk.Site.Setup
import ReviewDesk.Smoke
import ReviewDesk.Web.Console

/-!
# Command line

`smoke` makes the smoke test on a fresh application, `setup` prints the statement
that makes the table of reviews, and `serve` answers the requests on its standard
input.  No service is reached from here: whatever is asked of one fails.
-/

namespace ReviewDesk
namespace CommandLine

open Web

def usage : String := "usage: smoke [--with-external] | setup | serve"

def unreachableText : String := "Connection error."

def unreachable : Outside :=
  { identity := fun n => ⟨Text.hexField 32 n, .ofSeconds (60 * n)⟩
    tag := fun n => Text.hexField 12 n
    now := .start
    polish := .error (.model .connection unreachableText)
    rate := .error (.transfer (.request .connect) unreachableText)
    upload := .error (.archive .transport unreachableText)
    remove := .error (.archive .transport unreachableText)
    vanishing := [] }

def application (s : Settings) : App :=
  let archive := s.archive (.error (.system .fileNotFound "no credentials"))
  .make ⟨s.polisher, Pricing.standard, s.office, archive, .empty⟩
    (s.corsOrigins.filterMap Text.text?)

def readEnvironment : IO Environment := do
  let spellings := Settings.names ++ Settings.names.map Text.upper
  let texts ← spellings.mapM fun name => do
    return (← IO.getEnv name).map fun text => (name, text)
  return texts.filterMap id

def refuse (message : String) : IO UInt32 := do
  IO.eprintln message
  return 1

def smoke (arguments : List String) : IO UInt32 := do
  match Settings.ofEnvironment (Smoke.environment (← readEnvironment) arguments) with
  | .error failure => refuse failure.message
  | .ok s =>
      let (_, _, report) := Smoke.perform (application s) unreachable arguments
      IO.print report.text
      return .ofNat report.code

def setup : IO UInt32 := do
  match (Setup.run .empty (← readEnvironment)).2 with
  | .error failure => refuse failure.message
  | .ok _ =>
      IO.print Schema.statement
      return 0

partial def answerLines (input output : IO.FS.Stream) (a : App) : IO Unit := do
  let line ← input.getLine
  if line.isEmpty then return ()
  let (a, answer) := Console.answer a unreachable line
  output.putStrLn answer
  output.flush
  answerLines input output a

def serve : IO UInt32 := do
  let env ← readEnvironment
  match Launch.ofEnvironment env, Settings.ofEnvironment env with
  | .error failure, _ => refuse failure.message
  | _, .error failure => refuse failure.message
  | .ok _, .ok s =>
      answerLines (← IO.getStdin) (← IO.getStdout) (application s)
      return 0

end CommandLine
end ReviewDesk

def main (arguments : List String) : IO UInt32 :=
  match arguments with
  | "smoke" :: rest => ReviewDesk.CommandLine.smoke rest
  | ["setup"] => ReviewDesk.CommandLine.setup
  | ["serve"] => ReviewDesk.CommandLine.serve
  | _ => do
      IO.eprintln ReviewDesk.CommandLine.usage
      return 2
