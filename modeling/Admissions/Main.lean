import Admissions.CommandLine.Run
import Std.Time.DateTime.Timestamp

namespace Admissions.Main

open Admissions.CommandLine (Outcome Serving Surroundings)
open Calendar (Date Instant)

def variableNames : List String :=
  ["APP_ENV", "APP_HOST", "APP_PORT", "APP_LOG_LEVEL", "APPLY_CYCLE_YEAR", "APPLY_OPENS_ON",
    "APPLY_DEADLINE", "APPLY_FEATURE_FLAGS", "APPLY_RBD_WARNING_DAYS", Telemetry.filterVariable]

def readEnvironment : IO Configuration.Environment := do
  let values ← variableNames.mapM fun name => return (name, ← IO.getEnv name)
  return fun name => (values.lookup name).join

def readFiles (arguments : List String) : IO (String → Except String String) := do
  let candidates := arguments ++ arguments.filterMap fun argument =>
    (CommandLine.longOption? argument).bind Prod.snd
  let contents ← candidates.mapM fun (path : String) => do
    try return (path, Except.ok (← IO.FS.readFile path))
    catch _ => return (path, Except.error "No such file or directory (os error 2)")
  return fun path => (contents.lookup path).getD (.error "No such file or directory (os error 2)")

def presentInstant : IO Instant := do
  let now ← Std.Time.Timestamp.now
  let seconds := now.toSecondsSinceUnixEpoch.val
  return ⟨.clamp (seconds / 86400), (seconds % 86400).toNat, 0⟩

partial def serve (site : Http.Site) (input output : IO.FS.Stream) : IO Unit := do
  let line ← input.getLine
  if line.isEmpty then return
  let words := (Text.trim line).splitOn " "
  match words with
  | [method, target] =>
    match Http.Request.make? method target with
    | none =>
      output.putStrLn (toString Http.Status.badRequest.code)
      serve site input output
    | some request =>
      let (response, site) := site.respond request (← presentInstant)
      if let some response := response then
        output.putStrLn (toString response.status.code ++ " " ++ response.body.content)
      output.flush
      serve site input output
  | _ =>
    output.putStrLn (toString Http.Status.badRequest.code)
    serve site input output

def finish (outcome : Outcome) : IO UInt32 := do
  match outcome with
  | .printed text =>
    (← IO.getStdout).putStr text
    return 0
  | .failed error =>
    (← IO.getStderr).putStr (CommandLine.failureText error)
    return 1
  | .misused =>
    (← IO.getStderr).putStr CommandLine.helpText
    return 2
  | .aborted => return 101
  | .serving serving =>
    serve serving.site (← IO.getStdin) (← IO.getStdout)
    return 0

end Admissions.Main

open Admissions in
def main (arguments : List String) : IO UInt32 := do
  let surroundings : CommandLine.Surroundings := {
    environment := ← Main.readEnvironment
    file := ← Main.readFiles arguments
    today := (← Main.presentInstant).date }
  Main.finish (CommandLine.run surroundings arguments)
