import Admissions.Applications.Fixture
import Admissions.CommandLine.Arguments
import Admissions.CommandLine.Report
import Admissions.Http.Router
import Admissions.ProgramError

namespace Admissions.CommandLine

open Calendar (Date Instant)
open Network (SocketAddress)

structure Surroundings where
  environment : Configuration.Environment
  file : String → Except String String
  today : Date

structure Serving where
  address : SocketAddress
  site : Http.Site

inductive Outcome where
  | printed (text : String)
  | serving (serving : Serving)
  | failed (error : ProgramError)
  | misused
  /-- An overflow cut the command short. -/
  | aborted

variable (surroundings : Surroundings)

def configuration : Except ProgramError Configuration :=
  (Configuration.load surroundings.environment).mapError .configuration

def fixture (path : String) : Except ProgramError Fixture := do
  let text ← (surroundings.file path).mapError .io
  match Fixture.ofText? text with
  | some fixture => return fixture
  | none => throw (.fixture "the file does not hold a fixture")

def serviceOf (fixture : Fixture) (configuration : Configuration) : ApplicationService where
  repository := fixture.repository
  catalog := fixture.catalog
  policy := configuration.policy

def fixtureService (path : String) : Except ProgramError ApplicationService := do
  let configuration ← configuration surroundings
  return serviceOf (← fixture surroundings path) configuration

def ofService {α : Type} (result : ApplicationService.Result α) : Except ProgramError α :=
  result.mapError fun error => .application error.inWords

def taskView (path : String) (providerId : UInt64) (today : Option Date) (json : Bool) :
    Option (Except ProgramError String) :=
  match fixtureService surroundings path with
  | .error error => some (.error error)
  | .ok service =>
    let today := today.getD surroundings.today
    (service.taskView providerId (.startOfDay today)).map fun result => do
      let rows := (← ofService result).map TaskViewRow.ofEntry
      return if json then taskViewJson rows else taskViewText providerId today rows

def checkSubmission (path : String) (choice : UInt64) (today : Option Date) :
    Except ProgramError String := do
  let service ← fixtureService surroundings path
  let today := today.getD surroundings.today
  let blocking ← ofService (service.submissionErrors choice (.startOfDay today))
  return submissionText choice blocking

/-- Options override the host and the port that are configured. -/
def startServing (host : Option String) (port : Option UInt16) (path : Option String) :
    Except ProgramError Serving := do
  let configured ← configuration surroundings
  let configuration := { configured with
    host := host.getD configured.host
    port := port.getD configured.port }
  let preferred := surroundings.environment Telemetry.filterVariable
  let _ ← (Telemetry.chooseFilter preferred configuration.logLevel).mapError .telemetry
  let fixture ← (match path with
    | none => .ok .empty
    | some path => fixture surroundings path)
  let address ← configuration.socketAddress.mapError .configuration
  return { address, site := { service := serviceOf fixture configuration, ready := true } }

def versionText : String := "Apply Portal 0.1.0\n"

def helpText : String := lines [
  "Serve and inspect the teacher training application decision rules",
  "",
  "Usage: apply-portal-api [COMMAND]",
  "",
  "Commands:",
  "  serve             Start the HTTP service (default command)",
  "  task-view         Print a provider's prioritised task view from a fixture file",
  "  check-submission  Report whether an application choice in a fixture file can be submitted"]

def printing (result : Except ProgramError String) : Outcome :=
  match result with
  | .ok text => .printed text
  | .error error => .failed error

def perform : Command → Outcome
  | .serve host port path =>
    match startServing surroundings host port path with
    | .ok serving => .serving serving
    | .error error => .failed error
  | .taskView path providerId today json =>
    match taskView surroundings path providerId today json with
    | none => .aborted
    | some result => printing result
  | .checkSubmission path choice today =>
    printing (checkSubmission surroundings path choice today)

def run (arguments : List String) : Outcome :=
  match read? arguments with
  | none => .misused
  | some .help => .printed helpText
  | some .version => .printed versionText
  | some (.run command) => perform surroundings command

def failureText (error : ProgramError) : String :=
  lines ["application error: " ++ error.message]

end Admissions.CommandLine
