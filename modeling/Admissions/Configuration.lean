import Admissions.Applications.Service
import Admissions.Calendar.Reading
import Admissions.Features
import Admissions.Network.Address
import Admissions.Text.Numeral

namespace Admissions

open Calendar (Date ReadingError)
open Json (Value)
open Network (Address SocketAddress)

inductive Stage where
  | development
  | test
  | production
deriving DecidableEq

def Stage.name : Stage → String
  | .development => "Development"
  | .test => "Test"
  | .production => "Production"

def Stage.ofText (text : String) : Stage :=
  match (Text.trim text).map Char.toLower with
  | "prod" => .production
  | "production" => .production
  | "test" => .test
  | "ci" => .test
  | _ => .development

inductive ConfigurationError where
  | invalidPort
  | invalidHost
  | invalidCycleYear
  | invalidWarningDays
  | invalidDate (name : String) (cause : ReadingError)
  | invertedWindow (opens deadline : Date)
deriving DecidableEq

namespace ConfigurationError

def message : ConfigurationError → String
  | .invalidPort => "APP_PORT must be a valid u16"
  | .invalidHost => "APP_HOST must parse to an IPv4 or IPv6 address"
  | .invalidCycleYear => "APPLY_CYCLE_YEAR must be a year"
  | .invalidWarningDays => "APPLY_RBD_WARNING_DAYS must be a non-negative integer"
  | .invalidDate name _ => name ++ " must be YYYY-MM-DD"
  | .invertedWindow opens deadline =>
    "APPLY_DEADLINE (" ++ deadline.text ++ ") must not precede APPLY_OPENS_ON (" ++ opens.text ++
      ")"

def cause : ConfigurationError → Option String
  | .invalidHost => some "invalid IP address syntax"
  | .invalidDate _ cause => some cause.message
  | _ => none

def kind : ConfigurationError → String
  | .invalidPort => "invalid_port"
  | .invalidHost => "invalid_host"
  | .invalidCycleYear => "invalid_cycle_year"
  | .invalidWarningDays => "invalid_warning_days"
  | .invalidDate _ _ => "invalid_date"
  | .invertedWindow _ _ => "inverted_cycle_window"

def toJson (error : ConfigurationError) : Value :=
  .record [("error", .string error.kind), ("message", .string error.message),
    ("source", .optional .string error.cause)]

end ConfigurationError

structure Configuration where
  stage : Stage
  host : String
  port : UInt16
  logLevel : String
  cycleYear : Int32
  timetable : CycleTimetable
  warningDays : UInt32
  features : Features

namespace Configuration

abbrev Environment := String → Option String

def setting {α : Type} (environment : Environment) (name default : String)
    (read? : String → Option α) (error : ConfigurationError) : Except ConfigurationError α :=
  match read? ((environment name).getD default) with
  | some value => .ok value
  | none => .error error

def dateSetting (environment : Environment) (name default : String) :
    Except ConfigurationError Date :=
  (Date.readPlain ((environment name).getD default)).mapError (.invalidDate name)

def timetableSetting (environment : Environment) : Except ConfigurationError CycleTimetable := do
  let opens ← dateSetting environment "APPLY_OPENS_ON" "2023-10-10"
  let deadline ← dateSetting environment "APPLY_DEADLINE" "2024-09-17"
  if deadline < opens then throw (.invertedWindow opens deadline)
  return ⟨opens, deadline⟩

def load (environment : Environment) : Except ConfigurationError Configuration := do
  let port ← setting environment "APP_PORT" "3000" Text.readUInt16 .invalidPort
  let cycleYear ← setting environment "APPLY_CYCLE_YEAR" "2024" Text.readInt32 .invalidCycleYear
  let timetable ← timetableSetting environment
  let warningDays ←
    setting environment "APPLY_RBD_WARNING_DAYS" "5" Text.readUInt32 .invalidWarningDays
  return {
    stage := .ofText ((environment "APP_ENV").getD "development")
    host := (environment "APP_HOST").getD "127.0.0.1"
    port
    logLevel := (environment "APP_LOG_LEVEL").getD "info"
    cycleYear
    timetable
    warningDays
    features := .ofText ((environment "APPLY_FEATURE_FLAGS").getD "") }

def loopback : Address := .v4 ⟨127, 0, 0, 1⟩

/-- The address of a host: `localhost` in any case, or an address in text. -/
def hostAddress (host : String) : Except ConfigurationError Address :=
  if host.map Char.toLower = "localhost" then .ok loopback
  else
    match Address.ofText? host with
    | some address => .ok address
    | none => .error .invalidHost

def socketAddress (configuration : Configuration) : Except ConfigurationError SocketAddress := do
  return ⟨← hostAddress configuration.host, configuration.port⟩

def policy (configuration : Configuration) : ApplicationPolicy where
  timetable := configuration.timetable
  currentCycleYear := configuration.cycleYear
  warningDays := configuration.warningDays
  rules := .standard
  ladder := .standard

end Configuration

end Admissions
