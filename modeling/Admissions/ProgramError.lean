import Admissions.Configuration
import Admissions.Http.Response
import Admissions.Telemetry.Filter
import Admissions.Wizard.Definition

namespace Admissions

open Http (Response Status)

inductive ProgramError where
  | configuration (error : ConfigurationError)
  | telemetry (error : Telemetry.TelemetryError)
  | io (cause : String)
  | server (cause : String)
  | fixture (cause : String)
  | wizard (error : Wizard.Failure String)
  | application (error : ServiceError String)

namespace ProgramError

def cause : ProgramError → String
  | .configuration error => error.message
  | .telemetry error => error.message
  | .io cause => cause
  | .server cause => cause
  | .fixture cause => cause
  | .wizard error => error.message id
  | .application error => error.message id

def family : ProgramError → String
  | .configuration _ => "configuration"
  | .telemetry _ => "telemetry"
  | .io _ => "io"
  | .server _ => "server"
  | .fixture _ => "fixture"
  | .wizard _ => "wizard"
  | .application _ => "application"

def message (error : ProgramError) : String := error.family ++ " error: " ++ error.cause

def status : ProgramError → Status
  | .wizard (.store (.unavailable _)) => .unavailable
  | .application (.repository (.unavailable _)) => .unavailable
  | .application (.repository .notFound) => .notFound
  | .application (.ineligible _) => .unprocessable
  | .fixture _ => .badRequest
  | _ => .serverError

def response (error : ProgramError) : Response := .error error.status error.message

end ProgramError

end Admissions
