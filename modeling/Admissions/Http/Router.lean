import Admissions.Applications.Service
import Admissions.Http.Request
import Admissions.Http.Response
import Admissions.Text.Percent
import Admissions.Text.Quoted

namespace Admissions.Http

open Json (Value)
open Calendar (Instant)

inductive Page where
  | submit (segment : String)
  | submissionErrors (segment : String)
  | taskView (segment : String)
  | health
  | ready
deriving DecidableEq

namespace Page

def ofPath? (path : String) : Option Page :=
  match (path.toList.splitOn '/').map String.ofList with
  | ["", "api", "v1", "application-choices", id, "submit"] => some (.submit id)
  | ["", "api", "v1", "application-choices", id, "submission-errors"] =>
    some (.submissionErrors id)
  | ["", "api", "v1", "providers", id, "task-view"] => some (.taskView id)
  | ["", "health"] => some .health
  | ["", "ready"] => some .ready
  | _ => none

def methods : Page → List String
  | .submit _ => ["POST"]
  | _ => ["GET", "HEAD"]

end Page

def readId (parameter segment : String) : Except Response UInt64 :=
  let refuse (fault : String) : Response := ⟨.badRequest, .text ("Invalid URL: " ++ fault)⟩
  match Text.percentDecode segment with
  | none => .error (refuse ("Invalid UTF-8 in `" ++ parameter ++ "`"))
  | some text =>
    match Text.readUInt64 text with
    | some id => .ok id
    | none => .error (refuse ("Cannot parse `" ++ Text.quoted text ++ "` to a `u64`"))

abbrev Refusal := ServiceError BrokenReference

def refusal (error : Refusal) : Response :=
  let status : Status := match error with
    | .repository (.unavailable _) => .unavailable
    | _ => .serverError
  .error status (error.message BrokenReference.describe)

def choiceRefusal (id : UInt64) (error : Refusal) : Response :=
  match error with
  | .repository .notFound =>
    .json .notFound (.record [("application_choice_id", .uint64 id),
      ("error", .string "application choice not found")])
  | error => refusal error

def submitted (choice : ApplicationChoice) : Response :=
  .json .accepted (.record [("application_choice_id", .uint64 choice.id),
    ("status", .string choice.status.label),
    ("sent_to_provider_at", .optional Instant.toJson choice.sentToProviderAt)])

def ineligible (error : EligibilityError) : Response :=
  .json .unprocessable (.record [("error", .string error.check.key),
    ("message", .string error.message), ("remedy", .string error.remedy.label)])

structure Site where
  service : ApplicationService
  ready : Bool

namespace Site

variable (site : Site)

def submit (id : UInt64) (now : Instant) : Response × Site :=
  let (outcome, service) := site.service.submit id now
  let response := match outcome with
    | .ok choice => submitted choice
    | .error (.ineligible error) => ineligible error
    | .error error => choiceRefusal id error
  (response, { site with service })

def submissionErrors (id : UInt64) (now : Instant) : Response :=
  match site.service.submissionErrors id now with
  | .ok blocking => .json .ok (.optional EligibilityError.toJson blocking)
  | .error error => choiceRefusal id error

def taskView (providerId : UInt64) (now : Instant) : Option Response :=
  (site.service.taskView providerId now).map fun
  | .ok entries => .json .ok (.list (fun entry => (TaskViewRow.ofEntry entry).toJson) entries)
  | .error error => refusal error

def probe (status : Status) (text : String) : Response :=
  .json status (.record [("status", .string text)])

/-- Answers a page asked for with one of its methods, unless an overflow cuts that short. -/
def answer (page : Page) (now : Instant) : Option Response × Site :=
  match page with
  | .submit segment =>
    match readId "application_choice_id" segment with
    | .ok id =>
      let (response, site) := site.submit id now
      (some response, site)
    | .error response => (some response, site)
  | .submissionErrors segment =>
    match readId "application_choice_id" segment with
    | .ok id => (some (site.submissionErrors id now), site)
    | .error response => (some response, site)
  | .taskView segment =>
    match readId "provider_id" segment with
    | .ok id => (site.taskView id now, site)
    | .error response => (some response, site)
  | .health => (some (probe .ok "ok"), site)
  | .ready =>
    (some (if site.ready then probe .ok "ready" else probe .unavailable "initializing"), site)

def respond (request : Request) (now : Instant) : Option Response × Site :=
  match Page.ofPath? request.path with
  | none => (some (.empty .notFound), site)
  | some page =>
    if page.methods.contains request.method then
      let (response, site) := site.answer page now
      (if request.method = "HEAD" then response.map .head else response, site)
    else (some (.empty .methodNotAllowed), site)

end Site

end Admissions.Http
