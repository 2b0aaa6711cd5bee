import Admissions.Applications.Choice
import Admissions.Applications.Fixture
import Admissions.Applications.Repository
import Admissions.Applications.Selection
import Admissions.Applications.Service
import Admissions.Applications.Submission
import Admissions.Applications.TaskView
import Admissions.Calendar.Date
import Admissions.Calendar.Instant
import Admissions.Calendar.Json
import Admissions.Calendar.Reading
import Admissions.Calendar.WorkingDays
import Admissions.Catalog
import Admissions.CommandLine.Arguments
import Admissions.CommandLine.Report
import Admissions.CommandLine.Run
import Admissions.Configuration
import Admissions.Course
import Admissions.CourseSelection.Answers
import Admissions.CourseSelection.Pages
import Admissions.Double
import Admissions.Features
import Admissions.Http.Request
import Admissions.Http.Response
import Admissions.Http.Router
import Admissions.Json.Decoding
import Admissions.Json.Document
import Admissions.Json.Printer
import Admissions.Json.Reader
import Admissions.Json.Shape
import Admissions.Json.Value
import Admissions.Main
import Admissions.Network.Address
import Admissions.Offer.Answers
import Admissions.Offer.Pages
import Admissions.Permissions.Answers
import Admissions.Permissions.Pages
import Admissions.ProgramError
import Admissions.RecordError
import Admissions.Rejections.Answers
import Admissions.Rejections.Pages
import Admissions.Rejections.Reason
import Admissions.Sample.Maze
import Admissions.Sample.Referee
import Admissions.Sample.Roster
import Admissions.SortedMap
import Admissions.Telemetry.FieldValue
import Admissions.Telemetry.Filter
import Admissions.Telemetry.Pattern.Basic
import Admissions.Telemetry.Pattern.Escape
import Admissions.Telemetry.Pattern.Reader
import Admissions.Telemetry.Pattern.SetReader
import Admissions.Text.Alphanumeric
import Admissions.Text.Blank
import Admissions.Text.CaseProperties
import Admissions.Text.Hidden
import Admissions.Text.Lowercase
import Admissions.Text.Numeral
import Admissions.Text.Percent
import Admissions.Text.Quoted
import Admissions.Text.Ranges
import Admissions.Wizard.Definition
import Admissions.Wizard.Envelope
import Admissions.Wizard.Handle
import Admissions.Wizard.Store
import Admissions.Wizard.Target
import Admissions.Wizard.ValidationErrors
import Admissions.Proofs.Json.Numeral
import Admissions.Proofs.Json.Quoting
import Admissions.Proofs.Json.RoundTrip
import Admissions.Proofs.Json.Codec
import Admissions.Proofs.Wizard.Store
import Admissions.Proofs.Wizard.Recall
import Admissions.Proofs.Wizard.Path
import Admissions.Proofs.CourseSelection.Encoding
import Admissions.Proofs.Offer.Encoding
import Admissions.Proofs.Permissions.Encoding
import Admissions.Proofs.Rejections.Encoding
import Admissions.Proofs.Wizard.Event
import Admissions.Proofs.Wizard.Frame
import Admissions.Proofs.Wizard.Visit
import Admissions.Proofs.Wizard.Back
import Admissions.Proofs.Permissions.Way
import Admissions.Proofs.Permissions.Reach
import Admissions.Proofs.Wizard.Trace
import Admissions.Proofs.Flows
import Admissions.Proofs.CourseSelection.Edits
import Admissions.Proofs.Wizard.Desk
import Admissions.Proofs.CourseSelection.Way
import Admissions.Proofs.CourseSelection.Back
import Admissions.Proofs.CourseSelection.Soundness
import Admissions.Proofs.Offer.Edits
import Admissions.Proofs.Offer.Way
import Admissions.Proofs.Offer.Back
import Admissions.Proofs.Text.Trim
import Admissions.Proofs.Offer.Soundness
import Admissions.Proofs.CourseSelection.LastPage
import Admissions.Proofs.Offer.LastPage
import Admissions.Proofs.LastPages
import Admissions.Proofs.BackLinks
import Admissions.Proofs.Wizard.Navigation
import Admissions.Proofs.CourseSelection.Navigation
import Admissions.Proofs.Offer.Navigation
import Admissions.Proofs.OpenPages
import Admissions.Proofs.Permissions.Soundness
import Admissions.Proofs.Rejections.Checks
import Admissions.Proofs.Wizard.Guided
import Admissions.Proofs.Choosing
import Admissions.Proofs.CourseSelection.Guided
import Admissions.Proofs.Offer.Guided
import Admissions.Proofs.AvailableOptions
import Admissions.Proofs.Applications.Repository
import Admissions.Proofs.Applications.Service
import Admissions.Proofs.Applications.Requests
import Admissions.Proofs.Applications.Submitting
import Admissions.Proofs.Applications.Sending
import Admissions.Proofs.Applications.Records
import Admissions.Proofs.Applications.Selections
import Admissions.Proofs.Applications.TaskView
import Admissions.Proofs.Wizard.Isolation
import Admissions.Proofs.Json.Maps
import Admissions.Proofs.Wizard.Editing
import Admissions.Proofs.CourseSelection.Editing
import Admissions.Proofs.Offer.Editing
import Admissions.Proofs.Rejections.Editing
import Admissions.Proofs.Permissions.Editing
import Admissions.Proofs.Resubmission
import Admissions.Proofs.Wizard.Permitted
import Admissions.Proofs.Wizard.Written
import Admissions.Proofs.CourseSelection.Belonging
import Admissions.Proofs.Offer.Belonging
import Admissions.Proofs.StoredAnswers
import Admissions.Proofs.Wizard.Delivery
import Admissions.Proofs.Deliveries
import Admissions.Proofs.Calendar.Gregorian
import Admissions.Proofs.Applications.Opening
import Admissions.Proofs.Wizard.Versions
import Admissions.Proofs.Rejections.Recording
import Admissions.Proofs.Permissions.Checking
import Admissions.Proofs.Permissions.Filing
import Admissions.Proofs.CourseChanges
import Admissions.Proofs.Wizard.Mistyped
import Admissions.Proofs.MistypedParameters
import Admissions.Proofs.Calendar.WorkingDays
import Admissions.Proofs.Applications.Urgency
import Admissions.Proofs.KeepFirst
import Admissions.Proofs.Applications.Ladder
import Admissions.Proofs.Applications.Overlap
import Admissions.Proofs.Applications.Rules
import Admissions.Proofs.Wizard.Merging
