import Admissions.Proofs.CourseSelection.Editing
import Admissions.Proofs.Flows
import Admissions.Proofs.Offer.Editing
import Admissions.Proofs.Permissions.Editing
import Admissions.Proofs.Rejections.Editing

namespace Admissions

open Json (Value)
open Wizard

namespace Flow

def editing : (flow : Flow) → flow.wizard.Editing
  | courseSelection => CourseSelection.editing
  | offer => Offer.editing
  | rejections => Rejections.editing
  | permissions => Permissions.editing

theorem editing_settles (flow : Flow) : flow.editing.Settles := by
  cases flow with
  | courseSelection => exact CourseSelection.editing_settles
  | offer => exact Offer.editing_settles
  | rejections => exact Rejections.editing_settles
  | permissions => exact Permissions.editing_settles

end Flow

/-- Whatever is submitted, on whichever page and with whatever answers: the second time it has the
    outcome that it had the first time, and the handle and the whole store stay as they are then. -/
theorem resubmission_changes_nothing (flow : Flow) (session : Session flow.wizard)
    (params : SortedMap String Value) :
    (session.advance params.entries).2.advance params.entries = session.advance params.entries :=
  session.advance_advance flow.editing_settles params

end Admissions
