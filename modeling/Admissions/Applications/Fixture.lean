import Admissions.Applications.Repository
import Admissions.Catalog
import Admissions.Json.Reader

namespace Admissions

open Json (Value Shape)

structure Fixture where
  providers : List Provider
  courses : List Course
  courseOptions : List CourseOption
  forms : List ApplicationForm
  choices : List ApplicationChoice

namespace Fixture

def empty : Fixture := ⟨[], [], [], [], []⟩

def parts : List (String × Shape) :=
  [("providers", .list Provider.shape), ("courses", .list Course.shape),
    ("course_options", .list CourseOption.shape),
    ("application_forms", .list ApplicationForm.shape),
    ("application_choices", .list ApplicationChoice.shape)]

def ofJson? (value : Value) : Option Fixture := do
  let record ← value.record? (parts.map Prod.fst)
  return {
    providers := ← record.withDefault "providers" (Value.list? Provider.ofJson?) []
    courses := ← record.withDefault "courses" (Value.list? Course.ofJson?) []
    courseOptions :=
      ← record.withDefault "course_options" (Value.list? CourseOption.ofJson?) []
    forms := ← record.withDefault "application_forms" (Value.list? ApplicationForm.ofJson?) []
    choices :=
      ← record.withDefault "application_choices" (Value.list? ApplicationChoice.ofJson?) [] }

/-- Reads JSON text, in which no field of a record may repeat. -/
def ofText? (text : String) : Option Fixture := do
  ofJson? (← (← Json.parse text).shaped (.record parts))

def catalog (fixture : Fixture) : Catalog where
  providers := fixture.providers
  courses := fixture.courses
  options := fixture.courseOptions
  outage := .none

def repository (fixture : Fixture) : Repository := .seed fixture.choices fixture.forms

end Fixture

end Admissions
